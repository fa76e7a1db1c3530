import RestGateway.Filter.Basic

/-!
# Parameters of the backend's methods

Each payload is written as an object of its declared members in their order. Field values of a new
or changed entity come from an object, one pair for each of its members.
-/

set_option autoImplicit false

namespace RestGateway

def Json.ofInt (n : Int) : Json := .number (.int n)

def Json.strings (ss : List String) : Json := .list (ss.map .string)

structure Paging where
  page : Int
  pageSize : Int
  deriving DecidableEq, Repr

namespace Paging

def start : Paging := ⟨1, 500⟩

def toJson (p : Paging) : Json :=
  .object [("current_page", .ofInt p.page), ("entities_per_page", .ofInt p.pageSize)]

open Json.Reader in
def decoder : Json.Decoder Paging :=
  .record "Paging" start fun depth => [
    required "current_page" (fun v p => { p with page := v }) (Json.Decoder.word depth),
    required "entities_per_page" (fun v p => { p with pageSize := v }) (Json.Decoder.word depth)]

end Paging

structure ReadQuery where
  fields : List String
  entityType : String
  pagingInfo : Bool
  imageUrls : Bool
  only : String
  paging : Paging
  filter : Filter

namespace ReadQuery

def ofType (entityType : String) : ReadQuery :=
  ⟨["id"], entityType, true, true, "active", .start, .empty⟩

def byId (entityType : String) (id : Int) : ReadQuery :=
  { ofType entityType with paging := { Paging.start with pageSize := 1 }, filter := .byId id }

/-- Asks for other fields; an empty list changes nothing. -/
def withFields (q : ReadQuery) (fields : List String) : ReadQuery :=
  if fields.isEmpty then q else { q with fields }

def toJson (q : ReadQuery) : Json :=
  .object [("return_fields", .strings q.fields), ("type", .string q.entityType),
    ("return_paging_info", .bool q.pagingInfo), ("api_return_image_urls", .bool q.imageUrls),
    ("return_only", .string q.only), ("paging", q.paging.toJson), ("filters", q.filter.toJson)]

end ReadQuery

structure Summary where
  field : String
  kind : String
  deriving DecidableEq, Repr

namespace Summary

def toJson (s : Summary) : Json := .object [("field", .string s.field), ("type", .string s.kind)]

open Json.Reader in
def decoder : Json.Decoder Summary :=
  .record "Summary" ⟨"", ""⟩ fun depth => [
    required "field" (fun v s => { s with field := v }) (Json.Decoder.string depth),
    required "type" (fun v s => { s with kind := v }) (Json.Decoder.string depth)]

end Summary

structure Grouping where
  direction : String
  field : String
  kind : String
  deriving DecidableEq, Repr

namespace Grouping

def toJson (g : Grouping) : Json :=
  .object [("direction", .string g.direction), ("field", .string g.field),
    ("type", .string g.kind)]

open Json.Reader in
def decoder : Json.Decoder Grouping :=
  .record "Grouping" ⟨"", "", ""⟩ fun depth => [
    defaulted "direction" (fun v g => { g with direction := v }) (Json.Decoder.string depth),
    required "field" (fun v g => { g with field := v }) (Json.Decoder.string depth),
    required "type" (fun v g => { g with kind := v }) (Json.Decoder.string depth)]

end Grouping

structure SummarizeQuery where
  entityType : String
  filter : Filter
  grouping : List Grouping
  summaries : List Summary

namespace SummarizeQuery

def ofType (entityType : String) : SummarizeQuery := ⟨entityType, .empty, [], []⟩

/-- A member that is left out when its list is empty. -/
def unlessEmpty (name : String) (items : List Json) : Members :=
  if items.isEmpty then [] else [(name, .list items)]

def toJson (q : SummarizeQuery) : Json :=
  .object ([("type", .string q.entityType), ("filters", q.filter.toJson)] ++
    unlessEmpty "grouping" (q.grouping.map Grouping.toJson) ++
    unlessEmpty "summaries" (q.summaries.map Summary.toJson))

end SummarizeQuery

structure FieldValue where
  field : String
  value : Json

namespace FieldValue

def toJson (f : FieldValue) : Json := .object [("field_name", .string f.field), ("value", f.value)]

def ofMembers (members : Members) : List FieldValue := members.map fun m => ⟨m.1, m.2⟩

end FieldValue

structure CreateQuery where
  returned : List String
  entityType : String
  fields : List FieldValue

namespace CreateQuery

def make (entityType : String) (members : Members) : CreateQuery :=
  ⟨["id"], entityType, FieldValue.ofMembers members⟩

def toJson (q : CreateQuery) : Json :=
  .object [("return_fields", .strings q.returned), ("type", .string q.entityType),
    ("fields", .list (q.fields.map FieldValue.toJson))]

end CreateQuery

structure UpdateQuery where
  entityType : String
  id : Int
  fields : List FieldValue

namespace UpdateQuery

def make (entityType : String) (id : Int) (members : Members) : UpdateQuery :=
  ⟨entityType, id, FieldValue.ofMembers members⟩

def toJson (q : UpdateQuery) : Json :=
  .object [("type", .string q.entityType), ("id", .ofInt q.id),
    ("fields", .list (q.fields.map FieldValue.toJson))]

end UpdateQuery

structure EntityRef where
  entityType : String
  id : Int
  deriving DecidableEq, Repr

def EntityRef.toJson (r : EntityRef) : Json :=
  .object [("type", .string r.entityType), ("id", .ofInt r.id)]

end RestGateway
