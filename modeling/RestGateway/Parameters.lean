import RestGateway.Backend.Query
import RestGateway.Error
import RestGateway.Text.Split

/-!
# Query-string parameters

Names are compared without regard to the case of ASCII letters, the first pair with a name counts,
and other names are ignored.
-/

set_option autoImplicit false

namespace RestGateway

abbrev Parameters := List (String × String)

namespace Parameters

def find? (ps : Parameters) (name : String) : Option String :=
  (List.find? (fun p => Ascii.same p.1 name) ps).map Prod.snd

def word? (s : String) : Option Int := (Ascii.integer? s.toList).bind Word.ofInt?

def parseWord (name value : String) : Except GatewayError Int :=
  match word? value with
  | some n => .ok n
  | none => .error (.badRequest ("Could not convert " ++ name ++ " '" ++ value ++ "' to int"))

/-- The parameter as an integer; absent and empty ones give `current`. -/
def wordOr (ps : Parameters) (name : String) (current : Int) : Except GatewayError Int :=
  match ps.find? name with
  | some value => if value.isEmpty then .ok current else parseWord name value
  | none => .ok current

/-- A list of fields; empty text lists none. -/
def parseFields (value : String) : List String :=
  if value.isEmpty then [] else (Text.splitOn ',' value.toList).map String.ofList

def applyFields (ps : Parameters) (q : ReadQuery) : ReadQuery :=
  match ps.find? "fields" with
  | some value => q.withFields (parseFields value)
  | none => q

def filterOr (ps : Parameters) (formats : Registry) (current : Filter) :
    Except GatewayError Filter :=
  match ps.find? "q" with
  | some value => (formats.parse value).mapError .query
  | none => .ok current

def applyRead (ps : Parameters) (formats : Registry) (q : ReadQuery) :
    Except GatewayError ReadQuery := do
  let page ← ps.wordOr "page" q.paging.page
  let pageSize ← ps.wordOr "limit" q.paging.pageSize
  let filter ← ps.filterOr formats q.filter
  .ok (ps.applyFields { q with paging := ⟨page, pageSize⟩, filter })

def listOr {α : Type} (ps : Parameters) (name : String) (item : Json.Decoder α)
    (current : List α) : Except GatewayError (List α) :=
  match ps.find? name with
  | some value =>
    ((Json.Decoder.list item).decode (Utf8.bytes value)).mapError fun m =>
      .badRequest ("Invalid " ++ name ++ " parameter: " ++ m)
  | none => .ok current

def applySummarize (ps : Parameters) (formats : Registry) (q : SummarizeQuery) :
    Except GatewayError SummarizeQuery := do
  let filter ← ps.filterOr formats q.filter
  let summaries ← ps.listOr "summaries" Summary.decoder q.summaries
  let grouping ← ps.listOr "grouping" Grouping.decoder q.grouping
  .ok { q with filter, summaries, grouping }

end Parameters

end RestGateway
