import RestGateway.Backend.Client
import RestGateway.Proofs.Json.RoundTrip
import RestGateway.Proofs.Wire.Values

/-!
# What the backend receives

The body of a call is one object of a method's name and two parameters. Its text is read back as
just that, whatever strings and values went into it: nothing that a caller wrote can end its own
string or add a member. So the text of a body determines the method, the caller and the payload.
What the backend reads of a part, `received`, has its members in ascending order of names.
-/

set_option autoImplicit false

namespace RestGateway
open Json

def Credentials.received : Credentials → Json
  | script name key => .object [("script_key", .string key), ("script_name", .string name)]
  | user login password =>
    .object [("user_login", .string login), ("user_password", .string password)]

def Condition.received (c : Condition) : Json :=
  .object [("path", .string c.path), ("relation", .string c.relation), ("values", .list c.values)]

def Filter.received (f : Filter) : Json :=
  .object [("conditions", .list (f.conditions.map Condition.received)),
    ("logical_operator", .string f.operator.name)]

def Paging.received (p : Paging) : Json :=
  .object [("current_page", .number (.int p.page)),
    ("entities_per_page", .number (.int p.pageSize))]

def Summary.received (s : Summary) : Json :=
  .object [("field", .string s.field), ("type", .string s.kind)]

def Grouping.received (g : Grouping) : Json :=
  .object [("direction", .string g.direction), ("field", .string g.field),
    ("type", .string g.kind)]

def FieldValue.received (f : FieldValue) : Json :=
  .object [("field_name", .string f.field), ("value", f.value)]

inductive Payload where
  | read (q : ReadQuery)
  | summarize (q : SummarizeQuery)
  | create (q : CreateQuery)
  | update (q : UpdateQuery)
  | entity (r : EntityRef)

namespace Payload

def toJson : Payload → Json
  | read q => q.toJson
  | summarize q => q.toJson
  | create q => q.toJson
  | update q => q.toJson
  | entity r => r.toJson

/-- Ids and page numbers are words, and the values filled in by a caller are as if read. -/
def isProper : Payload → Bool
  | read q => q.paging.isProper && q.filter.isProper
  | summarize q => q.filter.isProper
  | create q => q.fields.all fun f => f.value.isProper
  | update q => Word.holds q.id && q.fields.all fun f => f.value.isProper
  | entity r => Word.holds r.id

def received : Payload → Json
  | read q =>
    .object [("api_return_image_urls", .bool q.imageUrls), ("filters", q.filter.received),
      ("paging", q.paging.received), ("return_fields", .list (q.fields.map .string)),
      ("return_only", .string q.only), ("return_paging_info", .bool q.pagingInfo),
      ("type", .string q.entityType)]
  | summarize q =>
    .object ([("filters", q.filter.received)] ++
      (if q.grouping = [] then [] else [("grouping", .list (q.grouping.map Grouping.received))]) ++
      (if q.summaries = [] then [] else [("summaries", .list (q.summaries.map Summary.received))]) ++
      [("type", .string q.entityType)])
  | create q =>
    .object [("fields", .list (q.fields.map FieldValue.received)),
      ("return_fields", .list (q.returned.map .string)), ("type", .string q.entityType)]
  | update q =>
    .object [("fields", .list (q.fields.map FieldValue.received)), ("id", .number (.int q.id)),
      ("type", .string q.entityType)]
  | entity r => .object [("id", .number (.int r.id)), ("type", .string r.entityType)]

end Payload

theorem asRead_map {α : Type} {form received : α → Json} {as : List α}
    (h : ∀ a ∈ as, (form a).asRead = received a) :
    (Json.list (as.map form)).asRead = .list (as.map received) := by
  rw [asRead_list, List.map_map]
  congr 1
  exact List.map_congr_left h

theorem asRead_strings (ss : List String) :
    (Json.strings ss).asRead = .list (ss.map .string) :=
  asRead_map fun _ _ => rfl

theorem asRead_values {values : List Json} (h : values.all Json.isProper = true) :
    (Json.list values).asRead = .list values := by
  rw [asRead_list, List.map_congr_left fun v hv => asRead_proper v (List.all_eq_true.mp h v hv),
    List.map_id']

theorem Credentials.asRead_toJson (c : Credentials) : c.toJson.asRead = c.received := by
  cases c <;> simp (disch := decide) [toJson, received]

theorem Paging.asRead_toJson (p : Paging) : p.toJson.asRead = p.received := by
  simp (disch := decide) [toJson, received, Json.ofInt]

theorem Summary.asRead_toJson (s : Summary) : s.toJson.asRead = s.received := by
  simp (disch := decide) [toJson, received]

theorem Grouping.asRead_toJson (g : Grouping) : g.toJson.asRead = g.received := by
  simp (disch := decide) [toJson, received]

theorem Condition.asRead_toJson (c : Condition) (h : c.isProper = true) :
    c.toJson.asRead = c.received := by
  simp (disch := decide) [toJson, received, asRead_values h]

theorem Filter.asRead_toJson (f : Filter) (h : f.isProper = true) :
    f.toJson.asRead = f.received := by
  have hc : (Json.list (f.conditions.map Condition.toJson)).asRead =
      .list (f.conditions.map Condition.received) :=
    asRead_map fun c hc => c.asRead_toJson (List.all_eq_true.mp h c hc)
  simp (disch := decide) [toJson, received, Operator.toJson, hc]

theorem FieldValue.asRead_toJson (f : FieldValue) (h : f.value.isProper = true) :
    f.toJson.asRead = f.received := by
  simp (disch := decide) [toJson, received, asRead_proper f.value h]

theorem FieldValue.asRead_fields {fields : List FieldValue}
    (h : fields.all (fun f => f.value.isProper) = true) :
    (Json.list (fields.map toJson)).asRead = .list (fields.map received) :=
  asRead_map fun f hf => f.asRead_toJson (List.all_eq_true.mp h f hf)

theorem Payload.asRead_summarize (q : SummarizeQuery) (h : q.filter.isProper = true) :
    q.toJson.asRead = (summarize q).received := by
  have hf := q.filter.asRead_toJson h
  have hg : (Json.list (q.grouping.map Grouping.toJson)).asRead =
      .list (q.grouping.map Grouping.received) := asRead_map fun g _ => g.asRead_toJson
  have hs : (Json.list (q.summaries.map Summary.toJson)).asRead =
      .list (q.summaries.map Summary.received) := asRead_map fun s _ => s.asRead_toJson
  simp only [SummarizeQuery.toJson, SummarizeQuery.unlessEmpty, List.isEmpty_map, received,
    List.isEmpty_iff, asRead_object]
  by_cases hgrouping : q.grouping = [] <;> by_cases hsummaries : q.summaries = [] <;>
    simp (disch := decide) [hgrouping, hsummaries, hf, hg, hs]

theorem Payload.asRead_toJson (p : Payload) (h : p.isProper = true) :
    p.toJson.asRead = p.received := by
  cases p with
  | read q =>
    have hf := q.filter.asRead_toJson ((Bool.and_eq_true _ _).mp h).2
    simp (disch := decide) [toJson, received, ReadQuery.toJson, asRead_strings,
      q.paging.asRead_toJson, hf]
  | summarize q => exact asRead_summarize q h
  | create q =>
    have hf := FieldValue.asRead_fields h
    simp (disch := decide) [toJson, received, CreateQuery.toJson, asRead_strings, hf]
  | update q =>
    have hf := FieldValue.asRead_fields ((Bool.and_eq_true _ _).mp h).2
    simp (disch := decide) [toJson, received, UpdateQuery.toJson, Json.ofInt, hf]
  | entity r => simp (disch := decide) [toJson, received, EntityRef.toJson, Json.ofInt]

theorem fits_strings (ss : List String) : (Json.strings ss).fits = true := by
  simp [Json.strings]

theorem fits_ofInt {n : Int} (h : Word.holds n = true) : (Json.ofInt n).fits = true :=
  Word.holds_fits h

theorem fits_values {values : List Json} (h : values.all Json.isProper = true) :
    (Json.list values).fits = true :=
  (fits_list values).mpr fun v hv => isProper_fits v (List.all_eq_true.mp h v hv)

theorem Credentials.fits_toJson (c : Credentials) : c.toJson.fits = true := by
  cases c <;> rfl

theorem Paging.fits_toJson (p : Paging) (h : p.isProper = true) : p.toJson.fits = true := by
  obtain ⟨hp, hs⟩ := (Bool.and_eq_true _ _).mp h
  simp [toJson, fits_ofInt hp, fits_ofInt hs]

theorem Filter.fits_toJson (f : Filter) (h : f.isProper = true) : f.toJson.fits = true := by
  have hc : ∀ c ∈ f.conditions, c.toJson.fits = true := by
    intro c hc
    have hv := fits_values (List.all_eq_true.mp h c hc)
    simp [Condition.toJson, hv]
  simpa [toJson, Operator.toJson] using hc

theorem FieldValue.fits_fields {fields : List FieldValue}
    (h : fields.all (fun f => f.value.isProper) = true) :
    (Json.list (fields.map toJson)).fits = true := by
  have hf : ∀ f ∈ fields, f.toJson.fits = true := by
    intro f hf
    simp [toJson, isProper_fits f.value (List.all_eq_true.mp h f hf)]
  simpa using hf

theorem Payload.fits_toJson (p : Payload) (h : p.isProper = true) : p.toJson.fits = true := by
  cases p with
  | read q =>
    obtain ⟨hp, hf⟩ := (Bool.and_eq_true _ _).mp h
    simp [toJson, ReadQuery.toJson, fits_strings, q.paging.fits_toJson hp, q.filter.fits_toJson hf]
  | summarize q =>
    have hg (g : Grouping) : g.toJson.fits = true := rfl
    have hs (s : Summary) : s.toJson.fits = true := rfl
    simp only [toJson, SummarizeQuery.toJson, SummarizeQuery.unlessEmpty]
    split_ifs <;> simp [q.filter.fits_toJson h, hg, hs]
  | create q => simp [toJson, CreateQuery.toJson, fits_strings, FieldValue.fits_fields h]
  | update q =>
    obtain ⟨hi, hf⟩ := (Bool.and_eq_true _ _).mp h
    simp [toJson, UpdateQuery.toJson, fits_ofInt hi, FieldValue.fits_fields hf]
  | entity r => simp [toJson, EntityRef.toJson, fits_ofInt h]

theorem Credentials.received_injective : Function.Injective received := by
  intro c d h
  cases c <;> cases d <;> simp_all [received]

theorem Paging.received_injective : Function.Injective received := by
  intro p q h
  cases p
  cases q
  simp_all [received]

theorem Summary.received_injective : Function.Injective received := by
  intro s t h
  cases s
  cases t
  simp_all [received]

theorem Grouping.received_injective : Function.Injective received := by
  intro g k h
  cases g
  cases k
  simp_all [received]

theorem Condition.received_injective : Function.Injective received := by
  intro c d h
  cases c
  cases d
  simp_all [received]

theorem FieldValue.received_injective : Function.Injective received := by
  intro f g h
  cases f
  cases g
  simp_all [received]

theorem Operator.name_injective : Function.Injective name := by
  intro a b h
  cases a <;> cases b <;> simp_all [name]

theorem Filter.received_injective : Function.Injective received := by
  intro f g h
  cases f
  cases g
  simp_all [received, Operator.name_injective.eq_iff, Condition.received_injective.list_map.eq_iff]

theorem Payload.summarize_injective {q r : SummarizeQuery}
    (h : (summarize q).received = (summarize r).received) : q = r := by
  cases q
  cases r
  simp only [received] at h
  split_ifs at h <;> simp_all [Filter.received_injective.eq_iff,
    Grouping.received_injective.list_map.eq_iff, Summary.received_injective.list_map.eq_iff]

theorem Payload.received_injective : Function.Injective received := by
  have hs : Function.Injective Json.string := fun _ _ => Json.string.inj
  intro p q h
  cases p <;> cases q
  case read.read p q =>
    cases p
    cases q
    simp_all [received, Paging.received_injective.eq_iff, Filter.received_injective.eq_iff,
      hs.list_map.eq_iff]
  case summarize.summarize p q => rw [summarize_injective h]
  case create.create p q =>
    cases p
    cases q
    simp_all [received, FieldValue.received_injective.list_map.eq_iff, hs.list_map.eq_iff]
  case update.update p q =>
    cases p
    cases q
    simp_all [received, FieldValue.received_injective.list_map.eq_iff]
  case entity.entity p q =>
    cases p
    cases q
    simp_all [received]
  all_goals simp [received] at h

namespace Client

def body (c : Client) (method : String) (p : Payload) : Json := (c.call method p.toJson).body

variable (c : Client) (method : String) (p : Payload)

theorem body_plain (hp : p.isProper = true) (hf : p.toJson.isFloatFree = true) :
    (c.body method p).isFloatFree = true ∧ (c.body method p).fits = true := by
  have hc : c.credentials.toJson.isFloatFree = true := by
    cases c.credentials <;> rfl
  constructor
  · show (Call.body _).isFloatFree = true
    simp [Call.body, call, hc, hf]
  · show (Call.body _).fits = true
    simp [Call.body, call, c.credentials.fits_toJson, p.fits_toJson hp]

theorem asRead_body (hp : p.isProper = true) : (c.body method p).asRead =
    .object [("method_name", .string method),
      ("params", .list [c.credentials.received, p.received])] := by
  simp (disch := decide) [body, Call.body, call, c.credentials.asRead_toJson, p.asRead_toJson hp]

/-- A body's text is read as the method's name and the two parameters, each with its own members and
no others. No other method, caller or payload has the same text. -/
theorem body_received (hp : p.isProper = true) (hf : p.toJson.isFloatFree = true) :
    ((c.body method p).nesting ≤ Decoder.levels →
      Decoder.value.decode (Utf8.bytes (c.body method p).text) =
        .ok (.object [("method_name", .string method),
          ("params", .list [c.credentials.received, p.received])])) ∧
      ∀ (d : Client) (method' : String) (q : Payload), q.isProper = true →
        q.toJson.isFloatFree = true → (d.body method' q).text = (c.body method p).text →
          method' = method ∧ d.credentials = c.credentials ∧ q = p := by
  have hb := c.body_plain method p hp hf
  constructor
  · intro hn
    rw [← c.asRead_body method p hp]
    exact Reader.decode_reads (Reader.value_read _ _ hb.1 hb.2 hn)
  · intro d method' q hq hg ht
    have hr := Reader.asRead_of_text (d.body_plain method' q hq hg) hb ht
    rw [d.asRead_body method' q hq, c.asRead_body method p hp] at hr
    simp only [Json.object.injEq, List.cons.injEq, Prod.mk.injEq, Json.string.injEq,
      Json.list.injEq, true_and, and_true] at hr
    obtain ⟨hm, hc, hp⟩ := hr
    exact ⟨hm, Credentials.received_injective hc, Payload.received_injective hp⟩

def closing : Client :=
  ⟨⟨"https".toList, [], [], some (.name "localhost".toList), none,
      .segments ["api3".toList, "json".toList], none, none⟩,
    .user "a\",\"user_password\":\"" "b"⟩

def closingShot : Payload :=
  .create ⟨["id"], "Shot\", \"id\": 1", [⟨"]\x7d",
    .object [("\"", .list [.null, .number (.int (-7))]), ("\\", .object [])]⟩]⟩

theorem body_received_closing : closingShot.isProper = true ∧
    Decoder.value.decode (Utf8.bytes (closing.body "create" closingShot).text) =
      .ok (.object [("method_name", .string "create"), ("params", .list [
        .object [("user_login", .string "a\",\"user_password\":\""),
          ("user_password", .string "b")],
        closingShot.received])]) := by
  have hp : closingShot.isProper = true := by decide
  exact ⟨hp, (closing.body_received "create" closingShot hp (by decide)).1 (by decide)⟩

end Client

end RestGateway
