import Mathlib.Tactic.SplitIfs
import RestGateway.Proofs.Attempts
import RestGateway.Proofs.Parameters.Lookup
import RestGateway.Proofs.Text.Numerals
import RestGateway.Proofs.Text.Split
import RestGateway.Proofs.Wire.CallBody

/-!
# What the parameters of a read set

A page and a page size are integers of 64 bits, fields are what stands between commas, and the
filter is what the formats make of a query. Empty text sets nothing, the query apart. What is at
fault first, in the order page, limit and query, tells the error, whatever the order of the
parameters. A read of one entity takes its fields from its caller and nothing else.
-/

set_option autoImplicit false

namespace RestGateway.Parameters

variable {ps : Parameters} {formats : Registry} {name value : String} {q : ReadQuery}

/-- The integer is that of the parameter, or the current one where this is absent or empty. -/
inductive SetsWord (ps : Parameters) (name : String) (current : Int) : Int → Prop where
  | absent : Lacks ps name → SetsWord ps name current current
  | empty : First ps name "" → SetsWord ps name current current
  | given {value : String} {n : Int} :
      First ps name value → Numeral value.toList n → -2 ^ 63 ≤ n → n ≤ 2 ^ 63 - 1 →
      SetsWord ps name current n

/-- The parameter has a value that is no integer of 64 bits. -/
def NoWord (ps : Parameters) (name value : String) : Prop :=
  First ps name value ∧ value ≠ "" ∧
    ∀ n, Numeral value.toList n → ¬(-2 ^ 63 ≤ n ∧ n ≤ 2 ^ 63 - 1)

def notInt (name value : String) : GatewayError :=
  .badRequest ("Could not convert " ++ name ++ " '" ++ value ++ "' to int")

theorem word_none : word? value = none ↔
    ∀ n, Numeral value.toList n → ¬(-2 ^ 63 ≤ n ∧ n ≤ 2 ^ 63 - 1) := by
  rw [Option.eq_none_iff_forall_ne_some]
  refine forall_congr' fun n => ?_
  rw [ne_eq, word_iff, not_and]
  refine imp_congr_right fun _ => not_congr ?_
  omega

theorem Numeral.ne_empty {n : Int} (h : Numeral value.toList n) : value ≠ "" := by
  rintro rfl
  generalize hcs : "".toList = cs at h
  cases h with
  | unsigned hn => exact hn hcs.symm
  | plus => cases hcs
  | minus => cases hcs

theorem wordOr_absent {current : Int} (h : Lacks ps name) :
    ps.wordOr name current = .ok current := by
  rw [wordOr, find_none.mpr h]

theorem wordOr_first {current : Int} (h : First ps name value) : ps.wordOr name current =
    if value.isEmpty then .ok current else parseWord name value := by
  rw [wordOr, find_some.mpr h]

theorem SetsWord.wordOr {current n : Int} (h : SetsWord ps name current n) :
    ps.wordOr name current = .ok n := by
  cases h with
  | absent h => exact wordOr_absent h
  | empty h => exact wordOr_first h
  | given h hn hl hg =>
    have hw := word_iff.mpr ⟨hn, hl, by omega⟩
    rw [wordOr_first h, if_neg (by simpa using Numeral.ne_empty hn), parseWord, hw]

theorem NoWord.wordOr {current : Int} (h : NoWord ps name value) :
    ps.wordOr name current = .error (notInt name value) := by
  obtain ⟨hv, hne, hn⟩ := h
  rw [wordOr_first hv, if_neg (by simpa using hne), parseWord, word_none.mpr hn, notInt]

theorem setsWord_or_noWord (ps : Parameters) (name : String) (current : Int) :
    (∃ n, SetsWord ps name current n) ∨ ∃ value, NoWord ps name value := by
  rcases first_or_lacks ps name with ⟨value, h⟩ | h
  · by_cases hne : value = ""
    · subst hne
      exact Or.inl ⟨current, .empty h⟩
    · cases hw : word? value with
      | none => exact Or.inr ⟨value, h, hne, word_none.mp hw⟩
      | some n =>
        obtain ⟨hn, hl, hg⟩ := word_iff.mp hw
        exact Or.inl ⟨n, .given h hn hl (by omega)⟩
  · exact Or.inl ⟨current, .absent h⟩

structure Pieces (text : String) (fields : List String) : Prop where
  ne_nil : fields ≠ []
  no_comma : ∀ field ∈ fields, ',' ∉ field.toList
  joined : String.intercalate "," fields = text

/-- The fields are those of the parameter, or the current ones where this is absent or empty. -/
inductive SetsFields (ps : Parameters) (current : List String) : List String → Prop where
  | absent : Lacks ps "fields" → SetsFields ps current current
  | empty : First ps "fields" "" → SetsFields ps current current
  | given {value : String} {fields : List String} :
      First ps "fields" value → value ≠ "" → Pieces value fields → SetsFields ps current fields

theorem pieces_iff {fields : List String} : Pieces value fields ↔
    (Text.splitOn ',' value.toList).map String.ofList = fields := by
  have hcs : (Text.splitOn ',' value.toList).map String.ofList = fields ↔
      Text.splitOn ',' value.toList = fields.map String.toList := by
    constructor
    · rintro rfl
      simp
    · intro h
      simp [h]
  rw [hcs, Text.splitOn_iff]
  have hjoined : [','].intercalate (fields.map String.toList) = value.toList ↔
      String.intercalate "," fields = value := by
    rw [← String.toList_inj, String.toList_intercalate]
    rfl
  rw [hjoined, List.forall_mem_map, ne_eq, List.map_eq_nil_iff]
  exact ⟨fun h => ⟨h.ne_nil, h.no_comma, h.joined⟩, fun h => ⟨h.1, h.2.1, h.2.2⟩⟩

theorem pieces_parseFields (h : value ≠ "") : Pieces value (parseFields value) := by
  rw [pieces_iff, parseFields, if_neg (by simpa using h)]

theorem SetsFields.applyFields {fields : List String} (h : SetsFields ps q.fields fields) :
    ps.applyFields q = { q with fields } := by
  rw [Parameters.applyFields]
  cases h with
  | absent h => rw [find_none.mpr h]
  | empty h =>
    rw [find_some.mpr h]
    rfl
  | @given value fields h hne hp =>
    have hfields := pieces_iff.mp hp
    have hparsed : parseFields value = fields := by
      rw [parseFields, if_neg (by simpa using hne), hfields]
    rw [find_some.mpr h]
    simp [ReadQuery.withFields, hparsed, hp.ne_nil]

theorem setsFields_exists (ps : Parameters) (current : List String) :
    ∃ fields, SetsFields ps current fields := by
  rcases first_or_lacks ps "fields" with ⟨value, h⟩ | h
  · by_cases hne : value = ""
    · subst hne
      exact ⟨current, .empty h⟩
    · exact ⟨_, .given h hne (pieces_parseFields hne)⟩
  · exact ⟨current, .absent h⟩

theorem SetsFields.ne_nil {current fields : List String} (h : SetsFields ps current fields)
    (hc : current ≠ []) : fields ≠ [] := by
  cases h with
  | absent => exact hc
  | empty => exact hc
  | given _ _ hp => exact hp.ne_nil

/-- The filter is what the formats make of the parameter, or the current one where this is
absent. -/
inductive SetsFilter (ps : Parameters) (formats : Registry) (current : Filter) : Filter → Prop where
  | absent : Lacks ps "q" → SetsFilter ps formats current current
  | given {value : String} {f : Filter} :
      First ps "q" value → formats.parse value = .ok f → SetsFilter ps formats current f

def NoFilter (ps : Parameters) (formats : Registry) (e : QueryError) : Prop :=
  ∃ value, First ps "q" value ∧ formats.parse value = .error e

theorem filterOr_absent {current : Filter} (h : Lacks ps "q") :
    ps.filterOr formats current = .ok current := by
  rw [filterOr, find_none.mpr h]

theorem filterOr_first {current : Filter} (h : First ps "q" value) :
    ps.filterOr formats current = (formats.parse value).mapError .query := by
  rw [filterOr, find_some.mpr h]

theorem SetsFilter.filterOr {current f : Filter} (h : SetsFilter ps formats current f) :
    ps.filterOr formats current = .ok f := by
  cases h with
  | absent h => exact filterOr_absent h
  | given h hf => rw [filterOr_first h, hf, mapError_ok]

theorem NoFilter.filterOr {current : Filter} {e : QueryError} (h : NoFilter ps formats e) :
    ps.filterOr formats current = .error (.query e) := by
  obtain ⟨value, h, he⟩ := h
  rw [filterOr_first h, he, mapError_error]

theorem setsFilter_or_noFilter (ps : Parameters) (formats : Registry) (current : Filter) :
    (∃ f, SetsFilter ps formats current f) ∨ ∃ e, NoFilter ps formats e := by
  rcases first_or_lacks ps "q" with ⟨value, h⟩ | h
  · cases hp : formats.parse value with
    | ok f => exact Or.inl ⟨f, .given h hp⟩
    | error e => exact Or.inr ⟨e, value, h, hp⟩
  · exact Or.inl ⟨current, .absent h⟩

/-- What a read becomes. Of its members, the parameters set the page, the page size, the fields and
the filter. -/
inductive ReadAs (ps : Parameters) (formats : Registry) (q : ReadQuery) :
    Except GatewayError ReadQuery → Prop where
  | noPage {value : String} :
      NoWord ps "page" value → ReadAs ps formats q (.error (notInt "page" value))
  | noLimit {page : Int} {value : String} :
      SetsWord ps "page" q.paging.page page → NoWord ps "limit" value →
      ReadAs ps formats q (.error (notInt "limit" value))
  | noFilter {page pageSize : Int} {e : QueryError} :
      SetsWord ps "page" q.paging.page page → SetsWord ps "limit" q.paging.pageSize pageSize →
      NoFilter ps formats e → ReadAs ps formats q (.error (.query e))
  | query {page pageSize : Int} {fields : List String} {filter : Filter} :
      SetsWord ps "page" q.paging.page page → SetsWord ps "limit" q.paging.pageSize pageSize →
      SetsFields ps q.fields fields → SetsFilter ps formats q.filter filter →
      ReadAs ps formats q (.ok { q with paging := ⟨page, pageSize⟩, fields, filter })

theorem ReadAs.applyRead {r : Except GatewayError ReadQuery} (h : ReadAs ps formats q r) :
    ps.applyRead formats q = r := by
  rw [Parameters.applyRead]
  cases h with
  | noPage hp => rw [hp.wordOr, error_bind]
  | noLimit hp hl => rw [hp.wordOr, ok_bind, hl.wordOr, error_bind]
  | noFilter hp hl hf => rw [hp.wordOr, ok_bind, hl.wordOr, ok_bind, hf.filterOr, error_bind]
  | @query page pageSize fields filter hp hl hs hf =>
    have hfields : SetsFields ps ({ q with paging := ⟨page, pageSize⟩, filter } : ReadQuery).fields
      fields := hs
    rw [hp.wordOr, ok_bind, hl.wordOr, ok_bind, hf.filterOr, ok_bind, hfields.applyFields]

theorem readAs_exists (ps : Parameters) (formats : Registry) (q : ReadQuery) :
    ∃ r, ReadAs ps formats q r := by
  rcases setsWord_or_noWord ps "page" q.paging.page with ⟨page, hp⟩ | ⟨value, hp⟩
  · rcases setsWord_or_noWord ps "limit" q.paging.pageSize with ⟨pageSize, hl⟩ | ⟨value, hl⟩
    · rcases setsFilter_or_noFilter ps formats q.filter with ⟨f, hf⟩ | ⟨e, hf⟩
      · obtain ⟨fields, hs⟩ := setsFields_exists ps q.fields
        exact ⟨_, .query hp hl hs hf⟩
      · exact ⟨_, .noFilter hp hl hf⟩
    · exact ⟨_, .noLimit hp hl⟩
  · exact ⟨_, .noPage hp⟩

/-- A read becomes what the parameters make of it and nothing else, and it becomes a query exactly
if page, limit and query are all absent or understood. -/
theorem applyRead_sets (ps : Parameters) (formats : Registry) (q : ReadQuery) :
    (∀ r, ps.applyRead formats q = r ↔ ReadAs ps formats q r) ∧
    ((∃ read, ps.applyRead formats q = .ok read) ↔
      (∃ page, SetsWord ps "page" q.paging.page page) ∧
      (∃ pageSize, SetsWord ps "limit" q.paging.pageSize pageSize) ∧
      ∃ filter, SetsFilter ps formats q.filter filter) := by
  have hread (r : Except GatewayError ReadQuery) :
      ps.applyRead formats q = r ↔ ReadAs ps formats q r := by
    constructor
    · rintro rfl
      obtain ⟨r, h⟩ := readAs_exists ps formats q
      rwa [h.applyRead]
    · exact ReadAs.applyRead
  refine ⟨hread, ?_, ?_⟩
  · rintro ⟨read, h⟩
    cases (hread _).mp h with
    | query hp hl _ hf => exact ⟨⟨_, hp⟩, ⟨_, hl⟩, _, hf⟩
  · rintro ⟨⟨page, hp⟩, ⟨pageSize, hl⟩, filter, hf⟩
    obtain ⟨fields, hs⟩ := setsFields_exists ps q.fields
    exact ⟨_, (ReadAs.query hp hl hs hf).applyRead⟩

def lookupJson (entityType : String) (id : Int) (fields : List String) : Json :=
  .object [("return_fields", .list (fields.map .string)), ("type", .string entityType),
    ("return_paging_info", .bool true), ("api_return_image_urls", .bool true),
    ("return_only", .string "active"),
    ("paging", .object [("current_page", .number (.int 1)),
      ("entities_per_page", .number (.int 1))]),
    ("filters", .object [("logical_operator", .string "and"),
      ("conditions", .list [.object [("path", .string "id"), ("relation", .string "is"),
        ("values", .list [.number (.int id)])]])])]

theorem applyFields_lookup (ps : Parameters) (entityType : String) (id : Int) :
    ∃ fields, SetsFields ps ["id"] fields ∧
      (ps.applyFields (.byId entityType id)).toJson = lookupJson entityType id fields := by
  obtain ⟨fields, hs⟩ := setsFields_exists ps (ReadQuery.byId entityType id).fields
  refine ⟨fields, hs, ?_⟩
  rw [hs.applyFields]
  rfl

section Written

variable (entityType : String) (id : Int) (fields : List String)

theorem lookupJson_isFloatFree : (lookupJson entityType id fields).isFloatFree = true := by
  simp [lookupJson, Json.isFloatFree, Number.isInteger]

theorem lookupJson_fits (h : Word.holds id = true) :
    (lookupJson entityType id fields).fits = true := by
  have hone : (Json.number (.int 1)).fits = true := rfl
  have hid : (Json.number (.int id)).fits = true := fits_ofInt h
  simp [lookupJson, hone, hid]

theorem lookupJson_nesting : (lookupJson entityType id fields).nesting ≤ Json.Decoder.levels := by
  have hs : Json.nestingOfItems (fields.map .string) = 0 := by
    induction fields with
    | nil => rfl
    | cons field fields ih => simpa [Json.nestingOfItems, Json.nesting] using ih
  simp [lookupJson, Json.nesting, Json.nestingOfMembers, Json.nestingOfItems, hs,
    Json.Decoder.levels]

end Written

/-- Whatever the parameters of a read of one entity, it is written as the look-up of that entity and
of no other, one a page, and its fields are never none. What is written is read back as just
that. -/
theorem applyFields_byId (ps : Parameters) (entityType : String) {id : Int} (hl : -2 ^ 63 ≤ id)
    (hg : id ≤ 2 ^ 63 - 1) :
    ∃ fields, fields ≠ [] ∧ SetsFields ps ["id"] fields ∧
      (ps.applyFields (.byId entityType id)).toJson = lookupJson entityType id fields ∧
      Json.Decoder.value.decode (Utf8.bytes (ps.applyFields (.byId entityType id)).toJson.text) =
        .ok (lookupJson entityType id fields).asRead := by
  obtain ⟨fields, hs, hjson⟩ := applyFields_lookup ps entityType id
  have hid : Word.holds id = true := by
    have hleast : Word.least = -2 ^ 63 := rfl
    have hgreatest : Word.greatest = 2 ^ 63 - 1 := rfl
    rw [Word.holds, hleast, hgreatest, Bool.and_eq_true, decide_eq_true_iff, decide_eq_true_iff]
    exact ⟨hl, hg⟩
  refine ⟨fields, hs.ne_nil (List.cons_ne_nil _ _), hs, hjson, ?_⟩
  rw [hjson]
  exact Json.Reader.decode_reads (Json.Reader.value_read _ _
    (lookupJson_isFloatFree entityType id fields) (lookupJson_fits entityType id fields hid)
    (lookupJson_nesting entityType id fields))

def widening : Parameters :=
  [("page", "2"), ("limit", "500"), ("q", "[]"), ("FIELDS", "code,,id"), ("fields", "x")]

theorem applyFields_byId_widening :
    (widening.applyFields (.byId "Shot" (-2 ^ 63))).toJson =
      lookupJson "Shot" (-2 ^ 63) ["code", "", "id"] ∧
    Json.Decoder.value.decode
        (Utf8.bytes (widening.applyFields (.byId "Shot" (-2 ^ 63))).toJson.text) =
      .ok (lookupJson "Shot" (-2 ^ 63) ["code", "", "id"]).asRead := by
  have hl : (-2 ^ 63 : Int) ≤ -2 ^ 63 := by decide
  have hg : (-2 ^ 63 : Int) ≤ 2 ^ 63 - 1 := by decide
  obtain ⟨fields, -, hs, hjson, hread⟩ := applyFields_byId widening "Shot" hl hg
  have hset : SetsFields widening (ReadQuery.ofType "Shot").fields fields := hs
  have hfields : ["code", "", "id"] = fields := congrArg ReadQuery.fields hset.applyFields
  rw [hfields]
  exact ⟨hjson, hread⟩

end RestGateway.Parameters
