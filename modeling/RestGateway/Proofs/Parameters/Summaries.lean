import Mathlib.Tactic.Common
import Mathlib.Tactic.SplitIfs
import RestGateway.Proofs.Json.Equality
import RestGateway.Proofs.Json.Fields
import RestGateway.Proofs.Parameters.Reads
import RestGateway.Proofs.Wire.RoundTrip

/-!
# What the parameters of a summary set

Summaries and levels of groups are JSON lists whose items are records of texts. A parameter that is
absent sets none; one with an empty value is at fault like any other text that is no such list. What
is at fault first, in the order query, summaries and grouping, tells the error.
-/

set_option autoImplicit false

namespace RestGateway
open Json.Grammar

namespace Summary

def fields : List (TextField Summary) :=
  [⟨"field", Summary.field, fun v s => { s with field := v }, false⟩,
    ⟨"type", Summary.kind, fun v s => { s with kind := v }, false⟩]

theorem fields_independent : Independent fields where
  nodup := by simp [fields]
  get_set := by simp [fields]
  get_other := by simp [fields]
  ext a b h := by
    simp only [fields, List.forall_mem_cons] at h
    cases a
    cases b
    simp_all

/-- What spells a summary: an object in which the field and the type stand once each, or the list of
the two. -/
inductive Spelled : List UInt8 → Summary → Prop where
  | object {t x y : List UInt8} {ps : List (String × List UInt8)} {s : Summary} :
      Entries true t ps → under "field" ps = [x] → under "type" ps = [y] →
      Quoted x s.field → Quoted y s.kind → Spelled (0x7B :: t) s
  | list {t x y : List UInt8} {s : Summary} :
      Elements true t [x, y] → Quoted x s.field → Quoted y s.kind → Spelled (0x5B :: t) s

theorem filled_iff {ps : List (String × List UInt8)} {s : Summary} :
    Filled fields [] ⟨"", ""⟩ ps s ↔ (∃ x, under "field" ps = [x] ∧ Quoted x s.field) ∧
      ∃ y, under "type" ps = [y] ∧ Quoted y s.kind := by
  simp only [Filled, fields, List.forall_mem_cons, List.not_mem_nil, IsEmpty.forall_iff,
    implies_true, and_true, fieldFilled_required]

theorem recordText_iff {v : List UInt8} {s : Summary} :
    RecordText fields ⟨"", ""⟩ v s ↔ Spelled v s := by
  constructor
  · intro h
    cases h with
    | object ht hps =>
      obtain ⟨⟨x, hx, hfield⟩, y, hy, hkind⟩ := filled_iff.mp hps
      exact .object ht hx hy hfield hkind
    | list ht hvs =>
      cases hvs with
      | missing ho _ => cases ho
      | given hfield hvs =>
        cases hvs with
        | missing ho _ => cases ho
        | given hkind hvs =>
          cases hvs
          exact .list ht hfield hkind
  · intro h
    cases h with
    | object ht hx hy hfield hkind =>
      exact .object ht (filled_iff.mpr ⟨⟨_, hx, hfield⟩, _, hy, hkind⟩)
    | list ht hfield hkind => exact .list ht (.given hfield (.given hkind .done))

theorem decode_iff (input : List UInt8) (ss : List Summary) :
    (Json.Decoder.list decoder).decode input = .ok ss ↔ WholeList Spelled input ss := by
  have hs : RecordText fields ⟨"", ""⟩ = Spelled := by
    ext v s
    exact recordText_iff
  rw [← hs]
  exact decode_records fields_independent "Summary" ⟨"", ""⟩ input ss

end Summary

namespace Grouping

def fields : List (TextField Grouping) :=
  [⟨"direction", Grouping.direction, fun v g => { g with direction := v }, true⟩,
    ⟨"field", Grouping.field, fun v g => { g with field := v }, false⟩,
    ⟨"type", Grouping.kind, fun v g => { g with kind := v }, false⟩]

theorem fields_independent : Independent fields where
  nodup := by simp [fields]
  get_set := by simp [fields]
  get_other := by simp [fields]
  ext a b h := by
    simp only [fields, List.forall_mem_cons] at h
    cases a
    cases b
    simp_all

/-- What spells a level of groups: an object in which the field and the type stand once each and the
direction at most once, or the list of all three. -/
inductive Spelled : List UInt8 → Grouping → Prop where
  | plain {t x y : List UInt8} {ps : List (String × List UInt8)} {g : Grouping} :
      Entries true t ps → under "direction" ps = [] → g.direction = "" →
      under "field" ps = [x] → under "type" ps = [y] → Quoted x g.field → Quoted y g.kind →
      Spelled (0x7B :: t) g
  | directed {t x y z : List UInt8} {ps : List (String × List UInt8)} {g : Grouping} :
      Entries true t ps → under "direction" ps = [z] → Quoted z g.direction →
      under "field" ps = [x] → under "type" ps = [y] → Quoted x g.field → Quoted y g.kind →
      Spelled (0x7B :: t) g
  | list {t x y z : List UInt8} {g : Grouping} :
      Elements true t [z, x, y] → Quoted z g.direction → Quoted x g.field → Quoted y g.kind →
      Spelled (0x5B :: t) g

theorem filled_iff {ps : List (String × List UInt8)} {g : Grouping} :
    Filled fields [] ⟨"", "", ""⟩ ps g ↔
      ((under "direction" ps = [] ∧ g.direction = "") ∨
        ∃ z, under "direction" ps = [z] ∧ Quoted z g.direction) ∧
      (∃ x, under "field" ps = [x] ∧ Quoted x g.field) ∧
      ∃ y, under "type" ps = [y] ∧ Quoted y g.kind := by
  simp only [Filled, fields, List.forall_mem_cons, List.not_mem_nil, IsEmpty.forall_iff,
    implies_true, and_true, fieldFilled_required, fieldFilled_optional]

theorem recordText_iff {v : List UInt8} {g : Grouping} :
    RecordText fields ⟨"", "", ""⟩ v g ↔ Spelled v g := by
  constructor
  · intro h
    cases h with
    | object ht hps =>
      obtain ⟨⟨hnone, hempty⟩ | ⟨z, hz, hdirection⟩, ⟨x, hx, hfield⟩, y, hy, hkind⟩ :=
        filled_iff.mp hps
      · exact .plain ht hnone hempty hx hy hfield hkind
      · exact .directed ht hz hdirection hx hy hfield hkind
    | list ht hvs =>
      cases hvs with
      | missing _ hvs =>
        cases hvs with
        | missing ho _ => cases ho
      | given hdirection hvs =>
        cases hvs with
        | missing ho _ => cases ho
        | given hfield hvs =>
          cases hvs with
          | missing ho _ => cases ho
          | given hkind hvs =>
            cases hvs
            exact .list ht hdirection hfield hkind
  · intro h
    cases h with
    | plain ht hnone hempty hx hy hfield hkind =>
      exact .object ht (filled_iff.mpr ⟨.inl ⟨hnone, hempty⟩, ⟨_, hx, hfield⟩, _, hy, hkind⟩)
    | directed ht hz hdirection hx hy hfield hkind =>
      exact .object ht
        (filled_iff.mpr ⟨.inr ⟨_, hz, hdirection⟩, ⟨_, hx, hfield⟩, _, hy, hkind⟩)
    | list ht hdirection hfield hkind =>
      exact .list ht (.given hdirection (.given hfield (.given hkind .done)))

theorem decode_iff (input : List UInt8) (gs : List Grouping) :
    (Json.Decoder.list decoder).decode input = .ok gs ↔ WholeList Spelled input gs := by
  have hs : RecordText fields ⟨"", "", ""⟩ = Spelled := by
    ext v g
    exact recordText_iff
  rw [← hs]
  exact decode_records fields_independent "Grouping" ⟨"", "", ""⟩ input gs

end Grouping

namespace Parameters

variable {ps : Parameters} {formats : Registry} {name value : String}

section Lists

variable {α : Type} {R : List UInt8 → α → Prop} {d : Json.Decoder α} {items : List α}

/-- The items are those of the parameter, or none where it is absent. -/
inductive SetsItems (ps : Parameters) (name : String) (R : List UInt8 → α → Prop) :
    List α → Prop where
  | absent : Lacks ps name → SetsItems ps name R []
  | given {value : String} {items : List α} :
      First ps name value → WholeList R (Utf8.bytes value) items → SetsItems ps name R items

def NoItems (ps : Parameters) (name : String) (R : List UInt8 → α → Prop) (d : Json.Decoder α)
    (m : String) : Prop :=
  ∃ value, First ps name value ∧ (∀ items, ¬WholeList R (Utf8.bytes value) items) ∧
    (Json.Decoder.list d).decode (Utf8.bytes value) = .error m

def notList (name m : String) : GatewayError :=
  .badRequest ("Invalid " ++ name ++ " parameter: " ++ m)

theorem listOr_absent (h : Lacks ps name) : ps.listOr name d [] = .ok [] := by
  rw [listOr, find_none.mpr h]

theorem listOr_first (h : First ps name value) : ps.listOr name d [] =
    ((Json.Decoder.list d).decode (Utf8.bytes value)).mapError (notList name) := by
  rw [listOr, find_some.mpr h]
  rfl

variable (hd : ∀ input items, (Json.Decoder.list d).decode input = .ok items ↔
  WholeList R input items)

include hd

theorem SetsItems.listOr (h : SetsItems ps name R items) : ps.listOr name d [] = .ok items := by
  cases h with
  | absent h => exact listOr_absent h
  | given h hitems => rw [listOr_first h, (hd _ _).mpr hitems, mapError_ok]

theorem setsItems_or_noItems (ps : Parameters) (name : String) :
    (∃ items, SetsItems ps name R items) ∨ ∃ m, NoItems ps name R d m := by
  rcases first_or_lacks ps name with ⟨value, h⟩ | h
  · cases hdecode : (Json.Decoder.list d).decode (Utf8.bytes value) with
    | ok items => exact Or.inl ⟨items, .given h ((hd _ _).mp hdecode)⟩
    | error m =>
      refine Or.inr ⟨m, value, h, fun items hitems => ?_, hdecode⟩
      rw [(hd _ _).mpr hitems] at hdecode
      cases hdecode
  · exact Or.inl ⟨[], .absent h⟩

omit hd

theorem NoItems.listOr {m : String} (h : NoItems ps name R d m) :
    ps.listOr name d [] = .error (notList name m) := by
  obtain ⟨value, h, -, hm⟩ := h
  rw [listOr_first h, hm, mapError_error]

end Lists

inductive SummarizedAs (ps : Parameters) (formats : Registry) (entityType : String) :
    Except GatewayError SummarizeQuery → Prop where
  | noFilter {e : QueryError} :
      NoFilter ps formats e → SummarizedAs ps formats entityType (.error (.query e))
  | noSummaries {f : Filter} {m : String} :
      SetsFilter ps formats .empty f →
      NoItems ps "summaries" Summary.Spelled Summary.decoder m →
      SummarizedAs ps formats entityType (.error (notList "summaries" m))
  | noGrouping {f : Filter} {ss : List Summary} {m : String} :
      SetsFilter ps formats .empty f → SetsItems ps "summaries" Summary.Spelled ss →
      NoItems ps "grouping" Grouping.Spelled Grouping.decoder m →
      SummarizedAs ps formats entityType (.error (notList "grouping" m))
  | query {f : Filter} {ss : List Summary} {gs : List Grouping} :
      SetsFilter ps formats .empty f → SetsItems ps "summaries" Summary.Spelled ss →
      SetsItems ps "grouping" Grouping.Spelled gs →
      SummarizedAs ps formats entityType (.ok ⟨entityType, f, gs, ss⟩)

theorem SummarizedAs.applySummarize {entityType : String} {r : Except GatewayError SummarizeQuery}
    (h : SummarizedAs ps formats entityType r) :
    ps.applySummarize formats (.ofType entityType) = r := by
  rw [Parameters.applySummarize, SummarizeQuery.ofType]
  cases h with
  | noFilter hf => rw [hf.filterOr, error_bind]
  | noSummaries hf hs => rw [hf.filterOr, ok_bind, hs.listOr, error_bind]
  | noGrouping hf hs hg =>
    rw [hf.filterOr, ok_bind, hs.listOr Summary.decode_iff, ok_bind, hg.listOr, error_bind]
  | query hf hs hg =>
    rw [hf.filterOr, ok_bind, hs.listOr Summary.decode_iff, ok_bind,
      hg.listOr Grouping.decode_iff, ok_bind]

theorem summarizedAs_exists (ps : Parameters) (formats : Registry) (entityType : String) :
    ∃ r, SummarizedAs ps formats entityType r := by
  rcases setsFilter_or_noFilter ps formats .empty with ⟨f, hf⟩ | ⟨e, hf⟩
  · rcases setsItems_or_noItems Summary.decode_iff ps "summaries" with ⟨ss, hs⟩ | ⟨m, hs⟩
    · rcases setsItems_or_noItems Grouping.decode_iff ps "grouping" with ⟨gs, hg⟩ | ⟨m, hg⟩
      · exact ⟨_, .query hf hs hg⟩
      · exact ⟨_, .noGrouping hf hs hg⟩
    · exact ⟨_, .noSummaries hf hs⟩
  · exact ⟨_, .noFilter hf⟩

/-- What a summary query writes: its groups and its summaries only where there are some, and such
that their lists are read back. -/
structure Carries (q : SummarizeQuery) (members : Members) : Prop where
  names : members.map Prod.fst = ["type", "filters"] ++
    (if q.grouping = [] then [] else ["grouping"]) ++
    (if q.summaries = [] then [] else ["summaries"])
  entityType : members.lookup "type" = some (.string q.entityType)
  filter : members.lookup "filters" = some q.filter.toJson
  grouping : ∀ v, members.lookup "grouping" = some v →
    (Json.Decoder.list Grouping.decoder).decode (Utf8.bytes v.text) = .ok q.grouping
  summaries : ∀ v, members.lookup "summaries" = some v →
    (Json.Decoder.list Summary.decoder).decode (Utf8.bytes v.text) = .ok q.summaries

theorem flat_nesting {α : Type} {form : α → Json} (h : ∀ a, (form a).nesting = 1) (as : List α) :
    (Json.list (as.map form)).nesting ≤ Json.Decoder.levels := by
  have hitems : Json.nestingOfItems (as.map form) ≤ 1 := by
    rw [Json.nestingOfItems_le]
    intro v hv
    obtain ⟨a, -, rfl⟩ := List.mem_map.mp hv
    exact (h a).le
  exact (Nat.succ_le_succ hitems).trans (by decide)

theorem grouping_decoded (gs : List Grouping) : (Json.Decoder.list Grouping.decoder).decode
    (Utf8.bytes (Json.list (gs.map Grouping.toJson)).text) = .ok gs := by
  apply Json.Reader.decode_reads
  exact Json.Reader.reads_listWith (flat_nesting (fun _ => rfl) gs)
    (fun _ _ => Json.Reader.starts_object _) fun g _ _ _ hn => g.reads hn

theorem summaries_decoded (ss : List Summary) : (Json.Decoder.list Summary.decoder).decode
    (Utf8.bytes (Json.list (ss.map Summary.toJson)).text) = .ok ss := by
  apply Json.Reader.decode_reads
  exact Json.Reader.reads_listWith (flat_nesting (fun _ => rfl) ss)
    (fun _ _ => Json.Reader.starts_object _) fun s _ _ _ hn => s.reads hn

section Written

open SummarizeQuery

variable (items : List Json)

theorem unlessEmpty_names (name : String) :
    (unlessEmpty name items).map Prod.fst = if items = [] then [] else [name] := by
  cases items <;> rfl

theorem lookup_unlessEmpty {name : String} {v : Json}
    (h : (unlessEmpty name items).lookup name = some v) : v = .list items := by
  cases items with
  | nil => cases h
  | cons w ws => simpa [unlessEmpty] using h.symm

theorem lookup_unlessEmpty_other {name k : String} (hk : k ≠ name) :
    (unlessEmpty name items).lookup k = none := by
  have hb : (k == name) = false := beq_false_of_ne hk
  cases items with
  | nil => rfl
  | cons w ws => simp [unlessEmpty, List.lookup_cons, hb]

end Written

theorem query_carries (q : SummarizeQuery) :
    ∃ members, q.toJson = .object members ∧ Carries q members := by
  refine ⟨_, rfl, ?_, rfl, rfl, fun v hv => ?_, fun v hv => ?_⟩
  · simp [unlessEmpty_names]
  · rw [List.lookup_append, lookup_unlessEmpty_other _ (by decide), Option.or_none,
      List.lookup_append] at hv
    rw [lookup_unlessEmpty _ hv]
    exact grouping_decoded q.grouping
  · rw [List.lookup_append, List.lookup_append, lookup_unlessEmpty_other _ (by decide)] at hv
    rw [lookup_unlessEmpty _ hv]
    exact summaries_decoded q.summaries

/-- A summary becomes what the parameters make of it and nothing else, and it becomes a query
exactly if query, summaries and grouping are all absent or understood. The query carries what it was
given. -/
theorem applySummarize_answers (ps : Parameters) (formats : Registry) (entityType : String) :
    (∀ r, ps.applySummarize formats (.ofType entityType) = r ↔
      SummarizedAs ps formats entityType r) ∧
    ((∃ q, ps.applySummarize formats (.ofType entityType) = .ok q) ↔
      (∃ f, SetsFilter ps formats .empty f) ∧
      (∃ ss, SetsItems ps "summaries" Summary.Spelled ss) ∧
      ∃ gs, SetsItems ps "grouping" Grouping.Spelled gs) ∧
    ∀ q, ps.applySummarize formats (.ofType entityType) = .ok q →
      ∃ members, q.toJson = .object members ∧ Carries q members := by
  have hanswer (r : Except GatewayError SummarizeQuery) :
      ps.applySummarize formats (.ofType entityType) = r ↔
        SummarizedAs ps formats entityType r := by
    constructor
    · rintro rfl
      obtain ⟨r, h⟩ := summarizedAs_exists ps formats entityType
      rwa [h.applySummarize]
    · exact SummarizedAs.applySummarize
  refine ⟨hanswer, ⟨?_, ?_⟩, fun q _ => query_carries q⟩
  · rintro ⟨q, h⟩
    cases (hanswer _).mp h with
    | query hf hs hg => exact ⟨⟨_, hf⟩, ⟨_, hs⟩, _, hg⟩
  · rintro ⟨⟨f, hf⟩, ⟨ss, hs⟩, gs, hg⟩
    exact ⟨_, (SummarizedAs.query hf hs hg).applySummarize⟩

def overview : Parameters :=
  [("Summaries", "[[\"id\",\"count\"],\x7b\"type\":\"sum\",\"field\":\"cut\"\x7d]"),
    ("grouping", " [\x7b\"field\":\"code\",\"x\":[1e999,\"\\udc00\"],\"type\":\"exact\"\x7d] "),
    ("summaries", "")]

theorem applySummarize_answers_overview : ∃ q members,
    overview.applySummarize .builtin (.ofType "Shot") = .ok q ∧
      q.summaries = [⟨"id", "count"⟩, ⟨"cut", "sum"⟩] ∧ q.grouping = [⟨"", "code", "exact"⟩] ∧
        q.toJson = .object members ∧ Carries q members := by
  have hq : Lacks overview "q" := find_none.mp rfl
  have hs : SetsItems overview "summaries" Summary.Spelled [⟨"id", "count"⟩, ⟨"cut", "sum"⟩] :=
    .given (find_some.mp rfl) ((Summary.decode_iff _ _).mp (ok_of_toOption (by decide +kernel)))
  have hg : SetsItems overview "grouping" Grouping.Spelled [⟨"", "code", "exact"⟩] :=
    .given (find_some.mp rfl) ((Grouping.decode_iff _ _).mp (ok_of_toOption (by decide +kernel)))
  obtain ⟨hanswer, -, hcarries⟩ := applySummarize_answers overview .builtin "Shot"
  have hok := (hanswer _).mpr (.query (.absent hq) hs hg)
  obtain ⟨members, hjson, hmembers⟩ := hcarries _ hok
  exact ⟨_, members, hok, rfl, rfl, hjson, hmembers⟩

def ListsMembers (v : Json) : Prop :=
  ∃ items, v = .list items ∧ ∀ item ∈ items, ∃ ms field kind, item = .object ms ∧
    ms.lookup "field" = some (.string field) ∧ ms.lookup "type" = some (.string kind)

theorem only_summaries (h : Ascii.same "summaries" name = false) :
    Lacks [("summaries", value)] name := List.forall_mem_singleton.mpr h

theorem summaries_first : First [("summaries", value)] "summaries" value :=
  ⟨[], "summaries", [], rfl, by decide, List.forall_mem_nil _⟩

theorem summaries_understood {ss : List Summary}
    (h : (Json.Decoder.list Summary.decoder).decode (Utf8.bytes value) = .ok ss) :
    Parameters.applySummarize [("summaries", value)] .builtin (.ofType "Shot") =
      .ok ⟨"Shot", .empty, [], ss⟩ := by
  have hq : Lacks [("summaries", value)] "q" := only_summaries (by decide)
  have hg : Lacks [("summaries", value)] "grouping" := only_summaries (by decide)
  have hs := SetsItems.given summaries_first ((Summary.decode_iff _ ss).mp h)
  exact (SummarizedAs.query (.absent hq) hs (.absent hg)).applySummarize

theorem summaries_refused
    (h : (Json.Decoder.list Summary.decoder Json.Decoder.levels (Utf8.bytes value)).isOk = false) :
    ∃ m, Parameters.applySummarize [("summaries", value)] .builtin (.ofType "Shot") =
      .error (notList "summaries" m) := by
  have hq : Lacks [("summaries", value)] "q" := only_summaries (by decide)
  have hnone (ss : List Summary) : ¬WholeList Summary.Spelled (Utf8.bytes value) ss := by
    intro hss
    obtain ⟨w, hw, -⟩ := Json.Reader.decode_ok.mp ((Summary.decode_iff _ _).mpr hss)
    rw [hw] at h
    cases h
  cases hd : (Json.Decoder.list Summary.decoder).decode (Utf8.bytes value) with
  | ok ss => exact absurd ((Summary.decode_iff _ _).mp hd) (hnone ss)
  | error m =>
    have hs : NoItems _ "summaries" Summary.Spelled Summary.decoder m :=
      ⟨value, summaries_first, hnone, hd⟩
    exact ⟨m, (SummarizedAs.noSummaries (.absent hq) hs).applySummarize⟩

def unnamed : String := "[[\"id\",\"count\"]]"

def repeated : String := "[\x7b\"field\":\"id\",\"type\":\"count\",\"type\":\"sum\"\x7d]"

def halfNamed : String := "[\x7b\"field\":\"id\",\"type\":\"count\",\"\\ud800\":1\x7d]"

/-- Items without members are understood; those with a member twice, or with a name that is no text,
are not. -/
theorem applySummarize_members :
    (∃ v, Json.Decoder.value.decode (Utf8.bytes unnamed) = .ok v ∧ ¬ListsMembers v ∧
      ∃ q, Parameters.applySummarize [("summaries", unnamed)] .builtin (.ofType "Shot") = .ok q) ∧
    (∃ v, Json.Decoder.value.decode (Utf8.bytes repeated) = .ok v ∧ ListsMembers v ∧
      ∃ m, Parameters.applySummarize [("summaries", repeated)] .builtin (.ofType "Shot") =
        .error (notList "summaries" m)) ∧
    (∃ n, Text n (Utf8.bytes halfNamed)) ∧
      ∃ m, Parameters.applySummarize [("summaries", halfNamed)] .builtin (.ofType "Shot") =
        .error (notList "summaries" m) := by
  refine ⟨⟨.list [.list [.string "id", .string "count"]], ?_, ?_, ?_⟩,
    ⟨.list [.object [("field", .string "id"), ("type", .string "sum")]], ?_, ?_, ?_⟩, ?_, ?_⟩
  · exact ok_of_toOption (by decide +kernel)
  · rintro ⟨items, hitems, hall⟩
    cases hitems
    obtain ⟨ms, field, kind, hobject, -⟩ := hall _ List.mem_cons_self
    cases hobject
  · have hd : (Json.Decoder.list Summary.decoder).decode (Utf8.bytes unnamed) =
        .ok [⟨"id", "count"⟩] := ok_of_toOption (by decide +kernel)
    exact ⟨_, summaries_understood hd⟩
  · exact ok_of_toOption (by decide +kernel)
  · refine ⟨_, rfl, fun item hitem => ?_⟩
    rw [List.mem_singleton.mp hitem]
    exact ⟨_, "id", "sum", rfl, rfl, rfl⟩
  · exact summaries_refused (by decide +kernel)
  · have hskip : Json.Reader.skip (Utf8.bytes halfNamed) = .ok ((), []) :=
      ok_of_toOption (by decide +kernel)
    obtain ⟨n, w, v, hv, hw, hphrase⟩ := skip_cut hskip
    exact ⟨n, w, v, [], hv, hw, hphrase, Json.Reader.blank_nil⟩
  · exact summaries_refused (by decide +kernel)

end Parameters

end RestGateway
