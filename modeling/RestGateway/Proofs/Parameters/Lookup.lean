import Mathlib.Tactic.Common
import RestGateway.Parameters

/-!
# Which parameters count

Of all the pairs with a name only the first one counts, whatever its value. So the parameters that
are applied to a query may be told apart by nothing but their first values: other names, later pairs
and the order of different names are all the same.
-/

set_option autoImplicit false

namespace RestGateway

theorem Ascii.same_iff {a b : String} :
    Ascii.same a b = true ↔ Ascii.lower a.toList = Ascii.lower b.toList := beq_iff_eq

namespace Parameters

variable {ps qs : Parameters} {name key value : String} {names : List String}

def First (ps : Parameters) (name value : String) : Prop :=
  ∃ before key after, ps = before ++ (key, value) :: after ∧ Ascii.same key name = true ∧
    ∀ p ∈ before, Ascii.same p.1 name = false

def Lacks (ps : Parameters) (name : String) : Prop := ∀ p ∈ ps, Ascii.same p.1 name = false

theorem find_some : ps.find? name = some value ↔ First ps name value := by
  rw [find?, Option.map_eq_some_iff]
  constructor
  · rintro ⟨⟨key, v⟩, h, rfl⟩
    obtain ⟨hkey, before, after, rfl, hbefore⟩ := List.find?_eq_some_iff_append.mp h
    exact ⟨before, key, after, rfl, hkey, fun p hp => by simpa using hbefore p hp⟩
  · rintro ⟨before, key, after, rfl, hkey, hbefore⟩
    refine ⟨(key, value), List.find?_eq_some_iff_append.mpr ⟨hkey, before, after, rfl, ?_⟩, rfl⟩
    intro p hp
    simp [hbefore p hp]

theorem find_none : ps.find? name = none ↔ Lacks ps name := by
  simp [find?, Lacks]

theorem first_or_lacks (ps : Parameters) (name : String) :
    (∃ value, First ps name value) ∨ Lacks ps name := by
  cases h : ps.find? name with
  | none => exact Or.inr (find_none.mp h)
  | some value => exact Or.inl ⟨value, find_some.mp h⟩

theorem find_append : find? (ps ++ qs) name = (ps.find? name).or (qs.find? name) := by
  simp only [find?, List.find?_append]
  cases List.find? (fun p => Ascii.same p.1 name) ps <;> rfl

theorem find_cons_same (h : Ascii.same key name = true) :
    find? ((key, value) :: ps) name = some value := by
  simp [find?, h]

theorem find_cons_other (h : Ascii.same key name = false) :
    find? ((key, value) :: ps) name = ps.find? name := by
  simp [find?, h]

/-- Under each of the names both have the same first value, or neither has any. -/
def Agree (names : List String) (ps qs : Parameters) : Prop :=
  ∀ name ∈ names, (∃ value, First ps name value ∧ First qs name value) ∨
    (Lacks ps name ∧ Lacks qs name)

theorem agree_iff : Agree names ps qs ↔ ∀ name ∈ names, ps.find? name = qs.find? name := by
  refine forall₂_congr fun name _ => ?_
  constructor
  · rintro (⟨value, hp, hq⟩ | ⟨hp, hq⟩)
    · rw [find_some.mpr hp, find_some.mpr hq]
    · rw [find_none.mpr hp, find_none.mpr hq]
  · intro h
    cases hq : qs.find? name with
    | none => exact Or.inr ⟨find_none.mp (h.trans hq), find_none.mp hq⟩
    | some value => exact Or.inl ⟨value, find_some.mp (h.trans hq), find_some.mp hq⟩

/-- `qs` comes from `ps` by changes to pairs that do not count: those of other names, those after a
pair of their own name, and the order of different names. -/
inductive Rearranged (names : List String) : Parameters → Parameters → Prop where
  | refl (ps : Parameters) : Rearranged names ps ps
  | symm {ps qs : Parameters} : Rearranged names ps qs → Rearranged names qs ps
  | trans {ps qs rs : Parameters} :
      Rearranged names ps qs → Rearranged names qs rs → Rearranged names ps rs
  | unknown (before after : Parameters) (key value : String) :
      (∀ name ∈ names, Ascii.same key name = false) →
      Rearranged names (before ++ (key, value) :: after) (before ++ after)
  | repeated (before between after : Parameters) (key value key' value' : String) :
      Ascii.same key key' = true →
      Rearranged names (before ++ (key, value) :: (between ++ (key', value') :: after))
        (before ++ (key, value) :: (between ++ after))
  | swapped (before after : Parameters) (key value key' value' : String) :
      Ascii.same key key' = false →
      Rearranged names (before ++ (key, value) :: (key', value') :: after)
        (before ++ (key', value') :: (key, value) :: after)

theorem find_repeated (before between after : Parameters) {key key' : String}
    (value value' : String) (h : Ascii.same key key' = true) (name : String) :
    find? (before ++ (key, value) :: (between ++ (key', value') :: after)) name =
      find? (before ++ (key, value) :: (between ++ after)) name := by
  rw [find_append, find_append]
  congr 1
  by_cases hk : Ascii.same key name = true
  · rw [find_cons_same hk, find_cons_same hk]
  · have hk' : Ascii.same key' name = false := by
      rw [Bool.eq_false_iff, ne_eq, Ascii.same_iff, ← Ascii.same_iff.mp h, ← Ascii.same_iff]
      exact hk
    rw [Bool.not_eq_true] at hk
    rw [find_cons_other hk, find_cons_other hk, find_append, find_append, find_cons_other hk']

theorem find_swapped (before after : Parameters) {key key' : String} (value value' : String)
    (h : Ascii.same key key' = false) (name : String) :
    find? (before ++ (key, value) :: (key', value') :: after) name =
      find? (before ++ (key', value') :: (key, value) :: after) name := by
  rw [find_append, find_append]
  congr 1
  by_cases hk : Ascii.same key name = true
  · have hk' : Ascii.same key' name = false := by
      rw [Bool.eq_false_iff, ne_eq, Ascii.same_iff] at h ⊢
      exact fun h' => h ((Ascii.same_iff.mp hk).trans h'.symm)
    rw [find_cons_same hk, find_cons_other hk', find_cons_same hk]
  · rw [Bool.not_eq_true] at hk
    rw [find_cons_other hk]
    by_cases hk' : Ascii.same key' name = true
    · rw [find_cons_same hk', find_cons_same hk']
    · rw [Bool.not_eq_true] at hk'
      rw [find_cons_other hk', find_cons_other hk', find_cons_other hk]

theorem Rearranged.agree (h : Rearranged names ps qs) : Agree names ps qs := by
  rw [agree_iff]
  induction h with
  | refl => exact fun _ _ => rfl
  | symm _ ih => exact fun name hn => (ih name hn).symm
  | trans _ _ ihp ihq => exact fun name hn => (ihp name hn).trans (ihq name hn)
  | unknown before after key value hk =>
    intro name hn
    rw [find_append, find_append, find_cons_other (hk name hn)]
  | repeated before between after key value key' value' hk =>
    exact fun name _ => find_repeated before between after value value' hk name
  | swapped before after key value key' value' hk =>
    exact fun name _ => find_swapped before after value value' hk name

theorem wordOr_congr (h : ps.find? name = qs.find? name) (current : Int) :
    ps.wordOr name current = qs.wordOr name current := by
  rw [wordOr, wordOr, h]

theorem applyFields_congr (h : ps.find? "fields" = qs.find? "fields") (q : ReadQuery) :
    ps.applyFields q = qs.applyFields q := by
  rw [applyFields, applyFields, h]

theorem filterOr_congr (h : ps.find? "q" = qs.find? "q") (formats : Registry) (current : Filter) :
    ps.filterOr formats current = qs.filterOr formats current := by
  rw [filterOr, filterOr, h]

theorem listOr_congr {α : Type} (h : ps.find? name = qs.find? name) (item : Json.Decoder α)
    (current : List α) : ps.listOr name item current = qs.listOr name item current := by
  rw [listOr, listOr, h]

def readNames : List String := ["page", "limit", "fields", "q"]

def fieldNames : List String := ["fields"]

def summarizeNames : List String := ["q", "summaries", "grouping"]

/-- What is applied to a query depends on the first values under its own names and on nothing else:
not on other names, on later pairs of a name, or on the order of different names. -/
theorem apply_agree :
    (∀ ps qs, Agree readNames ps qs → ∀ formats q,
      applyRead ps formats q = applyRead qs formats q) ∧
    (∀ ps qs, Agree fieldNames ps qs → ∀ q, applyFields ps q = applyFields qs q) ∧
    (∀ ps qs, Agree summarizeNames ps qs → ∀ formats q,
      applySummarize ps formats q = applySummarize qs formats q) ∧
    ∀ names ps qs, Rearranged names ps qs → Agree names ps qs := by
  refine ⟨?read, ?fields, ?summarize, fun names ps qs h => h.agree⟩
  case read =>
    intro ps qs h formats q
    have hfind := agree_iff.mp h
    have hfields : ps.find? "fields" = qs.find? "fields" := hfind _ (by simp [readNames])
    rw [applyRead, applyRead, wordOr_congr (hfind "page" (by simp [readNames])),
      wordOr_congr (hfind "limit" (by simp [readNames])),
      filterOr_congr (hfind "q" (by simp [readNames]))]
    simp only [applyFields_congr hfields]
  case fields =>
    intro ps qs h q
    exact applyFields_congr (agree_iff.mp h "fields" (by simp [fieldNames])) q
  case summarize =>
    intro ps qs h formats q
    have hfind := agree_iff.mp h
    rw [applySummarize, applySummarize, filterOr_congr (hfind "q" (by simp [summarizeNames])),
      listOr_congr (hfind "summaries" (by simp [summarizeNames])),
      listOr_congr (hfind "grouping" (by simp [summarizeNames]))]

def untidy : Parameters :=
  [("x", "1"), ("PAGE", ""), ("fields", "code"), ("page", "9"), ("Q", "[]"), ("q", "")]

def tidy : Parameters := [("fields", "code"), ("PAGE", ""), ("Q", "[]")]

theorem untidy_rearranged {names : List String}
    (h : ∀ name ∈ names, Ascii.same "x" name = false) : Rearranged names untidy tidy := by
  have hx : Rearranged names untidy untidy.tail := .unknown [] _ "x" "1" h
  have hpage : Rearranged names untidy.tail
      [("PAGE", ""), ("fields", "code"), ("Q", "[]"), ("q", "")] :=
    .repeated [] [("fields", "code")] _ "PAGE" "" "page" "9" (by decide)
  have hq : Rearranged names [("PAGE", ""), ("fields", "code"), ("Q", "[]"), ("q", "")]
      [("PAGE", ""), ("fields", "code"), ("Q", "[]")] :=
    .repeated [("PAGE", ""), ("fields", "code")] [] [] "Q" "[]" "q" "" (by decide)
  have hswap : Rearranged names [("PAGE", ""), ("fields", "code"), ("Q", "[]")] tidy :=
    .swapped [] _ "PAGE" "" "fields" "code" (by decide)
  exact hx.trans (hpage.trans (hq.trans hswap))

theorem apply_agree_untidy :
    Rearranged readNames untidy tidy ∧ Rearranged fieldNames untidy tidy ∧
      Rearranged summarizeNames untidy tidy ∧
    untidy.applyRead .builtin (.ofType "Shot") = tidy.applyRead .builtin (.ofType "Shot") ∧
    untidy.applyFields (.ofType "Shot") = tidy.applyFields (.ofType "Shot") ∧
    untidy.applySummarize .builtin (.ofType "Shot") =
      tidy.applySummarize .builtin (.ofType "Shot") := by
  obtain ⟨hread, hfields, hsummarize, hagree⟩ := apply_agree
  have hr : Rearranged readNames untidy tidy := untidy_rearranged (by decide)
  have hf : Rearranged fieldNames untidy tidy := untidy_rearranged (by decide)
  have hs : Rearranged summarizeNames untidy tidy := untidy_rearranged (by decide)
  exact ⟨hr, hf, hs, hread _ _ (hagree _ _ _ hr) _ _, hfields _ _ (hagree _ _ _ hf) _,
    hsummarize _ _ (hagree _ _ _ hs) _ _⟩

end Parameters

end RestGateway
