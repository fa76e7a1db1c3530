import Mathlib.Data.List.Sort
import RestGateway.Proofs.Json.Contents
import RestGateway.Proofs.Text.Order

/-!
# What is kept of pairs

Of the pairs of an object the one given last under each name is kept, and the names that are kept
stand in the order of their bytes. This is so at every depth. The order of pairs with different
names does not matter.
-/

set_option autoImplicit false

namespace RestGateway

namespace Members

variable {ps qs : List (String × Json)} {ms : Members} {name : String} {v w : Json}

def Last (ps : List (String × Json)) (name : String) (v : Json) : Prop :=
  ∃ before after, ps = before ++ (name, v) :: after ∧ ∀ p ∈ after, p.1 ≠ name

theorem lookup_last : ps.reverse.lookup name = some v ↔ Last ps name v := by
  rw [List.lookup_eq_some_iff]
  constructor
  · rintro ⟨after, before, hps, hafter⟩
    refine ⟨before.reverse, after.reverse, ?_, fun p hp => ?_⟩
    · rw [← List.reverse_reverse ps, hps]
      simp
    · exact (bne_iff_ne.mp (hafter p (List.mem_reverse.mp hp))).symm
  · rintro ⟨before, after, rfl, hafter⟩
    refine ⟨after.reverse, before.reverse, by simp, fun p hp => ?_⟩
    exact bne_iff_ne.mpr (hafter p (List.mem_reverse.mp hp)).symm

theorem last_exists (h : name ∈ ps.map Prod.fst) : ∃ v, Last ps name v := by
  simp only [← lookup_last]
  rw [← Option.isSome_iff_exists, Option.isSome_iff_ne_none, ne_eq, List.lookup_eq_none_iff]
  obtain ⟨p, hp, rfl⟩ := List.mem_map.mp h
  intro hnone
  have hne := hnone p (List.mem_reverse.mpr hp)
  simp at hne

theorem Last.mem (h : Last ps name v) : (name, v) ∈ ps := by
  obtain ⟨before, after, rfl, -⟩ := h
  simp

theorem Last.map (f : Json → Json) (h : Last ps name v) :
    Last (ps.map fun m => (m.1, f m.2)) name (f v) := by
  obtain ⟨before, after, rfl, hafter⟩ := h
  refine ⟨before.map fun m => (m.1, f m.2), after.map fun m => (m.1, f m.2), by simp, ?_⟩
  intro p hp
  obtain ⟨m, hm, rfl⟩ := List.mem_map.mp hp
  exact hafter m hm

theorem Last.unique (hv : Last ps name v) (hw : Last ps name w) : v = w := by
  rw [← lookup_last] at hv hw
  exact Option.some.inj (hv.symm.trans hw)

def under (ps : List (String × Json)) (name : String) : List (String × Json) :=
  ps.filter fun p => p.1 == name

theorem lookup_under : (under ps name).lookup name = ps.lookup name := by
  induction ps with
  | nil => rfl
  | cons p ps ih =>
    obtain ⟨k, v⟩ := p
    by_cases hk : k = name
    · simp [under, hk]
    · have hb : (name == k) = false := beq_false_of_ne (Ne.symm hk)
      have hskip : under ((k, v) :: ps) name = under ps name := by simp [under, hk]
      rw [hskip, ih, List.lookup_cons, hb]

theorem under_reverse : under ps.reverse name = (under ps name).reverse := List.filter_reverse

theorem under_map (f : Json → Json) : under (ps.map fun m => (m.1, f m.2)) name =
    (under ps name).map fun m => (m.1, f m.2) := List.filter_map

theorem last_congr (h : under ps name = under qs name) : Last ps name v ↔ Last qs name v := by
  rw [← lookup_last, ← lookup_last, ← lookup_under, under_reverse, h, ← under_reverse, lookup_under]

theorem mem_iff_lookup (h : ms.Pairwise fun a b => a.1 < b.1) :
    (name, v) ∈ ms ↔ ms.lookup name = some v := by
  rw [List.lookup_eq_some_iff]
  constructor
  · intro hm
    obtain ⟨before, after, rfl⟩ := List.append_of_mem hm
    refine ⟨before, after, rfl, fun p hp => bne_iff_ne.mpr (ne_of_gt ?_)⟩
    exact (List.pairwise_append.mp h).2.2 p hp _ List.mem_cons_self
  · rintro ⟨before, after, rfl, -⟩
    simp

theorem mem_ofPairs_iff : (name, v) ∈ ofPairs ps ↔ Last ps name v := by
  rw [mem_iff_lookup (ofPairs_pairwise ps), lookup_ofPairs, lookup_last]

theorem names_ofPairs : name ∈ (ofPairs ps).map Prod.fst ↔ name ∈ ps.map Prod.fst := by
  constructor
  · intro h
    obtain ⟨m, hm, rfl⟩ := List.mem_map.mp h
    exact List.mem_map_of_mem (mem_ofPairs hm)
  · intro h
    obtain ⟨v, hv⟩ := last_exists h
    exact List.mem_map.mpr ⟨(name, v), mem_ofPairs_iff.mpr hv, rfl⟩

theorem ofPairs_congr (h : ∀ name v, Last ps name v ↔ Last qs name v) :
    ofPairs ps = ofPairs qs := by
  have hantisymm : Std.Antisymm fun a b : String × Json => a.1 < b.1 :=
    ⟨fun _ _ hab hba => absurd hab (lt_asymm hba)⟩
  have hirrefl : Std.Irrefl fun a b : String × Json => a.1 < b.1 := ⟨fun _ => lt_irrefl _⟩
  refine List.Pairwise.eq_of_mem_iff (ofPairs_pairwise ps) (ofPairs_pairwise qs) ?_
  rintro ⟨name, v⟩
  rw [mem_ofPairs_iff, mem_ofPairs_iff, h]

end Members

namespace Json
open Members

/-- The value keeps what stands in a document: of every object each name once, in the order of the
names' bytes, with what is kept of the value given last under it. -/
inductive Keeps : Json → Json → Prop where
  | null : Keeps .null .null
  | bool (b : Bool) : Keeps (.bool b) (.bool b)
  | number (n : Number) : Keeps (.number n) (.number n)
  | string (s : String) : Keeps (.string s) (.string s)
  | listEnd : Keeps (.list []) (.list [])
  | item {v w : Json} {vs ws : List Json} :
      Keeps v w → Keeps (.list vs) (.list ws) → Keeps (.list (v :: vs)) (.list (w :: ws))
  | object {ps ms : List (String × Json)} (given : String → Json) :
      ms.Pairwise (fun a b => Utf8.bytes a.1 < Utf8.bytes b.1) →
      (∀ name, name ∈ ms.map Prod.fst ↔ name ∈ ps.map Prod.fst) →
      (∀ m ∈ ms, Last ps m.1 (given m.1)) → (∀ m ∈ ms, Keeps (given m.1) m.2) →
      Keeps (.object ps) (.object ms)

theorem keeps_items {vs : List Json} (h : ∀ v ∈ vs, Keeps v v.asRead) :
    Keeps (.list vs) (.list (vs.map asRead)) := by
  induction vs with
  | nil => exact .listEnd
  | cons v vs ih =>
    obtain ⟨hv, hvs⟩ := List.forall_mem_cons.mp h
    exact .item hv (ih hvs)

/-- Of the pairs put in order each has the value given last under its name. -/
theorem last_asRead {ps : List (String × Json)} {m : String × Json}
    (h : m ∈ ofPairs (ps.map fun p => (p.1, p.2.asRead))) :
    ∃ v, Last ps m.1 v ∧ m.2 = v.asRead := by
  have hnames : m.1 ∈ ps.map Prod.fst := by
    have hm := List.mem_map_of_mem (f := Prod.fst) (mem_ofPairs h)
    simpa using hm
  obtain ⟨v, hv⟩ := last_exists hnames
  exact ⟨v, hv, (mem_ofPairs_iff.mp h).unique (hv.map asRead)⟩

theorem keeps_asRead (v : Json) : Keeps v v.asRead := by
  induction v using induct with
  | null => exact .null
  | bool b => exact .bool b
  | number n => exact .number n
  | string s => exact .string s
  | list items ih =>
    rw [asRead_list]
    exact keeps_items ih
  | object ps ih =>
    rw [asRead_object]
    have hlast (m : String × Json) (hm : m ∈ ofPairs (ps.map fun p => (p.1, p.2.asRead))) :
        Last ps m.1 ((ps.reverse.lookup m.1).getD .null) ∧
          m.2 = ((ps.reverse.lookup m.1).getD .null).asRead := by
      obtain ⟨v, hv, hread⟩ := last_asRead hm
      rw [lookup_last.mpr hv]
      exact ⟨hv, hread⟩
    refine .object (fun name => (ps.reverse.lookup name).getD .null) ?_ (fun name => ?_)
      (fun m hm => (hlast m hm).1) (fun m hm => ?_)
    · exact (ofPairs_pairwise _).imp fun h => Utf8.bytes_lt h
    · rw [names_ofPairs]
      simp
    · obtain ⟨hm, hread⟩ := hlast m hm
      rw [hread]
      exact ih _ hm.mem

/-- The same but for the order of pairs with different names, in the objects at any depth. -/
inductive Rearranged : Json → Json → Prop where
  | refl (v : Json) : Rearranged v v
  | symm {v w : Json} : Rearranged v w → Rearranged w v
  | trans {u v w : Json} : Rearranged u v → Rearranged v w → Rearranged u w
  | order {ps qs : List (String × Json)} :
      (∀ name, under ps name = under qs name) → Rearranged (.object ps) (.object qs)
  | item (before after : List Json) {v w : Json} : Rearranged v w →
      Rearranged (.list (before ++ v :: after)) (.list (before ++ w :: after))
  | member (before after : List (String × Json)) (name : String) {v w : Json} : Rearranged v w →
      Rearranged (.object (before ++ (name, v) :: after)) (.object (before ++ (name, w) :: after))

theorem Rearranged.swap (before after : List (String × Json)) {k l : String} (v w : Json)
    (h : k ≠ l) : Rearranged (.object (before ++ (k, v) :: (l, w) :: after))
      (.object (before ++ (l, w) :: (k, v) :: after)) := by
  refine .order fun name => ?_
  simp only [under, List.filter_append, List.append_cancel_left_eq]
  by_cases hk : k = name
  · have hl : (l == name) = false := beq_false_of_ne fun hl => h (hk.trans hl.symm)
    simp [List.filter_cons, hl]
  · have hk : (k == name) = false := beq_false_of_ne hk
    simp [List.filter_cons, hk]

theorem Rearranged.asRead_eq {v w : Json} (h : Rearranged v w) : v.asRead = w.asRead := by
  induction h with
  | refl => rfl
  | symm _ ih => exact ih.symm
  | trans _ _ ihu ihv => exact ihu.trans ihv
  | @order ps qs h =>
    rw [asRead_object, asRead_object]
    congr 1
    refine ofPairs_congr fun name v => last_congr ?_
    rw [under_map, under_map, h]
  | item before after _ ih => simp [ih]
  | member before after name _ ih => simp [ih]

end Json

end RestGateway
