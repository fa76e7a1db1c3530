import RestGateway.Config.Setting

/-!
# Tables that define each key once

Under a key of a table that was laid over another one stands what the upper one has there, laid over
what the lower one has, or what the lower one has alone. This takes an upper table that defines no
key twice, which laying tables over each other preserves.
-/

set_option autoImplicit false

namespace RestGateway.Config

/-- Each key once, and under each key what is allowed there. -/
structure Entries.Lawful (P : String → Setting → Prop) (es : Entries) : Prop where
  once : (es.map Prod.fst).Nodup
  each : ∀ e ∈ es, P e.1 e.2

namespace Entries.Lawful

variable {P : String → Setting → Prop} {es : Entries}

theorem nil : Lawful P [] := ⟨List.nodup_nil, by simp⟩

theorem cons_iff {key : String} {value : Setting} :
    Lawful P ((key, value) :: es) ↔ key ∉ es.map Prod.fst ∧ P key value ∧ Lawful P es := by
  constructor
  · rintro ⟨once, each⟩
    obtain ⟨hkey, honce⟩ := List.nodup_cons.mp once
    obtain ⟨hvalue, heach⟩ := List.forall_mem_cons.mp each
    exact ⟨hkey, hvalue, honce, heach⟩
  · rintro ⟨hkey, hvalue, h⟩
    exact ⟨List.nodup_cons.mpr ⟨hkey, h.once⟩, List.forall_mem_cons.mpr ⟨hvalue, h.each⟩⟩

theorem lookup {key : String} {value : Setting} (h : Lawful P es)
    (hl : es.lookup key = some value) : P key value := by
  obtain ⟨before, after, rfl, -⟩ := List.lookup_eq_some_iff.mp hl
  exact h.each (key, value) (by simp)

end Entries.Lawful

namespace Setting

variable {P : String → Setting → Prop}

theorem mem_keys_put {key other : String} {value : Setting} {es : Entries}
    (h : other ∈ (put key value es).map Prod.fst) : other = key ∨ other ∈ es.map Prod.fst := by
  induction es with
  | nil => exact Or.inl (by simpa [put] using h)
  | cons e rest ih =>
    obtain ⟨k, v⟩ := e
    by_cases hk : k = key
    · rw [put, if_pos hk] at h
      rcases List.mem_cons.mp h with h | h
      · exact Or.inl h
      · exact Or.inr (List.mem_cons_of_mem _ h)
    · rw [put, if_neg hk] at h
      rcases List.mem_cons.mp h with h | h
      · exact Or.inr (h ▸ List.mem_cons_self)
      · exact (ih h).imp_right (List.mem_cons_of_mem _)

theorem put_lawful {key : String} {value : Setting} {es : Entries} (h : Entries.Lawful P es)
    (hv : P key value) : Entries.Lawful P (put key value es) := by
  induction es with
  | nil => exact Entries.Lawful.cons_iff.mpr ⟨by simp, hv, .nil⟩
  | cons e rest ih =>
    obtain ⟨k, v⟩ := e
    obtain ⟨hfresh, hkept, hrest⟩ := Entries.Lawful.cons_iff.mp h
    by_cases hk : k = key
    · subst hk
      rw [put, if_pos rfl]
      exact Entries.Lawful.cons_iff.mpr ⟨hfresh, hv, hrest⟩
    · rw [put, if_neg hk]
      refine Entries.Lawful.cons_iff.mpr ⟨fun hm => ?_, hkept, ih hrest⟩
      exact (mem_keys_put hm).elim hk hfresh

def onTop (lower : Option Setting) (upper : Setting) : Setting :=
  match lower with
  | some s => s.overlaid upper
  | none => upper

theorem overlaidEntries_cons (lower : Entries) (key : String) (value : Setting) (rest : Entries) :
    overlaidEntries lower ((key, value) :: rest) =
      overlaidEntries (put key (onTop (lower.lookup key) value) lower) rest := by
  rw [overlaidEntries]
  rfl

theorem lookup_of_not_mem {key : String} {es : Entries} (h : key ∉ es.map Prod.fst) :
    es.lookup key = none := by
  rw [List.lookup_eq_none_iff]
  intro e he
  exact bne_iff_ne.mpr fun hk => h (hk ▸ List.mem_map_of_mem he)

theorem lookup_overlaid {es : Entries} (hes : (es.map Prod.fst).Nodup) (lower : Entries)
    (key : String) :
    (overlaidEntries lower es).lookup key =
      match es.lookup key with
      | some value => some (onTop (lower.lookup key) value)
      | none => lower.lookup key := by
  induction es generalizing lower with
  | nil => rw [overlaidEntries]; rfl
  | cons e rest ih =>
    obtain ⟨k, v⟩ := e
    obtain ⟨hfresh, hrest⟩ := List.nodup_cons.mp hes
    rw [overlaidEntries_cons, ih hrest, List.lookup_cons]
    by_cases hk : key = k
    · subst hk
      rw [lookup_of_not_mem hfresh, lookup_put_self, beq_self_eq_true]
    · rw [lookup_put_of_ne hk, beq_eq_false_iff_ne.mpr hk]

theorem overlaidEntries_lawful {lower es : Entries} (hl : Entries.Lawful P lower)
    (hes : Entries.Lawful P es)
    (hover : ∀ key u v, P key u → P key v → P key (overlaid u v)) :
    Entries.Lawful P (overlaidEntries lower es) := by
  induction es generalizing lower with
  | nil => rw [overlaidEntries]; exact hl
  | cons e rest ih =>
    obtain ⟨k, v⟩ := e
    obtain ⟨-, hv, hrest⟩ := Entries.Lawful.cons_iff.mp hes
    rw [overlaidEntries_cons]
    refine ih (put_lawful hl ?_) hrest
    cases hu : lower.lookup k with
    | none => exact hv
    | some u => exact hover k u v (hl.lookup hu) hv

/-- Tables at all depths define each key once. -/
inductive Once : Setting → Prop where
  | string (s : String) : Once (.string s)
  | signed (n : Int) : Once (.signed n)
  | unsigned (n : Nat) : Once (.unsigned n)
  | float (x : Float) : Once (.float x)
  | bool (b : Bool) : Once (.bool b)
  | list {items : List Setting} (h : ∀ s ∈ items, Once s) : Once (.list items)
  | table {es : Entries} (hk : (es.map Prod.fst).Nodup) (hs : ∀ e ∈ es, Once e.2) :
    Once (.table es)

theorem once_table {es : Entries} : Once (.table es) ↔ Entries.Lawful (fun _ s => Once s) es := by
  constructor
  · rintro ⟨⟩
    exact ⟨‹_›, ‹_›⟩
  · rintro ⟨hk, hs⟩
    exact .table hk hs

end Setting

end RestGateway.Config
