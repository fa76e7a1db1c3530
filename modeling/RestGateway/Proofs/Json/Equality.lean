import Mathlib.Tactic.Common
import RestGateway.Filter.Basic
import RestGateway.Proofs.Json.Contents

/-!
# Equality of values

Values without floats are equal where their comparison says so. Equality of such values, and of what
holds them, is thus decided by evaluation.
-/

set_option autoImplicit false

namespace RestGateway

theorem Number.eq_of_beq {a b : Number} (ha : a.isInteger = true) (h : a.beq b = true) : a = b := by
  cases a with
  | int n =>
    cases b with
    | int m =>
      have hn : n = m := beq_iff_eq.mp h
      rw [hn]
    | float y => cases h
  | float x => cases ha

namespace Json

variable {a b : Json}

theorem eq_of_beqItems {as bs : List Json} (ha : ∀ v ∈ as, v.isFloatFree = true)
    (hall : ∀ v ∈ as, ∀ w, v.isFloatFree = true → v.beq w = true → v = w)
    (h : beqItems as bs = true) : as = bs := by
  induction as generalizing bs with
  | nil =>
    cases bs with
    | nil => rfl
    | cons b bs => cases h
  | cons a as ih =>
    cases bs with
    | nil => cases h
    | cons b bs =>
      obtain ⟨hhead, htail⟩ := List.forall_mem_cons.mp ha
      obtain ⟨hfirst, hrest⟩ := List.forall_mem_cons.mp hall
      obtain ⟨hb, hbs⟩ := Bool.and_eq_true_iff.mp h
      rw [hfirst b hhead hb, ih htail hrest hbs]

theorem eq_of_beqMembers {as bs : List (String × Json)} (ha : ∀ m ∈ as, m.2.isFloatFree = true)
    (hall : ∀ m ∈ as, ∀ w, m.2.isFloatFree = true → m.2.beq w = true → m.2 = w)
    (h : beqMembers as bs = true) : as = bs := by
  induction as generalizing bs with
  | nil =>
    cases bs with
    | nil => rfl
    | cons b bs => cases h
  | cons a as ih =>
    cases bs with
    | nil => cases h
    | cons b bs =>
      obtain ⟨k, v⟩ := a
      obtain ⟨l, w⟩ := b
      obtain ⟨hhead, htail⟩ := List.forall_mem_cons.mp ha
      obtain ⟨hfirst, hrest⟩ := List.forall_mem_cons.mp hall
      rw [beqMembers, Bool.and_eq_true, Bool.and_eq_true, beq_iff_eq] at h
      obtain ⟨⟨rfl, hw⟩, hbs⟩ := h
      rw [show v = w from hfirst w hhead hw, ih htail hrest hbs]

theorem eq_of_beq (ha : a.isFloatFree = true) (h : a.beq b = true) : a = b := by
  induction a using induct generalizing b with
  | null => cases b with
    | null => rfl
    | _ => cases h
  | bool x => cases b with
    | bool y => rw [beq_iff_eq.mp h]
    | _ => cases h
  | number n => cases b with
    | number m => rw [Number.eq_of_beq ha h]
    | _ => cases h
  | string s => cases b with
    | string t => rw [beq_iff_eq.mp h]
    | _ => cases h
  | list items ih => cases b with
    | list others =>
      have hitems := (isFloatFree_list items).mp ha
      rw [eq_of_beqItems hitems (fun v hv w => ih v hv) h]
    | _ => cases h
  | object members ih => cases b with
    | object others =>
      have hmembers := (isFloatFree_object members).mp ha
      rw [eq_of_beqMembers hmembers (fun m hm w => ih m hm) h]
    | _ => cases h

noncomputable instance : DecidableEq Json := fun a b =>
  if h : a.isFloatFree = true ∧ a.beq b = true then isTrue (eq_of_beq h.1 h.2)
  else Classical.propDecidable (a = b)

end Json

noncomputable section

deriving instance DecidableEq for Triple, Condition, Filter

end

end RestGateway
