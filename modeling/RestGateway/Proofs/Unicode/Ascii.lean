import RestGateway.Proofs.Text.Ascii
import RestGateway.Unicode.Direction
import RestGateway.Unicode.Mapping

/-!
# The Unicode rules on ASCII text

Text in ASCII is composed, and only its capital letters stand for other characters. It holds neither
marks nor joiners, and none of its characters is written from right to left.
-/

set_option autoImplicit false

namespace RestGateway.Unicode

variable {c : Char} {text : List Char}

theorem mapping_ascii (hc : c.toNat < 0x80) : mapping c = [c.toLower] := by
  rw [mapping, if_pos hc]

theorem flatMap_mapping (h : ∀ c ∈ text, c.toNat < 0x80 ∧ c.toLower = c) :
    text.flatMap mapping = text := by
  induction text with
  | nil => rfl
  | cons c text ih =>
    obtain ⟨⟨hascii, hlower⟩, hrest⟩ := List.forall_mem_cons.mp h
    rw [List.flatMap_cons, mapping_ascii hascii, hlower, ih hrest, List.singleton_append]

theorem isHeld_ascii (hc : c.toNat < 0x80) : isHeld c = true ↔ c.toLower = c := by
  simp [isHeld, mapping_ascii hc, hc]

theorem composed_ascii (h : ∀ c ∈ text, c.toNat < 0x80) : composed text = text := by
  have hlow : (text.all fun c => c.toNat < 0x300) = true := by
    rw [List.all_eq_true]
    intro c hc
    have := h c hc
    exact decide_eq_true (by omega)
  rw [composed, if_pos hlow]

theorem isMark_ascii (hc : c.toNat < 0x80) : isMark c = false := by
  have hlow : ¬0x300 ≤ c.toNat := by omega
  rw [isMark, decide_eq_false hlow, Bool.false_and]

theorem joinersFit_ascii (before : List Char) (h : ∀ c ∈ text, c.toNat < 0x80) :
    joinersFit before text = true := by
  induction text generalizing before with
  | nil => rfl
  | cons c text ih =>
    obtain ⟨hc, hrest⟩ := List.forall_mem_cons.mp h
    rw [joinersFit, ih _ hrest, Bool.and_true]
    split
    · omega
    · omega
    · rfl

theorem direction_ascii (hc : c.toNat < 0x80) : direction c ≠ .right ∧ direction c ≠ .arabic := by
  unfold direction
  dsimp only
  rw [if_pos hc]
  split_ifs
  all_goals decide

theorem directionsFit_ascii {labels : List (List Char)}
    (h : ∀ label ∈ labels, ∀ c ∈ label, c.toNat < 0x80) : directionsFit labels = true := by
  have hleft : (labels.map fun label => label.map direction).any isRightToLeft = false := by
    rw [List.any_eq_false]
    intro directions hdirections
    obtain ⟨label, hlabel, rfl⟩ := List.mem_map.mp hdirections
    rw [isRightToLeft, List.any_map, Bool.not_eq_true, List.any_eq_false]
    intro c hc
    simpa [not_or] using direction_ascii (h label hlabel c hc)
  simp only [directionsFit, hleft, Bool.not_false, Bool.true_or]

end RestGateway.Unicode
