import Mathlib.Algebra.Group.Int.Defs
import Mathlib.Tactic.SplitIfs
import RestGateway.Parameters

/-!
# Integers in text

Ids and page numbers are an optional sign and decimal digits, with a value that a word holds. Nothing
else is read as an integer.
-/

set_option autoImplicit false

namespace RestGateway

theorem Ascii.natural_iff {cs : List Char} {n : Nat} :
    Ascii.natural? cs = some n ↔
      cs ≠ [] ∧ (∀ c ∈ cs, Ascii.isDigit c = true) ∧ n = Ascii.ofDigits 0 cs := by
  simp only [Ascii.natural?, List.isEmpty_iff]
  split_ifs with hn hd
  · simp [hn]
  · have hd := List.all_eq_true.mp hd
    constructor
    · intro h
      exact ⟨hn, hd, (Option.some.inj h).symm⟩
    · rintro ⟨-, -, rfl⟩
      rfl
  · have hd : ¬ ∀ c ∈ cs, Ascii.isDigit c = true := fun h => hd (List.all_eq_true.mpr h)
    simp [hd]

/-- `cs` is an optional sign and digits, one at least, and `n` is the integer they name. -/
inductive Numeral : List Char → Int → Prop where
  | unsigned {ds : List Char} (hn : ds ≠ []) (hd : ∀ d ∈ ds, Ascii.isDigit d = true) :
      Numeral ds (Ascii.ofDigits 0 ds)
  | plus {ds : List Char} (hn : ds ≠ []) (hd : ∀ d ∈ ds, Ascii.isDigit d = true) :
      Numeral ('+' :: ds) (Ascii.ofDigits 0 ds)
  | minus {ds : List Char} (hn : ds ≠ []) (hd : ∀ d ∈ ds, Ascii.isDigit d = true) :
      Numeral ('-' :: ds) (-Ascii.ofDigits 0 ds)

theorem digits_unsigned {ds : List Char} (hn : ds ≠ []) (hd : ∀ d ∈ ds, Ascii.isDigit d = true) :
    Ascii.integer? ds = (Ascii.natural? ds).map Int.ofNat := by
  obtain ⟨d, more, rfl⟩ := List.exists_cons_of_ne_nil hn
  have h : Ascii.isDigit d = true := hd d List.mem_cons_self
  unfold Ascii.integer?
  split
  · next heq =>
    obtain ⟨rfl, -⟩ := List.cons.inj heq
    exact absurd h (by decide)
  · next heq =>
    obtain ⟨rfl, -⟩ := List.cons.inj heq
    exact absurd h (by decide)
  · rfl

theorem Ascii.integer_iff {cs : List Char} {n : Int} :
    Ascii.integer? cs = some n ↔ Numeral cs n := by
  constructor
  · intro h
    unfold Ascii.integer? at h
    split at h
    all_goals
      obtain ⟨m, hm, rfl⟩ := Option.map_eq_some_iff.mp h
      obtain ⟨hn, hd, rfl⟩ := Ascii.natural_iff.mp hm
    · exact .plus hn hd
    · exact .minus hn hd
    · exact .unsigned hn hd
  · intro h
    cases h with
    | unsigned hn hd =>
      rw [digits_unsigned hn hd, Ascii.natural_iff.mpr ⟨hn, hd, rfl⟩]
      rfl
    | @plus ds hn hd =>
      rw [Ascii.integer?, Ascii.natural_iff.mpr ⟨hn, hd, rfl⟩]
      rfl
    | @minus ds hn hd =>
      rw [Ascii.integer?, Ascii.natural_iff.mpr ⟨hn, hd, rfl⟩]
      rfl

theorem Word.ofInt_iff {m n : Int} :
    Word.ofInt? m = some n ↔ m = n ∧ -2 ^ 63 ≤ n ∧ n < 2 ^ 63 := by
  unfold Word.ofInt?
  split_ifs with h <;> simp only [Word.least, Word.greatest] at h
  · rw [Option.some.injEq]
    omega
  · constructor
    · intro hn
      cases hn
    · intro hn
      omega

theorem Parameters.word_iff {s : String} {n : Int} :
    Parameters.word? s = some n ↔ Numeral s.toList n ∧ -2 ^ 63 ≤ n ∧ n < 2 ^ 63 := by
  rw [Parameters.word?, Option.bind_eq_some_iff]
  constructor
  · rintro ⟨m, hm, hn⟩
    obtain ⟨rfl, hr⟩ := Word.ofInt_iff.mp hn
    exact ⟨Ascii.integer_iff.mp hm, hr⟩
  · rintro ⟨hn, hr⟩
    exact ⟨n, Ascii.integer_iff.mpr hn, Word.ofInt_iff.mpr ⟨rfl, hr⟩⟩

end RestGateway
