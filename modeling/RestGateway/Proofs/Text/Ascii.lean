import Mathlib.Data.List.Basic
import Mathlib.Tactic.Common
import Mathlib.Tactic.SplitIfs
import RestGateway.Text.Ascii

/-!
# ASCII characters and decimal digits

A property of ASCII characters is checked on each of them. What is written of a number is read as
that number, and only zero is written with a leading zero.
-/

set_option autoImplicit false

namespace RestGateway

@[elab_as_elim]
theorem Ascii.of_forall {motive : Char → Prop} {c : Char} (hc : c.toNat < 0x80)
    (h : ∀ n < 0x80, motive (Char.ofNat n)) : motive c := by
  rw [← Char.ofNat_toNat c]
  exact h c.toNat hc

theorem Ascii.digit_lt {c : Char} (h : c.isDigit = true) : c.toNat < 0x80 := by
  simp only [Char.isDigit, Bool.and_eq_true, decide_eq_true_eq] at h
  exact Nat.lt_of_le_of_lt (UInt32.le_iff_toNat_le.mp h.2) (by decide)

theorem toDigits_digit (n : Nat) : ∀ c ∈ Nat.toDigits 10 n, c.isDigit = true := fun _ hc =>
  Nat.isDigit_of_mem_toDigits (by decide) (by decide) hc

theorem digitChar_zero : ∀ n < 10, Nat.digitChar n = '0' → n = 0 := by decide

theorem toDigits_head (n : Nat) (hn : 0 < n) : (Nat.toDigits 10 n).head? ≠ some '0' := by
  induction n using Nat.strongRecOn with
  | _ n ih =>
    rw [Nat.toDigits_eq_if (by decide)]
    split_ifs with h
    · intro hc
      have hz := digitChar_zero n h (by simpa using hc)
      omega
    · have hne := Nat.toDigits_ne_nil (n := n / 10) (b := 10)
      rw [List.head?_append_of_ne_nil _ hne]
      exact ih (n / 10) (by omega) (by omega)

theorem Ascii.isDigit_of_isDigit {c : Char} (h : c.isDigit = true) : Ascii.isDigit c = true := by
  simpa [Ascii.isDigit, Char.isDigit, Char.le_def] using h

theorem Ascii.ofDigits_toDigits (n : Nat) : Ascii.ofDigits 0 (Nat.toDigits 10 n) = n := by
  have hstep : (fun n d => n * 10 + Ascii.digitValue d) =
      fun n (d : Char) => 10 * n + (d.toNat - '0'.toNat) := by
    funext n d
    rw [Nat.mul_comm, Ascii.digitValue]
  rw [Ascii.ofDigits, hstep]
  exact Nat.ofDigitChars_ten_toDigits

end RestGateway
