import Mathlib.Data.List.Basic
import Mathlib.Tactic.Common
import Mathlib.Tactic.SplitIfs
import RestGateway.Proofs.Json.Progress
import RestGateway.Proofs.Text.Ascii
import RestGateway.Proofs.Text.Utf8

/-!
# Integers are read as they are written

A number ends where no byte follows that could belong to it. The decimal digits of an integer of 64
bits are all gathered and give back the integer.
-/

set_option autoImplicit false

namespace RestGateway.Json.Reader

/-- Nothing that a number could go on with. -/
def Boundary (s : List UInt8) : Prop :=
  ∀ b ∈ s.head?, isDigit b = false ∧ b ≠ 0x2E ∧ isExponentMark b = false

theorem boundary_nil : Boundary [] := by
  intro b hb
  simp at hb

theorem boundary_cons (b : UInt8) (s : List UInt8) (hd : isDigit b = false) (hp : b ≠ 0x2E)
    (he : isExponentMark b = false) : Boundary (b :: s) := by
  rintro c ⟨⟩
  exact ⟨hd, hp, he⟩

theorem takeWhile_digits (ds s : List UInt8) (hd : ∀ d ∈ ds, isDigit d = true)
    (hs : ∀ b ∈ s.head?, isDigit b = false) : (ds ++ s).takeWhile isDigit = ds := by
  rw [List.takeWhile_append_of_pos hd]
  cases s with
  | nil => simp
  | cons b s => simp [hs b (by simp)]

theorem dropWhile_digits (ds s : List UInt8) (hd : ∀ d ∈ ds, isDigit d = true)
    (hs : ∀ b ∈ s.head?, isDigit b = false) : (ds ++ s).dropWhile isDigit = s := by
  rw [List.dropWhile_append_of_pos hd]
  cases s with
  | nil => rfl
  | cons b s => simp [hs b (by simp)]

def digitByte (c : Char) : UInt8 := UInt8.ofNat c.toNat

theorem digit_range (c : Char) (h : c.isDigit = true) : 0x30 ≤ c.toNat ∧ c.toNat ≤ 0x39 := by
  simp only [Char.isDigit, Bool.and_eq_true, decide_eq_true_eq] at h
  exact h

theorem digitByte_toNat (c : Char) (h : c.isDigit = true) : (digitByte c).toNat = c.toNat := by
  have := digit_range c h
  exact Utf8.toNat_ofNat c.toNat (by omega)

theorem isDigit_digitByte (c : Char) (h : c.isDigit = true) : isDigit (digitByte c) = true := by
  have hr := digit_range c h
  have hn := digitByte_toNat c h
  simp only [isDigit, Bool.and_eq_true, decide_eq_true_eq, UInt8.le_iff_toNat_le, hn]
  exact hr

theorem encode_digits (cs : List Char) (h : ∀ c ∈ cs, c.isDigit = true) :
    Utf8.encode cs = cs.map digitByte := by
  induction cs with
  | nil => rfl
  | cons c cs ih =>
    have hr := digit_range c (h c (by simp))
    have hc : String.utf8EncodeChar c = [digitByte c] := by
      unfold String.utf8EncodeChar
      exact if_pos (show c.toNat ≤ 0x7F by omega)
    rw [Utf8.encode_cons, hc, ih fun d hd => h d (by simp [hd])]
    rfl

theorem ofDigitChars_ge (cs : List Char) (n : Nat) : n ≤ Nat.ofDigitChars 10 cs n := by
  induction cs generalizing n with
  | nil => simp
  | cons c cs ih =>
    rw [Nat.ofDigitChars_cons]
    have := ih (10 * n + (c.toNat - '0'.toNat))
    omega

theorem gather_digits (cs : List Char) (significand taken : Nat) (h : ∀ c ∈ cs, c.isDigit = true)
    (hn : Nat.ofDigitChars 10 cs significand < UInt64.size) :
    gather significand taken (cs.map digitByte) =
      (Nat.ofDigitChars 10 cs significand, taken + cs.length) := by
  induction cs generalizing significand taken with
  | nil => simp [gather]
  | cons c cs ih =>
    rw [Nat.ofDigitChars_cons] at hn ⊢
    have hc := digitByte_toNat c (h c (by simp))
    have hnext : significand * 10 + ((digitByte c).toNat - 0x30) =
        10 * significand + (c.toNat - '0'.toNat) := by
      rw [hc, Nat.mul_comm]
      rfl
    have hlt := ofDigitChars_ge cs (10 * significand + (c.toNat - '0'.toNat))
    simp only [List.map_cons, gather, hnext]
    rw [if_pos (by omega), ih _ _ (fun d hd => h d (by simp [hd])) hn, List.length_cons]
    congr 1
    omega

theorem afterInteger_end (negative : Bool) (n : Nat) (s : List UInt8) (hs : Boundary s) :
    afterInteger negative n 0 s = .ok (integer negative n, s) := by
  cases s with
  | nil => rfl
  | cons b s =>
    obtain ⟨-, hp, he⟩ := hs b (by simp)
    simp [afterInteger, hp, he]

theorem number_digits (negative : Bool) (n : Nat) (s : List UInt8) (hn : n < UInt64.size)
    (hs : Boundary s) :
    number negative (Utf8.encode (Nat.toDigits 10 n) ++ s) = .ok (integer negative n, s) := by
  have hd := toDigits_digit n
  have hstop : ∀ b ∈ s.head?, isDigit b = false := fun b hb => (hs b hb).1
  rw [encode_digits _ hd]
  by_cases hz : n = 0
  · subst hz
    cases s with
    | nil => rfl
    | cons b s =>
      have ha := afterInteger_end negative 0 (b :: s) hs
      simp [number, digitByte, hstop b (by simp), ha]
  · have hhead := toDigits_head n (by omega)
    have hbytes : ∀ b ∈ (Nat.toDigits 10 n).map digitByte, isDigit b = true := by
      intro b hb
      obtain ⟨c, hc, rfl⟩ := List.mem_map.mp hb
      exact isDigit_digitByte c (hd c hc)
    have htake := takeWhile_digits _ s hbytes hstop
    have hdrop := dropWhile_digits _ s hbytes hstop
    have hgather := gather_digits (Nat.toDigits 10 n) 0 0 hd (by simpa using hn)
    rw [Nat.ofDigitChars_ten_toDigits, Nat.zero_add] at hgather
    obtain ⟨c, cs, hcs⟩ := List.exists_cons_of_ne_nil (Nat.toDigits_ne_nil (n := n) (b := 10))
    have hc : c.isDigit = true := hd c (by simp [hcs])
    have hc0 : digitByte c ≠ 0x30 := by
      intro h
      have hn := digitByte_toNat c hc
      rw [h] at hn
      exact hhead (by rw [hcs, Char.toNat_inj.mp (show c.toNat = '0'.toNat from hn.symm)]; rfl)
    rw [hcs] at htake hdrop hgather ⊢
    simp only [List.map_cons, List.cons_append] at htake hdrop hgather ⊢
    simp only [number, if_neg hc0, isDigit_digitByte c hc, if_true, htake, hdrop, hgather]
    simp [afterInteger_end negative n s hs]

end RestGateway.Json.Reader
