import Mathlib.Data.String.Basic
import Mathlib.Tactic.SplitIfs
import RestGateway.Proofs.Text.Utf8

/-!
# Bytes in the order of characters

UTF-8 keeps the order: of two texts, the one that comes first by the numbers of its characters comes
first by its bytes.
-/

set_option autoImplicit false

namespace RestGateway.Utf8

theorem byte_cons_lt {m n : Nat} (hm : m < 256) (hn : n < 256) {bs cs : List UInt8} :
    UInt8.ofNat m :: bs < UInt8.ofNat n :: cs ↔ m < n ∨ m = n ∧ bs < cs := by
  rw [List.cons_lt_cons_iff, UInt8.lt_iff_toNat_lt, ← UInt8.toNat_inj, toNat_ofNat m hm,
    toNat_ofNat n hn]

theorem encodeChar_lt {c d : Char} (h : c < d) (bs cs : List UInt8) :
    String.utf8EncodeChar c ++ bs < String.utf8EncodeChar d ++ cs := by
  have hd := char_valid d
  have hlt : c.val.toNat < d.val.toNat := UInt32.lt_iff_toNat_lt.mp (Char.lt_def.mp h)
  unfold String.utf8EncodeChar
  generalize c.val.toNat = v at hlt
  generalize d.val.toNat = w at hlt hd
  have hdigits (n : Nat) (h : n < 0x110000) :
      n / 64 / 64 = n / 4096 ∧ n / 4096 / 64 = n / 262144 ∧ n / 262144 / 8 = 0 := by
    omega
  have hv := hdigits v (by omega)
  have hw := hdigits w (by omega)
  dsimp only
  split_ifs
  all_goals
    simp only [List.cons_append, List.nil_append]
    simp (disch := omega) only [byte_cons_lt]
    omega

theorem encode_lt {a b : List Char} (h : a < b) : encode a < encode b := by
  induction a generalizing b with
  | nil =>
    cases b with
    | nil => cases h
    | cons d b =>
      have hne : encode (d :: b) ≠ [] := by simp [encode_cons]
      obtain ⟨x, bs, hx⟩ := List.exists_cons_of_ne_nil hne
      rw [hx]
      exact List.nil_lt_cons x bs
  | cons c a ih =>
    cases b with
    | nil => cases h
    | cons d b =>
      rw [encode_cons, encode_cons]
      rcases List.cons_lt_cons_iff.mp h with hlt | ⟨rfl, hlt⟩
      · exact encodeChar_lt hlt _ _
      · exact List.append_left_lt (ih hlt)

theorem bytes_lt {s t : String} (h : s < t) : bytes s < bytes t :=
  encode_lt (String.lt_iff_toList_lt.mp h)

end RestGateway.Utf8
