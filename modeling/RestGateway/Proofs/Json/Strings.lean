import Mathlib.Tactic.IntervalCases
import RestGateway.Proofs.Json.Progress
import RestGateway.Proofs.Text.Utf8

/-!
# Strings are read as they are written

The bytes of a character that needs no escape are taken one by one, an escape at once. Either way
the character's own bytes are added to those already read, and at the closing quote all of them are
the bytes of the string.
-/

set_option autoImplicit false

namespace RestGateway.Json.Reader

def Plain (b : UInt8) : Prop := 0x20 ≤ b ∧ b ≠ 0x22 ∧ b ≠ 0x5C

instance (b : UInt8) : Decidable (Plain b) := inferInstanceAs (Decidable (_ ∧ _ ∧ _))

theorem stringStep_plain (acc rest : List UInt8) (b : UInt8) (hb : Plain b) :
    stringStep acc (b :: rest) = .ok (.inl (b :: acc), rest) := by
  obtain ⟨h1, h2, h3⟩ := hb
  have h1' : ¬ b < 0x20 := UInt8.not_lt.mpr h1
  simp only [stringStep, if_neg h2, if_neg h3, if_neg h1']

theorem repeatedly_plain (ps acc rest : List UInt8) (hp : ∀ b ∈ ps, Plain b) :
    repeatedly stringStep acc (ps ++ rest) = repeatedly stringStep (ps.reverse ++ acc) rest := by
  induction ps generalizing acc with
  | nil => rfl
  | cons b ps ih =>
    rw [List.cons_append, repeatedly_go stringStep_advances
      (stringStep_plain acc _ b (hp b (by simp))), ih _ fun b hb => hp b (by simp [hb])]
    simp

theorem plain_of_toNat (n : Nat) (h : n < 256) (h1 : 0x20 ≤ n) (h2 : n ≠ 0x22) (h3 : n ≠ 0x5C) :
    Plain (UInt8.ofNat n) := by
  have hn := Utf8.toNat_ofNat n h
  refine ⟨UInt8.le_iff_toNat_le.mpr (by simpa [hn] using h1), ?_, ?_⟩
  · intro he
    rw [he] at hn
    exact h2 hn.symm
  · intro he
    rw [he] at hn
    exact h3 hn.symm

theorem plain_char (c : Char) (h1 : 0x20 ≤ c.toNat) (h2 : c ≠ '"') (h3 : c ≠ '\\') :
    ∀ b ∈ String.utf8EncodeChar c, Plain b := by
  have hq : c.toNat ≠ 0x22 := fun h => h2 (Char.toNat_inj.mp h)
  have hb : c.toNat ≠ 0x5C := fun h => h3 (Char.toNat_inj.mp h)
  change 0x20 ≤ c.val.toNat at h1
  change c.val.toNat ≠ 0x22 at hq
  change c.val.toNat ≠ 0x5C at hb
  have hv := Utf8.char_valid c
  unfold String.utf8EncodeChar
  generalize c.val.toNat = v at h1 hq hb hv
  dsimp only
  split_ifs <;> simp only [List.forall_mem_cons, List.not_mem_nil, false_implies, implies_true,
    and_true]
  · exact plain_of_toNat v (by omega) h1 hq hb
  · exact ⟨plain_of_toNat _ (by omega) (by omega) (by omega) (by omega),
      plain_of_toNat _ (by omega) (by omega) (by omega) (by omega)⟩
  · exact ⟨plain_of_toNat _ (by omega) (by omega) (by omega) (by omega),
      plain_of_toNat _ (by omega) (by omega) (by omega) (by omega),
      plain_of_toNat _ (by omega) (by omega) (by omega) (by omega)⟩
  · exact ⟨plain_of_toNat _ (by omega) (by omega) (by omega) (by omega),
      plain_of_toNat _ (by omega) (by omega) (by omega) (by omega),
      plain_of_toNat _ (by omega) (by omega) (by omega) (by omega),
      plain_of_toNat _ (by omega) (by omega) (by omega) (by omega)⟩

theorem stringStep_escape (acc bs rest : List UInt8) (c : Char) (h : escape bs = .ok (c, rest)) :
    stringStep acc (0x5C :: bs) = .ok (.inl ((String.utf8EncodeChar c).reverse ++ acc), rest) := by
  simp [stringStep, h]

theorem escape_short (b : UInt8) (c : Char) (rest : List UInt8) (h : shortEscape? b = some c) :
    escape (b :: rest) = .ok (c, rest) := by
  simp only [escape, h]

theorem hexQuad_append (bs rest : List UInt8) (n : Nat) (h : hexQuad bs = .ok (n, [])) :
    hexQuad (bs ++ rest) = .ok (n, rest) := by
  unfold hexQuad at h
  split at h
  · next a b c d more =>
    split at h
    · next w x y z hw hx hy hz =>
      obtain ⟨rfl, rfl⟩ := Prod.mk.inj (Except.ok.inj h)
      simp only [List.cons_append, List.nil_append, hexQuad, hw, hx, hy, hz]
    · cases h
  · cases h

theorem hexQuad_digits (n : Nat) (h : n < 0x20) :
    hexQuad (Utf8.encode (Ascii.digits 16 4 n)) = .ok (n, []) := by
  interval_cases n <;> rfl

theorem escape_control (c : Char) (h : c.toNat < 0x20) (rest : List UInt8) :
    escape (0x75 :: (Utf8.encode (Ascii.digits 16 4 c.toNat) ++ rest)) = .ok (c, rest) := by
  have hq := hexQuad_append _ rest _ (hexQuad_digits c.toNat h)
  have hs : shortEscape? 0x75 = none := rfl
  simp only [escape, hs, if_true]
  rw [unicodeEscape, bind_ok _ hq, if_neg (by omega), if_neg (by omega), pure_apply,
    Char.ofNat_toNat]

theorem repeatedly_escaped (c : Char) (acc rest : List UInt8) :
    repeatedly stringStep acc (Utf8.encode (Json.escape c) ++ rest) =
      repeatedly stringStep ((String.utf8EncodeChar c).reverse ++ acc) rest := by
  have short (b : UInt8) (d : Char) (h : shortEscape? b = some d) :
      repeatedly stringStep acc (0x5C :: b :: rest) =
        repeatedly stringStep ((String.utf8EncodeChar d).reverse ++ acc) rest :=
    repeatedly_go stringStep_advances
      (stringStep_escape acc _ rest d (escape_short b d rest h))
  unfold Json.escape
  split_ifs with h1 h2 h3 h4 h5 h6 h7 h8
  · subst h1
    exact short 0x22 '"' rfl
  · subst h2
    exact short 0x5C '\\' rfl
  · subst h3
    exact short 0x62 '\x08' rfl
  · subst h4
    exact short 0x74 '\t' rfl
  · subst h5
    exact short 0x6E '\n' rfl
  · subst h6
    exact short 0x66 '\x0c' rfl
  · subst h7
    exact short 0x72 '\r' rfl
  · exact repeatedly_go stringStep_advances
      (stringStep_escape acc _ rest c (escape_control c h8 rest))
  · rw [Utf8.encode_cons, Utf8.encode_nil, List.append_nil]
    exact repeatedly_plain _ acc rest (plain_char c (by omega) h1 h2)

theorem repeatedly_flatMap (cs : List Char) (acc rest : List UInt8) :
    repeatedly stringStep acc (Utf8.encode (cs.flatMap Json.escape) ++ rest) =
      repeatedly stringStep ((Utf8.encode cs).reverse ++ acc) rest := by
  induction cs generalizing acc with
  | nil => rfl
  | cons c cs ih =>
    rw [List.flatMap_cons, Utf8.encode_append, List.append_assoc, repeatedly_escaped, ih,
      Utf8.encode_cons]
    simp

theorem string_written (s : String) (rest : List UInt8) :
    string (Utf8.encode (s.toList.flatMap Json.escape) ++ 0x22 :: rest) = .ok (s, rest) := by
  have hr : repeatedly stringStep [] (Utf8.encode (s.toList.flatMap Json.escape) ++ 0x22 :: rest) =
      .ok (Utf8.bytes s, rest) := by
    rw [repeatedly_flatMap, List.append_nil]
    have hq : stringStep (Utf8.encode s.toList).reverse (0x22 :: rest) =
        .ok (.inr (Utf8.encode s.toList).reverse.reverse, rest) := rfl
    rw [repeatedly_done hq, List.reverse_reverse]
    rfl
  rw [string, bind_ok _ hr, Utf8.string_bytes]
  rfl

theorem encode_quote (s : String) (rest : List UInt8) :
    Utf8.encode (quote s) ++ rest =
      0x22 :: (Utf8.encode (s.toList.flatMap Json.escape) ++ 0x22 :: rest) := by
  have hq : String.utf8EncodeChar '"' = [0x22] := rfl
  simp [quote, hq]

end RestGateway.Json.Reader
