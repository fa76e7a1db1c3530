import Mathlib.Tactic.Common
import RestGateway.Text.Utf8

/-!
# Characters survive their bytes

What is encoded is read back: the bytes of a character bring the reading from between two characters
to between two characters, with this character as the only new piece.
-/

set_option autoImplicit false

namespace RestGateway.Utf8

theorem toNat_ofNat (n : Nat) (h : n < 256) : (UInt8.ofNat n).toNat = n := by
  rw [UInt8.toNat_ofNat']
  exact Nat.mod_eq_of_lt h

theorem lead_one (n : Nat) (h : n < 0x80) : lead (UInt8.ofNat n) = .whole (Char.ofNat n) := by
  simp only [lead, toNat_ofNat n (by omega), if_pos h]

theorem lead_two (n : Nat) (h : 2 ≤ n) (h' : n < 0x20) :
    lead (UInt8.ofNat (n + 0xC0)) = .begins ⟨n, 0x80, 0xBF, 0⟩ := by
  simp only [lead, toNat_ofNat (n + 0xC0) (by omega)]
  rw [if_neg (by omega), if_neg (by omega), if_pos (by omega), Nat.add_sub_cancel]

theorem lead_three (n : Nat) (h : n < 0x10) :
    lead (UInt8.ofNat (n + 0xE0)) =
      .begins ⟨n, if n = 0 then 0xA0 else 0x80, if n = 13 then 0x9F else 0xBF, 1⟩ := by
  simp only [lead, toNat_ofNat (n + 0xE0) (by omega)]
  rw [if_neg (by omega), if_neg (by omega), if_neg (by omega), if_pos (by omega),
    Nat.add_sub_cancel]
  simp only [show n + 0xE0 = 0xE0 ↔ n = 0 by omega, show n + 0xE0 = 0xED ↔ n = 13 by omega]

theorem lead_four (n : Nat) (h : n < 5) :
    lead (UInt8.ofNat (n + 0xF0)) =
      .begins ⟨n, if n = 0 then 0x90 else 0x80, if n = 4 then 0x8F else 0xBF, 2⟩ := by
  simp only [lead, toNat_ofNat (n + 0xF0) (by omega)]
  rw [if_neg (by omega), if_neg (by omega), if_neg (by omega), if_neg (by omega),
    if_pos (by omega), Nat.add_sub_cancel]
  simp only [show n + 0xF0 = 0xF0 ↔ n = 0 by omega, show n + 0xF0 = 0xF4 ↔ n = 4 by omega]

theorem feed_lead (done : List Piece) (b : UInt8) (p : Begun) (h : lead b = .begins p) :
    Reading.feed ⟨none, done⟩ b = ⟨some p, done⟩ := by
  simp only [Reading.feed, Reading.between, h]

theorem feed_more (v low high more k : Nat) (done : List Piece) (hk : k < 0x40)
    (hl : low ≤ k + 0x80) (hh : k + 0x80 ≤ high) :
    Reading.feed ⟨some ⟨v, low, high, more + 1⟩, done⟩ (UInt8.ofNat (k + 0x80)) =
      ⟨some ⟨v * 64 + k, 0x80, 0xBF, more⟩, done⟩ := by
  simp only [Reading.feed, toNat_ofNat (k + 0x80) (by omega)]
  rw [if_pos ⟨hl, hh⟩, Nat.add_sub_cancel]

theorem feed_last (v low high k : Nat) (done : List Piece) (hk : k < 0x40)
    (hl : low ≤ k + 0x80) (hh : k + 0x80 ≤ high) :
    Reading.feed ⟨some ⟨v, low, high, 0⟩, done⟩ (UInt8.ofNat (k + 0x80)) =
      ⟨none, some (Char.ofNat (v * 64 + k)) :: done⟩ := by
  simp only [Reading.feed, toNat_ofNat (k + 0x80) (by omega)]
  rw [if_pos ⟨hl, hh⟩, Nat.add_sub_cancel]

theorem char_valid (c : Char) :
    c.val.toNat < 0xD800 ∨ (0xDFFF < c.val.toNat ∧ c.val.toNat < 0x110000) := c.valid

theorem high_byte {k m : Nat} (hm : 0x80 ≤ m) (h : k + m < 256) :
    0x80 ≤ (UInt8.ofNat (k + m)).toNat := by
  rw [toNat_ofNat _ h]
  omega

theorem byte_of_char {c : Char} {b : UInt8} (h : b ∈ String.utf8EncodeChar c) :
    b.toNat = c.toNat ∨ 0x80 ≤ b.toNat := by
  have hc : c.toNat = c.val.toNat := rfl
  rw [hc]
  unfold String.utf8EncodeChar at h
  generalize c.val.toNat = v at h ⊢
  dsimp only at h
  split_ifs at h with h1 h2 h3 <;> simp only [List.mem_cons, List.not_mem_nil, or_false] at h
  · rw [h, toNat_ofNat v (by omega)]
    exact .inl rfl
  · rcases h with rfl | rfl
    all_goals exact .inr (high_byte (by decide) (by omega))
  · rcases h with rfl | rfl | rfl
    all_goals exact .inr (high_byte (by decide) (by omega))
  · rcases h with rfl | rfl | rfl | rfl
    all_goals exact .inr (high_byte (by decide) (by omega))

theorem feed_char (c : Char) (done : List Piece) :
    (String.utf8EncodeChar c).foldl Reading.feed ⟨none, done⟩ = ⟨none, some c :: done⟩ := by
  have hv := char_valid c
  have hc : Char.ofNat c.val.toNat = c := Char.ofNat_toNat c
  unfold String.utf8EncodeChar
  generalize c.val.toNat = v at hv hc
  dsimp only
  split_ifs with h1 h2 h3
  · simp only [List.foldl_cons, List.foldl_nil, Reading.feed, Reading.between,
      lead_one v (by omega), hc]
  · simp only [List.foldl_cons, List.foldl_nil]
    rw [feed_lead _ _ _ (lead_two (v / 64 % 0x20) (by omega) (by omega)),
      feed_last _ _ _ _ _ (by omega) (by omega) (by omega)]
    rw [show v / 64 % 0x20 * 64 + v % 0x40 = v by omega, hc]
  · simp only [List.foldl_cons, List.foldl_nil]
    rw [feed_lead _ _ _ (lead_three (v / 4096 % 0x10) (by omega)),
      feed_more _ _ _ _ _ _ (by omega) (by split_ifs <;> omega) (by split_ifs <;> omega),
      feed_last _ _ _ _ _ (by omega) (by omega) (by omega)]
    rw [show (v / 4096 % 0x10 * 64 + v / 64 % 0x40) * 64 + v % 0x40 = v by omega, hc]
  · simp only [List.foldl_cons, List.foldl_nil]
    rw [feed_lead _ _ _ (lead_four (v / 262144 % 0x08) (by omega)),
      feed_more _ _ _ _ _ _ (by omega) (by split_ifs <;> omega) (by split_ifs <;> omega),
      feed_more _ _ _ _ _ _ (by omega) (by omega) (by omega),
      feed_last _ _ _ _ _ (by omega) (by omega) (by omega)]
    rw [show ((v / 262144 % 0x08 * 64 + v / 4096 % 0x40) * 64 + v / 64 % 0x40) * 64 + v % 0x40 = v
      by omega, hc]

theorem feed_encode (cs : List Char) (done : List Piece) :
    (encode cs).foldl Reading.feed ⟨none, done⟩ = ⟨none, (cs.map some).reverse ++ done⟩ := by
  induction cs generalizing done with
  | nil => rfl
  | cons c cs ih =>
    rw [encode_cons, List.foldl_append, feed_char, ih]
    simp

theorem pieces_encode (cs : List Char) : pieces (encode cs) = cs.map some := by
  rw [pieces, feed_encode, Reading.finish]
  simp

theorem decode_encode (cs : List Char) : decode? (encode cs) = some cs := by
  rw [decode?, pieces_encode]
  simp

theorem string_bytes (s : String) : string? (bytes s) = some s := by
  rw [string?, bytes, decode_encode, Option.map_some, String.ofList_toList]

theorem lossy_bytes (s : String) : lossy (bytes s) = s := by
  rw [lossy, bytes, pieces_encode, List.map_map]
  simp [Function.comp_def]

theorem bytes_inj {s t : String} (h : bytes s = bytes t) : s = t := by
  have hs := string_bytes s
  rw [h, string_bytes] at hs
  exact (Option.some.inj hs).symm

end RestGateway.Utf8
