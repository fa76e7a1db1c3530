import Mathlib.Tactic.Common
import Mathlib.Tactic.SplitIfs
import RestGateway.Proofs.Attempts
import RestGateway.Proofs.Text.Utf8
import RestGateway.Text.Base64

/-!
# Base64 has one text for each list of bytes

What is decoded are the encodings and nothing else: foreign symbols, missing or surplus padding and
unused bits that are not zero are refused. The three bytes of a group and its four values are two
ways to write one number of 24 bits.
-/

set_option autoImplicit false

namespace RestGateway.Base64

theorem value_symbol : ∀ n < 64, value? (symbol n) = some n := by decide

theorem symbol_ne_pad : ∀ n < 64, symbol n ≠ pad := by decide

theorem value_some {b : UInt8} {n : Nat} (h : value? b = some n) : n < 64 ∧ symbol n = b := by
  have hb : UInt8.ofNat b.toNat = b := UInt8.ofNat_toNat
  unfold value? at h
  dsimp only at h
  unfold symbol
  split_ifs at h <;> cases h
  · rw [if_pos (by omega), show 0x41 + (b.toNat - 0x41) = b.toNat by omega]
    exact ⟨by omega, hb⟩
  · rw [if_neg (by omega), if_pos (by omega),
      show 0x61 + (b.toNat - 0x61 + 26 - 26) = b.toNat by omega]
    exact ⟨by omega, hb⟩
  · rw [if_neg (by omega), if_neg (by omega), if_pos (by omega),
      show 0x30 + (b.toNat - 0x30 + 52 - 52) = b.toNat by omega]
    exact ⟨by omega, hb⟩
  · next h2B =>
    rw [h2B] at hb
    exact ⟨by decide, hb⟩
  · next h2F =>
    rw [h2F] at hb
    exact ⟨by decide, hb⟩

theorem valueAt_ok {b : UInt8} {offset n : Nat} :
    valueAt b offset = .ok n ↔ n < 64 ∧ b = symbol n := by
  constructor
  · intro h
    unfold valueAt at h
    split at h
    · next hv =>
      cases h
      obtain ⟨hn, hs⟩ := value_some hv
      exact ⟨hn, hs.symm⟩
    · cases h
  · rintro ⟨hn, rfl⟩
    rw [valueAt, value_symbol n hn]

theorem encode_three (a b c : UInt8) (rest : List UInt8) :
    ∃ w x y z, w < 64 ∧ x < 64 ∧ y < 64 ∧ z < 64 ∧
      encode (a :: b :: c :: rest) =
        symbol w :: symbol x :: symbol y :: symbol z :: encode rest ∧
      ((w * 64 + x) * 64 + y) * 64 + z = (a.toNat * 256 + b.toNat) * 256 + c.toNat := by
  have ha := a.toNat_lt
  have hb := b.toNat_lt
  have hc := c.toNat_lt
  refine ⟨_, _, _, _, ?_, ?_, ?_, ?_, rfl, ?_⟩ <;> omega

def bytesOf (n : Nat) : List UInt8 := [UInt8.ofNat (n / 65536), UInt8.ofNat (n / 256), UInt8.ofNat n]

theorem bytesOf_bytes (a b c : UInt8) :
    bytesOf ((a.toNat * 256 + b.toNat) * 256 + c.toNat) = [a, b, c] := by
  have ha := a.toNat_lt
  have hb := b.toNat_lt
  have hc := c.toNat_lt
  simp only [bytesOf, List.cons.injEq, and_true]
  refine ⟨?_, ?_, ?_⟩ <;> apply UInt8.toNat_inj.mp <;> rw [UInt8.toNat_ofNat'] <;> omega

theorem encode_bytesOf {w x y z : Nat} (hw : w < 64) (hx : x < 64) (hy : y < 64) (hz : z < 64)
    (rest : List UInt8) :
    encode (bytesOf (((w * 64 + x) * 64 + y) * 64 + z) ++ rest) =
      symbol w :: symbol x :: symbol y :: symbol z :: encode rest := by
  obtain ⟨n, hn⟩ : ∃ n, n = ((w * 64 + x) * 64 + y) * 64 + z := ⟨_, rfl⟩
  have hbytes : ((UInt8.ofNat (n / 65536)).toNat * 256 + (UInt8.ofNat (n / 256)).toNat) * 256 +
      (UInt8.ofNat n).toNat = n := by
    simp only [UInt8.toNat_ofNat']
    omega
  rw [← hn]
  simp only [bytesOf, List.cons_append, List.nil_append, encode, hbytes]
  rw [show n / 262144 = w by omega, show n / 4096 % 64 = x by omega,
    show n / 64 % 64 = y by omega, show n % 64 = z by omega]

theorem encode_two (a b : UInt8) :
    ∃ x y z, x < 64 ∧ y < 64 ∧ z < 64 ∧ encode [a, b] = [symbol x, symbol y, symbol z, pad] ∧
      z % 4 = 0 ∧ (x * 64 + y) * 16 + z / 4 = a.toNat * 256 + b.toNat := by
  have ha := a.toNat_lt
  have hb := b.toNat_lt
  refine ⟨_, _, _, ?_, ?_, ?_, rfl, ?_, ?_⟩ <;> omega

theorem encode_one (a : UInt8) :
    ∃ x y, x < 64 ∧ y < 64 ∧ encode [a] = [symbol x, symbol y, pad, pad] ∧
      y % 16 = 0 ∧ x * 4 + y / 16 = a.toNat := by
  have ha := a.toNat_lt
  refine ⟨_, _, ?_, ?_, rfl, ?_, ?_⟩ <;> omega

theorem encode_ofTwo {x y z : Nat} (hx : x < 64) (hy : y < 64) (hz : z < 64) (h : z % 4 = 0) :
    encode [UInt8.ofNat (((x * 64 + y) * 16 + z / 4) / 256),
      UInt8.ofNat ((x * 64 + y) * 16 + z / 4)] = [symbol x, symbol y, symbol z, pad] := by
  obtain ⟨n, hn⟩ : ∃ n, n = (x * 64 + y) * 16 + z / 4 := ⟨_, rfl⟩
  have hbytes : (UInt8.ofNat (n / 256)).toNat * 256 + (UInt8.ofNat n).toNat = n := by
    simp only [UInt8.toNat_ofNat']
    omega
  rw [← hn]
  simp only [encode, hbytes]
  rw [show n * 4 / 4096 = x by omega, show n * 4 / 64 % 64 = y by omega,
    show n * 4 % 64 = z by omega]

theorem encode_ofOne {x y : Nat} (hx : x < 64) (hy : y < 64) (h : y % 16 = 0) :
    encode [UInt8.ofNat (x * 4 + y / 16)] = [symbol x, symbol y, pad, pad] := by
  obtain ⟨n, hn⟩ : ∃ n, n = x * 4 + y / 16 := ⟨_, rfl⟩
  have hbytes : (UInt8.ofNat n).toNat = n := Utf8.toNat_ofNat n (by omega)
  rw [← hn]
  simp only [encode, hbytes]
  rw [show n * 16 / 64 = x by omega, show n * 16 % 64 = y by omega]

theorem byte_pair (a b : UInt8) : UInt8.ofNat ((a.toNat * 256 + b.toNat) / 256) = a ∧
    UInt8.ofNat (a.toNat * 256 + b.toNat) = b := by
  have ha := a.toNat_lt
  have hb := b.toNat_lt
  constructor <;> apply UInt8.toNat_inj.mp <;> rw [UInt8.toNat_ofNat'] <;> omega

theorem readTail_symbol (start : Nat) (values : List Nat) (last : UInt8) {n : Nat} (hn : n < 64)
    (rest : List UInt8) :
    readTail start ⟨values, last, 0⟩ (symbol n :: rest) =
      readTail start ⟨n :: values, symbol n, 0⟩ rest := by
  rw [readTail, if_neg (symbol_ne_pad n hn), if_neg (by simp), valueAt_ok.mpr ⟨hn, rfl⟩]

theorem readTail_pad (start : Nat) (t : Tail) (h : 2 ≤ t.values.length + t.padding)
    (rest : List UInt8) :
    readTail start t (pad :: rest) = readTail start { t with padding := t.padding + 1 } rest := by
  rw [readTail, if_pos rfl, if_neg (by omega)]

theorem readTail_ok {start : Nat} {t u : Tail} {text : List UInt8}
    (h : readTail start t text = .ok u) :
    ∃ vs k, (∀ v ∈ vs, v < 64) ∧ text = vs.map symbol ++ List.replicate k pad ∧
      u.values = vs.reverse ++ t.values ∧ u.padding = t.padding + k ∧
        (t.padding ≠ 0 → vs = []) := by
  induction text generalizing t with
  | nil =>
    cases h
    exact ⟨[], 0, List.forall_mem_nil _, rfl, rfl, rfl, fun _ => rfl⟩
  | cons b text ih =>
    rw [readTail] at h
    split_ifs at h with hb hplace hp
    · obtain ⟨vs, k, -, ht, hv, hk, hnil⟩ := ih h
      obtain rfl : vs = [] := hnil (Nat.succ_ne_zero _)
      refine ⟨[], k + 1, List.forall_mem_nil _, ?_, hv, ?_, fun _ => rfl⟩
      · rw [hb, ht]
        rfl
      · rw [hk]
        dsimp only
        omega
    · split at h
      · cases h
      · next n hn =>
        obtain ⟨hlt, rfl⟩ := valueAt_ok.mp hn
        obtain ⟨vs, k, hvs, ht, hv, hk, -⟩ := ih h
        refine ⟨n :: vs, k, List.forall_mem_cons.mpr ⟨hlt, hvs⟩, ?_, ?_, ?_, fun hne => ?_⟩
        · rw [ht]
          rfl
        · rw [hv]
          simp
        · rw [hk]
          dsimp only
          omega
        · exact absurd hne (by omega)

theorem decodeTail_ok {start : Nat} {text bs : List UInt8} (hl : text.length ≤ 4)
    (h : decodeTail start text = .ok bs) : text = encode bs := by
  unfold decodeTail at h
  cases hr : readTail start ⟨[], pad, 0⟩ text with
  | error f =>
    rw [hr] at h
    cases h
  | ok u =>
    obtain ⟨vs, k, hvs, rfl, hv, hk, -⟩ := readTail_ok hr
    obtain ⟨values, last, padding⟩ := u
    simp only [List.append_nil, Nat.zero_add] at hv hk
    subst hv hk
    rw [hr] at h
    simp only [bind, Except.bind, List.reverse_reverse, List.length_reverse] at h
    simp only [List.length_append, List.length_map, List.length_replicate] at hl
    split_ifs at h with he h2 h4
    · cases h
      exact List.isEmpty_iff.mp he
    · have hfour : vs.length + padding = 4 := by omega
      match vs, hvs with
      | [], _ => exact absurd Nat.zero_lt_two h2
      | [_], _ => exact absurd Nat.one_lt_two h2
      | [a, b], hvs =>
        obtain rfl : padding = 2 := Nat.add_left_cancel hfour
        obtain ⟨ha, hb⟩ : a < 64 ∧ b < 64 := by simpa using hvs
        dsimp only at h
        split_ifs at h with hz
        cases h
        exact (encode_ofOne ha hb hz).symm
      | [a, b, c], hvs =>
        obtain rfl : padding = 1 := Nat.add_left_cancel hfour
        obtain ⟨ha, hb, hc⟩ : a < 64 ∧ b < 64 ∧ c < 64 := by simpa using hvs
        dsimp only at h
        split_ifs at h with hz
        cases h
        exact (encode_ofTwo ha hb hc hz).symm
      | [a, b, c, d], hvs =>
        obtain rfl : padding = 0 := Nat.add_left_cancel hfour
        obtain ⟨ha, hb, hc, hd⟩ : a < 64 ∧ b < 64 ∧ c < 64 ∧ d < 64 := by simpa using hvs
        cases h
        exact (encode_bytesOf ha hb hc hd []).symm
      | _ :: _ :: _ :: _ :: _ :: _, _ =>
        simp only [List.length_cons] at hfour
        omega

theorem decodeTail_encode (start : Nat) (bs : List UInt8) (h : bs.length ≤ 3) :
    decodeTail start (encode bs) = .ok bs := by
  match bs, h with
  | [], _ => rfl
  | [a], _ =>
    obtain ⟨x, y, hx, hy, he, hz, hn⟩ := encode_one a
    have hr : readTail start ⟨[], pad, 0⟩ [symbol x, symbol y, pad, pad] =
        .ok ⟨[y, x], symbol y, 2⟩ := by
      rw [readTail_symbol _ _ _ hx, readTail_symbol _ _ _ hy, readTail_pad _ _ (by simp),
        readTail_pad _ _ (by simp), readTail]
    rw [he, decodeTail, hr]
    simp [hz, hn, -UInt8.ofNat_add]
  | [a, b], _ =>
    obtain ⟨x, y, z, hx, hy, hz, he, h0, hn⟩ := encode_two a b
    have hr : readTail start ⟨[], pad, 0⟩ [symbol x, symbol y, symbol z, pad] =
        .ok ⟨[z, y, x], symbol z, 1⟩ := by
      rw [readTail_symbol _ _ _ hx, readTail_symbol _ _ _ hy, readTail_symbol _ _ _ hz,
        readTail_pad _ _ (by simp), readTail]
    rw [he, decodeTail, hr]
    obtain ⟨ha, hb⟩ := byte_pair a b
    simp [h0, hn, ha, hb, -UInt8.ofNat_add]
  | [a, b, c], _ =>
    obtain ⟨w, x, y, z, hw, hx, hy, hz, he, hn⟩ := encode_three a b c []
    have hr : readTail start ⟨[], pad, 0⟩ [symbol w, symbol x, symbol y, symbol z] =
        .ok ⟨[z, y, x, w], symbol z, 0⟩ := by
      rw [readTail_symbol _ _ _ hw, readTail_symbol _ _ _ hx, readTail_symbol _ _ _ hy,
        readTail_symbol _ _ _ hz, readTail]
    have hb := bytesOf_bytes a b c
    rw [← hn, bytesOf] at hb
    rw [he, encode, decodeTail, hr]
    simp [hb, -UInt8.ofNat_add]

theorem encode_ne_nil {bs : List UInt8} (h : bs ≠ []) : encode bs ≠ [] := by
  match bs, h with
  | [_], _ => simp [encode]
  | [_, _], _ => simp [encode]
  | _ :: _ :: _ :: _, _ => simp [encode]

theorem encode_length (bs : List UInt8) : (encode bs).length % 4 = 0 := by
  fun_induction encode bs with
  | case1 a b c rest n ih =>
    simp only [List.length_cons]
    omega
  | case2 => simp
  | case3 => simp
  | case4 => simp

theorem decodeFrom_group {start w x y z : Nat} (hw : w < 64) (hx : x < 64) (hy : y < 64)
    (hz : z < 64) {rest bs : List UInt8} (hr : rest ≠ [])
    (h : decodeFrom (start + 4) rest = .ok bs) :
    decodeFrom start (symbol w :: symbol x :: symbol y :: symbol z :: rest) =
      .ok (bytesOf (((w * 64 + x) * 64 + y) * 64 + z) ++ bs) := by
  obtain ⟨e, rest, rfl⟩ := List.exists_cons_of_ne_nil hr
  rw [decodeFrom, valueAt_ok.mpr ⟨hw, rfl⟩, valueAt_ok.mpr ⟨hx, rfl⟩, valueAt_ok.mpr ⟨hy, rfl⟩,
    valueAt_ok.mpr ⟨hz, rfl⟩, h]
  rfl

theorem decodeFrom_encode (start : Nat) (bs : List UInt8) :
    decodeFrom start (encode bs) = .ok bs := by
  induction bs using encode.induct generalizing start with
  | case1 a b c rest ih =>
    obtain ⟨w, x, y, z, hw, hx, hy, hz, he, hn⟩ := encode_three a b c rest
    by_cases hr : rest = []
    · subst hr
      rw [← decodeTail_encode start [a, b, c] (by simp), he, encode, decodeFrom]
      simp
    · rw [he, decodeFrom_group hw hx hy hz (encode_ne_nil hr) (ih (start + 4)), hn, bytesOf_bytes]
      rfl
  | case2 a b => exact decodeTail_encode start [a, b] (by simp)
  | case3 a => exact decodeTail_encode start [a] (by simp)
  | case4 => exact decodeTail_encode start [] (by simp)

theorem decodeFrom_ok {start : Nat} {text bs : List UInt8} (h : decodeFrom start text = .ok bs) :
    text = encode bs := by
  fun_induction decodeFrom start text generalizing bs with
  | case1 start a b c d e rest ih =>
    obtain ⟨w, haw, hafter⟩ := bind_ok_iff.mp h
    obtain ⟨x, hax, hafter⟩ := bind_ok_iff.mp hafter
    obtain ⟨y, hay, hafter⟩ := bind_ok_iff.mp hafter
    obtain ⟨z, haz, hafter⟩ := bind_ok_iff.mp hafter
    obtain ⟨more, hm, hafter⟩ := bind_ok_iff.mp hafter
    cases hafter
    obtain ⟨hw, rfl⟩ := valueAt_ok.mp haw
    obtain ⟨hx, rfl⟩ := valueAt_ok.mp hax
    obtain ⟨hy, rfl⟩ := valueAt_ok.mp hay
    obtain ⟨hz, rfl⟩ := valueAt_ok.mp haz
    rw [ih hm]
    exact (encode_bytesOf hw hx hy hz more).symm
  | case2 start text hshort =>
    apply decodeTail_ok _ h
    match text with
    | [] => simp
    | [_] => simp
    | [_, _] => simp
    | [_, _, _] => simp
    | [_, _, _, _] => simp
    | a :: b :: c :: d :: e :: rest => exact absurd rfl (hshort a b c d e rest)

/-- A text is decoded exactly if it is the encoding of some bytes, and gives these bytes. -/
theorem decode_iff {text bs : List UInt8} : decode text = .ok bs ↔ text = encode bs := by
  unfold decode
  cases hl : text.getLast? with
  | none =>
    obtain rfl := List.getLast?_eq_none_iff.mp hl
    constructor
    · rintro ⟨⟩
      rfl
    · intro h
      by_contra hbs
      exact encode_ne_nil (fun hnil => hbs (by rw [hnil])) h.symm
  | some b =>
    constructor
    · intro h
      dsimp only at h
      split_ifs at h
      exact decodeFrom_ok h
    · rintro rfl
      have hlen := encode_length bs
      dsimp only
      rw [if_neg (by omega)]
      exact decodeFrom_encode 0 bs

theorem encode_injective {a b : List UInt8} (h : encode a = encode b) : a = b := by
  have ha := decode_iff.mpr (Eq.refl (encode a))
  rw [h, decode_iff.mpr rfl] at ha
  exact (Except.ok.inj ha).symm

end RestGateway.Base64
