import Mathlib.Data.List.Basic
import Mathlib.Tactic.Common
import Mathlib.Tactic.SplitIfs
import RestGateway.Proofs.Text.Utf8
import RestGateway.Url.Percent

/-!
# Percent encoding is done once

The characters that an encoding writes are in none of the sets, so what is encoded is left alone by
encoding it again. Where no percent sign stands nothing is decoded.
-/

set_option autoImplicit false

namespace RestGateway.Percent

/-- The set lets stand what encodings write. -/
def Keeps (set : Char → Bool) : Prop := set '%' = false ∧ ∀ n < 16, set (hexDigit n) = false

instance (set : Char → Bool) : Decidable (Keeps set) := inferInstanceAs (Decidable (_ ∧ _))

def Plain (set : Char → Bool) (cs : List Char) : Prop := ∀ c ∈ cs, set c = false

variable {set : Char → Bool} {cs : List Char} {c : Char}

theorem encode_cons (set : Char → Bool) (c : Char) (cs : List Char) :
    encode set (c :: cs) = encodeChar set c ++ encode set cs := rfl

theorem encodeChar_plain (h : set c = false) : encodeChar set c = [c] := by
  simp [encodeChar, h]

theorem encode_plain (h : Plain set cs) : encode set cs = cs := by
  induction cs with
  | nil => rfl
  | cons c cs ih =>
    obtain ⟨hc, hcs⟩ := List.forall_mem_cons.mp h
    rw [encode_cons, encodeChar_plain hc, ih hcs]
    rfl

theorem mem_encodeByte {b : UInt8} (h : c ∈ encodeByte b) : c = '%' ∨ ∃ n < 16, c = hexDigit n := by
  have hb := b.toNat_lt
  simp only [encodeByte, List.mem_cons, List.not_mem_nil, or_false] at h
  rcases h with rfl | rfl | rfl
  · exact .inl rfl
  · exact .inr ⟨_, by omega, rfl⟩
  · exact .inr ⟨_, by omega, rfl⟩

theorem mem_encode (h : c ∈ encode set cs) :
    (c ∈ cs ∧ set c = false) ∨ c = '%' ∨ ∃ n < 16, c = hexDigit n := by
  obtain ⟨d, hd, h⟩ := List.mem_flatMap.mp h
  unfold encodeChar at h
  split_ifs at h with hset
  · obtain ⟨b, -, hb⟩ := List.mem_flatMap.mp h
    exact .inr (mem_encodeByte hb)
  · obtain rfl := List.mem_singleton.mp h
    exact .inl ⟨hd, Bool.eq_false_iff.mpr hset⟩

theorem plain_encode (hset : Keeps set) (cs : List Char) : Plain set (encode set cs) := by
  intro c hc
  rcases mem_encode hc with ⟨-, h⟩ | rfl | ⟨n, hn, rfl⟩
  · exact h
  · exact hset.1
  · exact hset.2 n hn

theorem decode_plain {bs : List UInt8} (h : 0x25 ∉ bs) : decode bs = bs := by
  fun_induction decode bs with
  | case1 => rfl
  | case2 => simp at h
  | case3 => simp at h
  | case4 x a b more _ ih =>
    rw [ih (fun hm => h (List.mem_cons_of_mem _ hm))]
  | case5 x rest _ ih =>
    rw [ih (fun hm => h (List.mem_cons_of_mem _ hm))]

theorem percent_not_mem {cs : List Char} (h : '%' ∉ cs) : 0x25 ∉ Utf8.encode cs := by
  intro hm
  obtain ⟨c, hc, hb⟩ := List.mem_flatMap.mp hm
  rcases Utf8.byte_of_char hb with hnat | hhigh
  · have hchar : c = '%' := Char.toNat_inj.mp hnat.symm
    exact h (hchar ▸ hc)
  · exact absurd hhigh (by decide)

end RestGateway.Percent
