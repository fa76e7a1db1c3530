import RestGateway.Proofs.Json.Strings

/-!
# The grammar of JSON text

Which bytes are a JSON value, and how many lists and objects it opens at once. No reader decides it,
only tables of single bytes are shared with them: a string may name half a surrogate pair and a
number may be of any size, and such text is well formed although nothing reads it.
-/

set_option autoImplicit false

namespace RestGateway.Json.Grammar
open Reader

def Digits (ds : List UInt8) : Prop := ds ≠ [] ∧ ∀ d ∈ ds, isDigit d = true

instance (ds : List UInt8) : Decidable (Digits ds) :=
  decidable_of_iff (ds ≠ [] ∧ ds.all isDigit = true) (by simp [Digits])

def Whole (ds : List UInt8) : Prop := Digits ds ∧ (ds.head? = some 0x30 → ds = [0x30])

instance (ds : List UInt8) : Decidable (Whole ds) := inferInstanceAs (Decidable (_ ∧ _))

inductive Exponent : List UInt8 → Prop where
  | none : Exponent []
  | some {mark : UInt8} {sign ds : List UInt8} :
      isExponentMark mark = true → sign ∈ [[], [0x2B], [0x2D]] → Digits ds →
      Exponent (mark :: (sign ++ ds))

inductive Tail : List UInt8 → Prop where
  | plain {e : List UInt8} : Exponent e → Tail e
  | point {ds e : List UInt8} : Digits ds → Exponent e → Tail (0x2E :: (ds ++ e))

inductive Numeral : List UInt8 → Prop where
  | mk {ds tail : List UInt8} : Whole ds → Tail tail → Numeral (ds ++ tail)

inductive Body : List UInt8 → Prop where
  | done : Body []
  | plain {b : UInt8} {t : List UInt8} : Plain b → Body t → Body (b :: t)
  | short {b : UInt8} {t : List UInt8} :
      (shortEscape? b).isSome = true → Body t → Body (0x5C :: b :: t)
  | unicode {a b c d : UInt8} {t : List UInt8} :
      (∀ x ∈ [a, b, c, d], (hexDigit? x).isSome = true) → Body t →
      Body (0x5C :: 0x75 :: a :: b :: c :: d :: t)

/-- A value, or what follows the opening bracket of a list or the opening brace of an object up to
its end. `initial` is before the first element. -/
inductive Kind where
  | value
  | items (initial : Bool)
  | members (initial : Bool)

inductive Comma : Bool → List UInt8 → Prop where
  | first {w : List UInt8} : Blanks w → Comma true w
  | later {w w' : List UInt8} : Blanks w → Blanks w' → Comma false (w ++ 0x2C :: w')

/-- A text that opens at most `n` lists and objects at once. -/
inductive Phrase : Kind → Nat → List UInt8 → Prop where
  | null {n : Nat} : Phrase .value n (0x6E :: restOfNull)
  | true {n : Nat} : Phrase .value n (0x74 :: restOfTrue)
  | false {n : Nat} : Phrase .value n (0x66 :: restOfFalse)
  | number {n : Nat} {t : List UInt8} : Numeral t → Phrase .value n t
  | negative {n : Nat} {t : List UInt8} : Numeral t → Phrase .value n (0x2D :: t)
  | string {n : Nat} {t : List UInt8} : Body t → Phrase .value n (0x22 :: (t ++ [0x22]))
  | list {n : Nat} {t : List UInt8} :
      Phrase (.items true) n t → Phrase .value (n + 1) (0x5B :: t)
  | object {n : Nat} {t : List UInt8} :
      Phrase (.members true) n t → Phrase .value (n + 1) (0x7B :: t)
  | listEnd {n : Nat} {initial : Bool} {w : List UInt8} :
      Blanks w → Phrase (.items initial) n (w ++ [0x5D])
  | item {n : Nat} {initial : Bool} {c v t : List UInt8} :
      Comma initial c → Phrase .value n v → Phrase (.items false) n t →
      Phrase (.items initial) n (c ++ (v ++ t))
  | objectEnd {n : Nat} {initial : Bool} {w : List UInt8} :
      Blanks w → Phrase (.members initial) n (w ++ [0x7D])
  | member {n : Nat} {initial : Bool} {c k w w' v t : List UInt8} :
      Comma initial c → Body k → Blanks w → Blanks w' → Phrase .value n v →
      Phrase (.members false) n t →
      Phrase (.members initial) n (c ++ 0x22 :: (k ++ 0x22 :: (w ++ 0x3A :: (w' ++ (v ++ t)))))

/-- One value that opens at most `n` lists and objects at once, with blanks around it. -/
def Text (n : Nat) (bs : List UInt8) : Prop :=
  ∃ w t w', bs = w ++ (t ++ w') ∧ Blanks w ∧ Phrase .value n t ∧ Blanks w'

theorem Phrase.mono {k : Kind} {m n : Nat} {t : List UInt8} (h : Phrase k m t) (hmn : m ≤ n) :
    Phrase k n t := by
  induction h generalizing n with
  | null => exact .null
  | true => exact .true
  | false => exact .false
  | number ht => exact .number ht
  | negative ht => exact .negative ht
  | string ht => exact .string ht
  | list _ ih =>
    obtain ⟨inner, rfl⟩ := Nat.exists_eq_add_of_le' (Nat.le_of_add_left_le hmn)
    exact .list (ih (by omega))
  | object _ ih =>
    obtain ⟨inner, rfl⟩ := Nat.exists_eq_add_of_le' (Nat.le_of_add_left_le hmn)
    exact .object (ih (by omega))
  | listEnd hw => exact .listEnd hw
  | item hc _ _ ihv iht => exact .item hc (ihv hmn) (iht hmn)
  | objectEnd hw => exact .objectEnd hw
  | member hc hk hw hw' _ _ ihv iht => exact .member hc hk hw hw' (ihv hmn) (iht hmn)

theorem numeral_digit {t : List UInt8} (h : Numeral t) :
    ∃ b more, t = b :: more ∧ isDigit b = true := by
  obtain ⟨hw, -⟩ := h
  next ds tail =>
    obtain ⟨b, bs, rfl⟩ := List.exists_cons_of_ne_nil hw.1.1
    exact ⟨b, bs ++ tail, rfl, hw.1.2 b (by simp)⟩

theorem digit_begins (b : UInt8) (h : isDigit b = true) : isBlank b = false ∧ b ≠ 0x5D :=
  ⟨digit_blank h, digit_ne h rfl⟩

theorem value_begins {n : Nat} {t : List UInt8} (h : Phrase .value n t) :
    ∃ b more, t = b :: more ∧ isBlank b = false ∧ b ≠ 0x5D := by
  cases h with
  | null => exact ⟨_, _, rfl, by decide, by decide⟩
  | true => exact ⟨_, _, rfl, by decide, by decide⟩
  | false => exact ⟨_, _, rfl, by decide, by decide⟩
  | number hn =>
    obtain ⟨b, more, rfl, hb⟩ := numeral_digit hn
    exact ⟨b, more, rfl, digit_begins b hb⟩
  | negative => exact ⟨_, _, rfl, by decide, by decide⟩
  | string => exact ⟨_, _, rfl, by decide, by decide⟩
  | list => exact ⟨_, _, rfl, by decide, by decide⟩
  | object => exact ⟨_, _, rfl, by decide, by decide⟩

end RestGateway.Json.Grammar
