import RestGateway.Decimal.Shortest
import RestGateway.Word

/-!
# JSON values

Objects are kept as member lists. An object that was read has its members in ascending order of
their names (by code point, which is also the order of the UTF-8 bytes) and no name twice; `Members.ofPairs`
brings any list of pairs into that form. Objects that this program writes itself may list their
members in any order.
-/

set_option autoImplicit false

namespace RestGateway

inductive Number where
  | int (n : Int)
  | float (x : Float)

inductive Json where
  | null
  | bool (b : Bool)
  | number (n : Number)
  | string (s : String)
  | list (items : List Json)
  | object (members : List (String × Json))

abbrev Members := List (String × Json)

instance : Inhabited Json := ⟨.null⟩

/-- An integer and a float are never equal; floats compare as numbers, so `-0.0` equals `0.0`. -/
def Number.beq : Number → Number → Bool
  | .int a, .int b => a == b
  | .float a, .float b => a == b
  | _, _ => false

instance : BEq Number := ⟨Number.beq⟩

mutual

def Json.beq : Json → Json → Bool
  | .null, .null => true
  | .bool a, .bool b => a == b
  | .number a, .number b => a == b
  | .string a, .string b => a == b
  | .list a, .list b => Json.beqItems a b
  | .object a, .object b => Json.beqMembers a b
  | _, _ => false

def Json.beqItems : List Json → List Json → Bool
  | [], [] => true
  | a :: as, b :: bs => Json.beq a b && Json.beqItems as bs
  | _, _ => false

def Json.beqMembers : List (String × Json) → List (String × Json) → Bool
  | [], [] => true
  | (k, a) :: as, (l, b) :: bs => k == l && Json.beq a b && Json.beqMembers as bs
  | _, _ => false

end

instance : BEq Json := ⟨Json.beq⟩

namespace Members

def addMissing (name : String) (value : Json) : Members → Members
  | [] => [(name, value)]
  | (k, v) :: rest =>
    if name < k then (name, value) :: (k, v) :: rest
    else if name = k then (k, v) :: rest
    else (k, v) :: addMissing name value rest

/-- The members in ascending order of names; of pairs with one name the last one counts. -/
def ofPairs (pairs : List (String × Json)) : Members :=
  pairs.foldr (fun p ms => addMissing p.1 p.2 ms) []

@[simp] theorem ofPairs_nil : ofPairs [] = [] := rfl

@[simp] theorem ofPairs_cons (k : String) (v : Json) (ps : List (String × Json)) :
    ofPairs ((k, v) :: ps) = addMissing k v (ofPairs ps) := rfl

end Members

/-- The nearest multiple of `2^(bits - 53)`, ties to the even one: what is left of an integer of
`bits` binary digits in a double. -/
def Number.roundToDouble (n : Nat) : Nat :=
  let shift := n.log2 + 1 - 53
  let unit := Nat.pow 2 shift
  let q := n / unit
  let twice := 2 * (n % unit)
  if twice < unit ∨ (twice = unit ∧ q % 2 = 0) then q * unit else (q + 1) * unit

def Number.truncate (x : Float) : Int :=
  match Decimal.Binary64.ofFloat? x with
  | none => 0
  | some b =>
    let size : Nat := b.mantissa * Nat.pow 2 b.exponent.toNat / Nat.pow 2 (-b.exponent).toNat
    if b.negative then -(size : Int) else size

def Number.toWord : Number → Int
  | .int n => Word.clamp (n.sign * roundToDouble n.natAbs)
  | .float x => Word.clamp (truncate x)

end RestGateway
