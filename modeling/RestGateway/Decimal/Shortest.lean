/-!
# Shortest decimals

The fewest decimal digits that read back as a given binary fraction. A finite positive double is
`m * 2^q`; all reals between the midpoints to its two neighbours read back as it, the midpoints
included when `m` is even. For one digit, two digits and so on the two points of that decimal grid
around the value are tried; the first grid with a hit gives the digits, of two hits the nearer one.
-/

set_option autoImplicit false

namespace RestGateway.Decimal

structure Scientific where
  digits : Nat
  exponent : Int
  deriving DecidableEq, Repr

/-- A positive value with the bounds of what reads back as it, all as multiples of `1 / unit`. -/
structure Interval where
  value : Nat
  below : Nat
  above : Nat
  closed : Bool
  unit : Nat

/-- The least mantissa of a double that is not subnormal. -/
def leastNormal : Nat := 0x10000000000000

/-- The interval of `m * 2^q`. The gap below is half as wide when `m` is the least mantissa of its
exponent and smaller doubles have a finer spacing. -/
def Interval.ofBinary (m : Nat) (q : Int) : Interval :=
  let gap := if m = leastNormal ∧ q ≠ -1074 then 1 else 2
  let up := Nat.pow 2 (q - 2).toNat
  { value := 4 * m * up
    below := (4 * m - gap) * up
    above := (4 * m + 2) * up
    closed := m % 2 == 0
    unit := Nat.pow 2 (2 - q).toNat }

def Interval.holds (i : Interval) (num den : Nat) : Bool :=
  let low := i.below * den
  let high := i.above * den
  let x := num * i.unit
  if i.closed then low ≤ x && x ≤ high else low < x && x < high

def negativeMagnitude (unit : Nat) : Nat → Nat → Int → Int
  | 0, _, k => k
  | fuel + 1, value, k =>
    if unit ≤ value then k else negativeMagnitude unit fuel (value * 10) (k - 1)

def Interval.magnitude (i : Interval) : Int :=
  if i.unit ≤ i.value then ((Nat.toDigits 10 (i.value / i.unit)).length : Int) - 1
  else negativeMagnitude i.unit 400 i.value 0

def Interval.onGrid (i : Interval) (e : Int) : Option Scientific :=
  let up := Nat.pow 10 e.toNat
  let down := Nat.pow 10 (-e).toNat
  let lower := i.value * down / (i.unit * up)
  let hit (d : Nat) : Bool := i.holds (d * up) down
  let twice := 2 * (i.value * down)
  let middle := (2 * lower + 1) * (i.unit * up)
  match hit lower && lower != 0, hit (lower + 1) with
  | true, true =>
    if twice < middle ∨ (twice = middle ∧ lower % 2 = 0) then some ⟨lower, e⟩
    else some ⟨lower + 1, e⟩
  | true, false => some ⟨lower, e⟩
  | false, true => some ⟨lower + 1, e⟩
  | false, false => none

/-- Seventeen digits always suffice, so the last line is never reached. -/
def Interval.search (i : Interval) (k : Int) : Nat → Int → Scientific
  | 0, _ => ⟨i.value / i.unit, 0⟩
  | fuel + 1, n => (i.onGrid (k - n)).getD (i.search k fuel (n + 1))

def Scientific.stripped (s : Scientific) : Nat → Scientific
  | 0 => s
  | fuel + 1 =>
    if s.digits % 10 = 0 ∧ s.digits ≠ 0 then
      Scientific.stripped ⟨s.digits / 10, s.exponent + 1⟩ fuel
    else s

def shortest (m : Nat) (q : Int) : Scientific :=
  let i := Interval.ofBinary m q
  (i.search i.magnitude 18 0).stripped 20

structure Binary64 where
  negative : Bool
  mantissa : Nat
  exponent : Int

def Binary64.ofFloat? (x : Float) : Option Binary64 :=
  let bits := x.toBits.toNat
  let negative := bits.testBit 63
  let field : Nat := bits / leastNormal % 2048
  let fraction : Nat := bits % leastNormal
  if field = 2047 then none
  else if field = 0 then some ⟨negative, fraction, -1074⟩
  else some ⟨negative, fraction + leastNormal, (field : Int) - 1075⟩

end RestGateway.Decimal
