import RestGateway.Json.Reader

/-!
# Numbers in JSON text

The digits form a significand of 64 bits. Digits that no longer fit are dropped; those dropped
before the point count in the exponent. An integer that fits stays an integer, any other number is
the significand, rounded to a double, times or divided by a power of ten that is rounded to a double
itself, so the result need not be the nearest one.
-/

set_option autoImplicit false

namespace RestGateway.Json.Reader

/-- Appends digits to a significand while it fits in 64 bits, and counts those that were taken. -/
def gather (significand taken : Nat) : List UInt8 → Nat × Nat
  | [] => (significand, taken)
  | d :: ds =>
    let next := significand * 10 + (d.toNat - 0x30)
    if next < UInt64.size then gather next (taken + 1) ds else (significand, taken)

def powerOfTen (e : Nat) : Float := Float.ofScientific 1 false e

/-- `x * 10^e`; `none` for an infinite result. Beyond the last power of ten that is a double, the
value is first divided by it; after three such steps nothing is left of any significand. -/
def scale : Nat → Float → Int → Option Float
  | 0, x, _ => some x
  | fuel + 1, x, e =>
    if e.natAbs ≤ 308 then
      if 0 ≤ e then
        let y := x * powerOfTen e.natAbs
        if y.isInf then none else some y
      else some (x / powerOfTen e.natAbs)
    else if x == 0.0 then some x
    else if 0 ≤ e then none
    else scale fuel (x / powerOfTen 308) (e + 308)

def float (negative : Bool) (significand : Nat) (e : Int) : Reader Number :=
  match scale 4 (UInt64.ofNat significand).toFloat e with
  | some x => pure (.float (if negative then -x else x))
  | none => fail .numberTooLarge

def zero (negative : Bool) : Number := .float (if negative then -0.0 else 0.0)

/-- The digits of an exponent after the first one, `n` being their value so far. An exponent beyond
32 signed bits settles the number: it is zero, or too large. -/
def exponentDigits (negative : Bool) (significand : Nat) (start : Int) (down : Bool) :
    Nat → List UInt8 → Except Fault (Number × List UInt8)
  | n, [] => float negative significand (if down then start - n else start + n) []
  | n, b :: rest =>
    if isDigit b then
      let next := n * 10 + (b.toNat - 0x30)
      if next < 0x80000000 then exponentDigits negative significand start down next rest
      else if significand = 0 ∨ down then .ok (zero negative, rest.dropWhile isDigit)
      else .error ⟨.numberTooLarge, rest, false, 0⟩
    else float negative significand (if down then start - n else start + n) (b :: rest)

def exponentSign : List UInt8 → Bool × List UInt8
  | 0x2B :: rest => (false, rest)
  | 0x2D :: rest => (true, rest)
  | rest => (false, rest)

def exponent (negative : Bool) (significand : Nat) (start : Int) : Reader Number := fun bs =>
  let (down, rest) := exponentSign bs
  match rest with
  | [] => .error ⟨.endOfValue, [], false, 0⟩
  | b :: more =>
    if isDigit b then exponentDigits negative significand start down (b.toNat - 0x30) more
    else .error ⟨.invalidNumber, more, false, 0⟩

def isExponentMark (b : UInt8) : Bool := b == 0x65 || b == 0x45

def fraction (negative : Bool) (significand dropped : Nat) : Reader Number := fun bs =>
  let digits := bs.takeWhile isDigit
  let rest := bs.dropWhile isDigit
  if digits.isEmpty then
    .error ⟨if bs.isEmpty then .endOfValue else .invalidNumber, bs, true, 0⟩
  else
    let (s, taken) := gather significand 0 digits
    let e := (dropped : Int) - taken
    match rest with
    | b :: more => if isExponentMark b then exponent negative s e more else float negative s e rest
    | [] => float negative s e rest

/-- The integer `±n` where it has 64 bits with its sign; else, and for `-0`, a float. -/
def integer (negative : Bool) (n : Nat) : Number :=
  if negative then
    if n = 0 ∨ -(n : Int) < Word.least then .float (-(UInt64.ofNat n).toFloat) else .int (-n)
  else .int n

def afterInteger (negative : Bool) (significand dropped : Nat) : Reader Number := fun bs =>
  match bs with
  | [] =>
    if dropped = 0 then .ok (integer negative significand, [])
    else float negative significand dropped []
  | b :: rest =>
    if b = 0x2E then fraction negative significand dropped rest
    else if isExponentMark b then exponent negative significand dropped rest
    else if dropped = 0 then .ok (integer negative significand, b :: rest)
    else float negative significand dropped (b :: rest)

def number (negative : Bool) : Reader Number := fun bs =>
  match bs with
  | [] => .error ⟨.endOfValue, [], false, 0⟩
  | b :: rest =>
    if b = 0x30 then
      match rest with
      | c :: _ =>
        if isDigit c then .error ⟨.invalidNumber, rest, true, 0⟩ else afterInteger negative 0 0 rest
      | [] => afterInteger negative 0 0 rest
    else if isDigit b then
      let digits := bs.takeWhile isDigit
      let (s, taken) := gather 0 0 digits
      afterInteger negative s (digits.length - taken) (bs.dropWhile isDigit)
    else .error ⟨.invalidNumber, rest, false, 0⟩

def skipExponent : Reader Unit := fun bs =>
  match (exponentSign bs).2 with
  | [] => .error ⟨.invalidNumber, [], false, 0⟩
  | b :: more =>
    if isDigit b then .ok ((), more.dropWhile isDigit) else .error ⟨.invalidNumber, more, false, 0⟩

def skipAfterDigits : Reader Unit := fun bs =>
  match bs with
  | b :: rest => if isExponentMark b then skipExponent rest else .ok ((), bs)
  | [] => .ok ((), [])

def skipNumber : Reader Unit := fun bs =>
  match bs with
  | [] => .error ⟨.invalidNumber, [], false, 0⟩
  | b :: rest =>
    let digits := bs.takeWhile isDigit
    if digits.isEmpty then .error ⟨.invalidNumber, rest, false, 0⟩
    else if b = 0x30 ∧ digits.length ≠ 1 then .error ⟨.invalidNumber, rest, true, 0⟩
    else
      match bs.dropWhile isDigit with
      | 0x2E :: more =>
        if (more.takeWhile isDigit).isEmpty then .error ⟨.invalidNumber, more, true, 0⟩
        else skipAfterDigits (more.dropWhile isDigit)
      | more => skipAfterDigits more

end RestGateway.Json.Reader
