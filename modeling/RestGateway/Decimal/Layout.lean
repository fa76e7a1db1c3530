import RestGateway.Decimal.Shortest

/-!
# Decimal text of a double

`Layout` holds the choices that a format makes once the digits are known: for which exponents the
number is written positionally, and how an exponent is written otherwise.
-/

set_option autoImplicit false

namespace RestGateway.Decimal

structure Layout where
  /-- Positional notation for `d.ddd * 10^x` with `x` from `least` to `greatest`. -/
  least : Int
  greatest : Int
  /-- What marks a whole number in positional notation. -/
  wholeSuffix : List Char
  plusInExponent : Bool
  zero : List Char
  /-- The text of an infinity or a NaN. -/
  notFinite : Float → List Char

def positional (l : Layout) (digits : List Char) (x : Int) : List Char :=
  if x < 0 then
    '0' :: '.' :: (List.replicate (-x - 1).toNat '0' ++ digits)
  else
    let whole := x.toNat + 1
    if digits.length ≤ whole then
      digits ++ List.replicate (whole - digits.length) '0' ++ l.wholeSuffix
    else digits.take whole ++ '.' :: digits.drop whole

def scientific (l : Layout) (digits : List Char) (x : Int) : List Char :=
  let fraction := digits.drop 1
  let sign := if x < 0 then ['-'] else if l.plusInExponent then ['+'] else []
  digits.take 1 ++ (if fraction.isEmpty then [] else '.' :: fraction) ++
    'e' :: sign ++ Nat.toDigits 10 x.natAbs

def Layout.write (l : Layout) (x : Float) : List Char :=
  match Binary64.ofFloat? x with
  | none => l.notFinite x
  | some b =>
    let sign := if b.negative then ['-'] else []
    if b.mantissa = 0 then sign ++ l.zero
    else
      let s := shortest b.mantissa b.exponent
      let digits := Nat.toDigits 10 s.digits
      let e := s.exponent + (digits.length : Int) - 1
      sign ++ if l.least ≤ e ∧ e ≤ l.greatest then positional l digits e else scientific l digits e

end RestGateway.Decimal
