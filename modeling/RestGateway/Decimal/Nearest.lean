import RestGateway.Text.Ascii
import RestGateway.Text.Split

/-!
# Decimals as doubles
-/

set_option autoImplicit false

namespace RestGateway.Decimal

/-- The double nearest to `digits * 10^exponent`. Far outside the range of doubles the result is
known without computing the power. -/
def nearest (digits : Nat) (exponent : Int) : Float :=
  let magnitude : Int := exponent + (Nat.toDigits 10 digits).length
  if digits = 0 ∨ magnitude < -400 then 0.0
  else if 400 < magnitude then 1.0 / 0.0
  else Float.ofScientific digits (exponent < 0) exponent.natAbs

def magnitude? (cs : List Char) : Option Float :=
  let mantissa := cs.takeWhile fun c => c != 'e' && c != 'E'
  let whole := mantissa.takeWhile (· != '.')
  let fraction := (mantissa.dropWhile (· != '.')).drop 1
  let exponent? : Option Int :=
    match cs.dropWhile fun c => c != 'e' && c != 'E' with
    | [] => some 0
    | _ :: e => Ascii.integer? e
  match Ascii.natural? (whole ++ fraction), exponent? with
  | some n, some e => some (nearest n (e - fraction.length))
  | _, _ => none

def read? : List Char → Option Float
  | '+' :: cs => magnitude? cs
  | '-' :: cs => (magnitude? cs).map fun x => -x
  | cs => magnitude? cs

end RestGateway.Decimal
