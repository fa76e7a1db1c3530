/-!
# Character sets given by ranges

A set of code points as a list of closed ranges in ascending order.
-/

set_option autoImplicit false

namespace RestGateway.Text

/-- Ranges that end below the code point are passed over; the first other one decides. -/
def inRanges (n : Nat) : List (Nat × Nat) → Bool
  | [] => false
  | (low, high) :: rest => if high < n then inRanges n rest else low ≤ n

end RestGateway.Text
