/-!
# Words

Ids, page numbers and other integers of the backend have 64 bits with their sign.
-/

set_option autoImplicit false

namespace RestGateway.Word

def least : Int := -9223372036854775808

def greatest : Int := 9223372036854775807

def ofInt? (n : Int) : Option Int := if least ≤ n ∧ n ≤ greatest then some n else none

def clamp (n : Int) : Int :=
  if n < least then least else if greatest < n then greatest else n

end RestGateway.Word
