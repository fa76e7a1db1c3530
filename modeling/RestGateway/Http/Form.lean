import RestGateway.Text.Split
import RestGateway.Url.Percent

/-!
# Form-encoded queries
-/

set_option autoImplicit false

namespace RestGateway.Http.Form

/-- A plus sign is a blank, percent signs give bytes, and ill-formed bytes become U+FFFD. -/
def decode (cs : List Char) : String :=
  Utf8.lossy (Percent.decode (Utf8.encode (cs.map fun c => if c = '+' then ' ' else c)))

/-- A pair without an equals sign has an empty value. -/
def pair (cs : List Char) : String × String :=
  match Text.splitOnce? '=' cs with
  | some (name, value) => (decode name, decode value)
  | none => (decode cs, "")

/-- The pairs of a query in their order; empty ones are left out. -/
def parse (query : List Char) : List (String × String) :=
  ((Text.splitOn '&' query).filter fun p => !p.isEmpty).map pair

end RestGateway.Http.Form
