import RestGateway.Http.Status
import RestGateway.Http.Target
import RestGateway.Json.Printer

/-!
# Requests and responses

Names of headers are kept in lower case and may occur more than once; values are bytes.
-/

set_option autoImplicit false

namespace RestGateway.Http

abbrev Headers := List (String × List UInt8)

namespace Headers

def values (hs : Headers) (name : String) : List (List UInt8) :=
  (hs.filter fun h => h.1 == name).map Prod.snd

def first? (hs : Headers) (name : String) : Option (List UInt8) := (hs.values name).head?

def isTokenChar (c : Char) : Bool :=
  c.isAlphanum || ['!', '#', '$', '%', '&', '\'', '*', '+', '-', '.', '^', '_', '`', '|', '~'].contains c

def isToken (s : String) : Bool := !s.isEmpty && s.all isTokenChar

def isValue (value : List UInt8) : Bool :=
  value.all fun b => b == 0x09 || (0x20 ≤ b && b != 0x7F)

def isValid (hs : Headers) : Bool := hs.all fun h => isToken h.1 && isValue h.2

def lowerNames (hs : Headers) : Headers :=
  hs.map fun h => (String.ofList (Ascii.lower h.1.toList), h.2)

end Headers

structure Request where
  method : String
  target : Target
  headers : Headers
  body : List UInt8

namespace Request

/-- A request as it is sent; `none` if its method, target or headers cannot exist. -/
def make? (method target : String) (headers : Headers) (body : List UInt8) : Option Request :=
  if Headers.isToken method ∧ headers.isValid then
    (Target.parse? target).map fun t => ⟨method, t, headers.lowerNames, body⟩
  else none

def isHead (r : Request) : Bool := r.method == "HEAD"

end Request

structure Response where
  status : Status
  headers : Headers
  body : String
  deriving DecidableEq, Repr

namespace Response

def empty (status : Status) : Response := ⟨status, [], ""⟩

def addHeader (r : Response) (name value : String) : Response :=
  { r with headers := r.headers ++ [(name, Utf8.bytes value)] }

def plain (status : Status) (body : String) : Response :=
  { empty status with body }.addHeader "content-type" "text/plain; charset=utf-8"

def json (status : Status) (body : Json) : Response :=
  { empty status with body := body.text }.addHeader "content-type" "application/json"

end Response

end RestGateway.Http
