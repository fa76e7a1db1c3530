import RestGateway.Gateway.Serve
import RestGateway.Http.Cors

/-!
# The server's pipeline

Around every request: it gets an id, a body that is declared too long is refused, and the answer
tells browsers whether pages of other origins may read it. The methods that a path answers are
listed outside of all this.
-/

set_option autoImplicit false

namespace RestGateway

namespace Pipeline

def idHeader : String := "x-request-id"

def requestId (fresh : List UInt8) (r : Http.Request) : List UInt8 :=
  (r.headers.first? idHeader).getD fresh

def addId (id : List UInt8) (response : Http.Response) : Http.Response :=
  { response with headers := response.headers ++ [(idHeader, id)] }

/-- The length that a request declares for its body; a declaration that is no number counts as
none. -/
def declaredLength? (r : Http.Request) : Option Nat := do
  let value ← r.headers.first? "content-length"
  let text ← Utf8.decode? value
  let n ← match text with
    | '+' :: ds => Ascii.natural? ds
    | ds => Ascii.natural? ds
  if n < UInt64.size then some n else none

def tooLong : Http.Response := .plain 413 "length limit exceeded"

/-- The answer to `OPTIONS`, which never reaches a route. -/
def preflight : CorsMode → Http.Response
  | .sameOrigin => .empty 200
  | .permissive =>
    (((Http.Response.empty 200).addHeader "access-control-allow-origin" "*").addHeader
      "access-control-allow-methods" "*").addHeader "access-control-allow-headers" "*"

def share (mode : CorsMode) (response : Http.Response) : Http.Response :=
  match mode with
  | .sameOrigin => response
  | .permissive =>
    (response.addHeader "access-control-allow-origin" "*").addHeader
      "access-control-expose-headers" "*"

def crossOrigin (mode : CorsMode) (r : Http.Request) (p : Plan × Gateway) (g : Gateway) :
    Plan × Gateway :=
  if r.method = "OPTIONS" then (.answer (preflight mode), g)
  else (p.1.map (share mode), p.2)

/-- No more is read of a body than its declared length and the configured limit. -/
def limitOf (configured : Nat) (declared? : Option Nat) : Nat :=
  min readLimit (match declared? with
    | some n => min n configured
    | none => configured)

def limited (g : Gateway) (choice : Nat) (r : Http.Request) : Plan × Gateway :=
  let configured := g.config.bodyLimitBytes
  let declared? := declaredLength? r
  if declared?.any fun n => configured < n then (.answer tooLong, g)
  else
    crossOrigin (.ofText g.config.service.corsMode) r
      (Serve.plan g choice (limitOf configured declared?) r) g

end Pipeline

def Gateway.serveLayered (g : Gateway) (choice : Nat) (fresh : List UInt8) (r : Http.Request) :
    Plan × Gateway :=
  let (p, g) := Pipeline.limited g choice r
  (Serve.finish r (p.map (Pipeline.addId (Pipeline.requestId fresh r))), g)

end RestGateway
