import RestGateway.Http.Message

/-!
# Cross-origin requests

Either pages of any origin may read the gateway's answers, or none of another origin may.
-/

set_option autoImplicit false

namespace RestGateway

inductive CorsMode where
  | permissive
  | sameOrigin
  deriving DecidableEq, Repr

namespace CorsMode

def ofText? (mode : String) : Option CorsMode :=
  if mode = "permissive" then some .permissive
  else if mode = "restrictive" ∨ mode = "disabled" then some .sameOrigin
  else none

/-- An unknown mode is permissive. -/
def ofText (mode : String) : CorsMode := (ofText? mode).getD .permissive

end CorsMode

end RestGateway
