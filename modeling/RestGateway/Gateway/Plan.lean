import RestGateway.Backend.Client
import RestGateway.Backend.Reply
import RestGateway.Http.Message

/-!
# Plans

How a request is answered: at once, or by one call to the backend whose outcome decides the
response. No request takes more than one call.
-/

set_option autoImplicit false

namespace RestGateway

/-- The backend's response to a call; the body may break off for a reason. -/
structure Reply where
  status : Http.Status
  body : Except String (List UInt8)

abbrev Outcome := Except String Reply

/-- How the backend treats calls. -/
abbrev Backend := Call → Outcome

inductive Plan where
  | answer (r : Http.Response)
  | ask (c : Call) (finish : Outcome → Http.Response)

namespace Plan

def run (b : Backend) : Plan → Http.Response
  | answer r => r
  | ask c finish => finish (b c)

def calls : Plan → List Call
  | answer _ => []
  | ask c _ => [c]

def map (f : Http.Response → Http.Response) : Plan → Plan
  | answer r => .answer (f r)
  | ask c finish => .ask c fun o => f (finish o)

@[simp] theorem run_map (f : Http.Response → Http.Response) (b : Backend) (p : Plan) :
    (p.map f).run b = f (p.run b) := by
  cases p <;> rfl

@[simp] theorem calls_map (f : Http.Response → Http.Response) (p : Plan) :
    (p.map f).calls = p.calls := by
  cases p <;> rfl

end Plan

def GatewayError.orResponse : Except GatewayError Http.Response → Http.Response
  | .ok r => r
  | .error e => e.response

namespace Outcome

/-- The envelope that a reply holds. Server errors are reported by their status; with any other
status the backend tells in the envelope what went wrong. -/
def envelope {α : Type} (results : Json.Decoder α) (o : Outcome) :
    Except GatewayError (Envelope α) :=
  match o with
  | .error reason => .error (.call (.transport reason))
  | .ok reply =>
    if reply.status.isServerError then .error (.call (.status reply.status))
    else
      match reply.body with
      | .error reason => .error (.call (.decode reason))
      | .ok bytes => ((Envelope.decoder results).decode bytes).mapError fun d => .call (.decode d)

end Outcome

end RestGateway
