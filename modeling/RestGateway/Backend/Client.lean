import RestGateway.Backend.Credentials
import RestGateway.Url.Basic

/-!
# Clients

A client calls the backend at one address under one caller's credentials. A call is a JSON object of
the method's name and two parameters: the credentials and what the method is told.
-/

set_option autoImplicit false

namespace RestGateway

def defaultApiPath : String := "/api3/json"

/-- The backend's address: the host's URL with the path replaced. -/
def serverUrl (host apiPath : String) : Except CallError Url :=
  if "http".toList.isPrefixOf host.toList then
    match Url.parse? host with
    | some url => .ok (url.setPath apiPath)
    | none => .error (.invalidHost host)
  else .error (.invalidHost host)

structure Client where
  url : Url
  credentials : Credentials
  deriving DecidableEq, Repr

namespace Client

def make (host apiPath : String) (credentials : Credentials) : Except CallError Client := do
  let url ← serverUrl host apiPath
  .ok ⟨url, credentials⟩

end Client

structure Call where
  url : Url
  method : String
  credentials : Credentials
  parameters : Json

namespace Call

def body (c : Call) : Json :=
  .object [("method_name", .string c.method), ("params", .list [c.credentials.toJson, c.parameters])]

end Call

def Client.call (c : Client) (method : String) (parameters : Json) : Call :=
  ⟨c.url, method, c.credentials, parameters⟩

end RestGateway
