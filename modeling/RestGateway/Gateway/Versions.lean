import RestGateway.Gateway.Basic
import RestGateway.Gateway.Plan
import RestGateway.VersionReport

/-!
# Versions

Anyone may ask for the versions of gateway and backend. A caller's credentials are used if there are
any; the backend does not check them for this call.
-/

set_option autoImplicit false

namespace RestGateway.Versions

/-- Credentials for callers that have none. -/
def placeholder : Credentials := .script "fake-script" "fake-key"

def credentials (r : Http.Request) : Credentials :=
  match Authorization.parse (r.headers.values "authorization") with
  | .ok c => c
  | .error _ => placeholder

/-- The backend's version; whatever is wrong with the reply is no fault of the caller. -/
def versionOf (o : Outcome) : Except GatewayError String :=
  match o with
  | .error reason => .error (.call (.transport reason))
  | .ok reply =>
    if reply.status.isClientError then
      .error (.internal ("backend responded with " ++ reply.status.text))
    else if reply.status.isServerError then
      .error (.badGateway ("backend responded with " ++ reply.status.text))
    else
      match reply.body with
      | .error reason => .error (.internal ("could not read backend info: " ++ reason))
      | .ok bytes =>
        match ServerInfo.decoder.decode bytes with
        | .error d => .error (.internal ("could not decode backend info: " ++ d))
        | .ok info =>
          match info.versionText with
          | some version => .ok version
          | none => .error (.internal "backend info carries no version")

def report (o : Outcome) : Except GatewayError Http.Response := do
  .ok (.json 200 (VersionReport.toJson ⟨← versionOf o, gatewayVersion⟩))

def plan (g : Gateway) (r : Http.Request) : Plan :=
  match g.clients.connect (credentials r) with
  | .error e => .answer (GatewayError.call e).response
  | .ok client => .ask (client.call "info" (.object [])) fun o => GatewayError.orResponse (report o)

end RestGateway.Versions
