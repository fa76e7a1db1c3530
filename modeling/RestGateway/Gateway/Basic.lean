import RestGateway.Backend.Cache
import RestGateway.Config.Basic

/-!
# The gateway's state

All requests share the configuration and the active query formats, which never change, and the
cached clients.
-/

set_option autoImplicit false

namespace RestGateway

structure Gateway where
  config : Config
  formats : Registry
  clients : Cache

namespace Gateway

/-- The state to start with, over a registry of formats: the configured ones become active, and no
client is cached. -/
def withFormats (c : Config) (formats : Registry) : Except GatewayError Gateway :=
  match formats.activate c.formats with
  | .ok active => .ok ⟨c, active, .make c.backend.host c.backend.apiPath c.backend.cachedClients⟩
  | .error e => .error (.registry e)

def make (c : Config) : Except GatewayError Gateway := withFormats c .builtin

end Gateway

end RestGateway
