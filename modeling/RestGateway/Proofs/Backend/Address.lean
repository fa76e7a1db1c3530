import RestGateway.Backend.Client
import RestGateway.Proofs.Url.RoundTrip

/-!
# The backend's address

The host tells all of the backend's address but the path, and the path tells nothing else: marks,
dots and slashes in it are part of the path. So whatever path a host had before is forgotten.
-/

set_option autoImplicit false

namespace RestGateway

namespace Url

end Url

variable {host apiPath : String} {url : Url}

end RestGateway
