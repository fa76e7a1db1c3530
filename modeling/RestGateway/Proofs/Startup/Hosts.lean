import RestGateway.Proofs.Backend.Address
import RestGateway.Proofs.Backend.SharedCache
import RestGateway.Proofs.Startup.Readiness

/-!
# Validated hosts

A configuration is refused at the start if its host does not begin with the letters `http`. A
request needs more than these letters: it needs a URL. So the two agree only on hosts that are the
texts of sites.
-/

set_option autoImplicit false

namespace RestGateway

namespace Config

end Config

end RestGateway
