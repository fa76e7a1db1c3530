import RestGateway.Json.Decoder

/-!
# What `GET /` reports
-/

set_option autoImplicit false

namespace RestGateway

def gatewayVersion : String := "0.5.0"

structure VersionReport where
  backend : String
  gateway : String
  deriving DecidableEq, Repr

namespace VersionReport

def toJson (r : VersionReport) : Json :=
  .object [("shotgun_version", .string r.backend), ("rest_version", .string r.gateway)]

open Json.Reader in
def decoder : Json.Decoder VersionReport :=
  .record "IndexResponse" ⟨"", ""⟩ fun depth => [
    required "shotgun_version" (fun v r => { r with backend := v }) (Json.Decoder.string depth),
    required "rest_version" (fun v r => { r with gateway := v }) (Json.Decoder.string depth)]

end VersionReport

end RestGateway
