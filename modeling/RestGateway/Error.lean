import RestGateway.Classifier
import RestGateway.Config.Error
import RestGateway.Filter.Registry
import RestGateway.Http.Message

/-!
# Errors of the gateway and the responses they become

What a caller is told about an internal failure does not depend on its details: messages of internal
errors and of bad backend replies stay out of the response.
-/

set_option autoImplicit false

namespace RestGateway

/-- Why a call to the backend gave no usable answer. -/
inductive CallError where
  /-- The configured host is no `http` address. -/
  | invalidHost (host : String)
  /-- No response arrived. -/
  | transport (reason : String)
  | status (s : Http.Status)
  /-- The body of the response could not be read or decoded. -/
  | decode (diagnostic : String)
  deriving DecidableEq, Repr

def CallError.message : CallError → String
  | .invalidHost host => "Host must start with http:// or https://, got '" ++ host ++ "'"
  | .transport reason => "backend request failed: " ++ reason
  | .status s => "backend responded with " ++ s.text
  | .decode diagnostic => "could not decode backend response: " ++ diagnostic

inductive GatewayError where
  | config (e : Config.Error)
  | registry (e : UnknownFormat)
  | query (e : QueryError)
  | call (e : CallError)
  | io (reason : String)
  | unauthorized (reason : String)
  | forbidden (reason : String)
  | notFound (reason : String)
  | badRequest (reason : String)
  | conflict (reason : String)
  /-- An exception that the backend reported for a read. -/
  | exception (reason : String)
  | badGateway (reason : String)
  | internal (reason : String)

structure ErrorBody where
  error : String
  code : Option String
  status : Nat
  deriving DecidableEq, Repr

namespace ErrorBody

def toJson (b : ErrorBody) : Json :=
  .object (("error", .string b.error) ::
    (match b.code with
      | some c => [("code", .string c)]
      | none => []) ++
    [("status", .number (.int b.status))])

open Json.Reader in
def decoder : Json.Decoder ErrorBody :=
  .record "ErrorResponse" ⟨"", none, 0⟩ fun depth => [
    required "error" (fun v b => { b with error := v }) (Json.Decoder.string depth),
    optional "code" (fun v b => { b with code := v }) (Json.Decoder.string depth),
    required "status" (fun v b => { b with status := v })
      (Json.Decoder.natural UInt16.size "u16" depth)]

end ErrorBody

namespace GatewayError

def ofCategory (c : Category) (reason : String) : Option GatewayError :=
  match c with
  | .success => none
  | .conflict => some (.conflict reason)
  | .forbidden => some (.forbidden reason)
  | .notFound => some (.notFound reason)
  | .badRequest => some (.badRequest reason)

def status : GatewayError → Http.Status
  | query _ | badRequest _ => 400
  | unauthorized _ => 401
  | forbidden _ => 403
  | notFound _ => 404
  | conflict _ => 409
  | badGateway _ | call (.decode _) | call (.status _) => 502
  | config _ | registry _ | call (.invalidHost _) | call (.transport _) | io _ | exception _
  | internal _ => 500

/-- The full message, for logs. -/
def message : GatewayError → String
  | config e => "Configuration error: " ++ e.message
  | registry e => "Configuration error: " ++ e.message
  | query e => e.message
  | call e => e.message
  | io reason => "I/O error: " ++ reason
  | unauthorized reason => "Authentication failed: " ++ reason
  | forbidden reason | notFound reason | badRequest reason | conflict reason
  | exception reason => reason
  | badGateway reason => "Bad gateway: " ++ reason
  | internal reason => "Internal server error: " ++ reason

/-- The code and the text that the caller gets. -/
def told : GatewayError → String × String
  | config e => ("CONFIG_ERROR", e.message)
  | registry e => ("CONFIG_ERROR", e.message)
  | query e => ("INVALID_QUERY", e.message)
  | call (.transport _) => ("BACKEND_UNREACHABLE", "Backend request failed")
  | call (.decode _) | call (.status _) => ("BAD_GATEWAY", "Bad response from backend")
  | call (.invalidHost host) => ("CONFIG_ERROR", (CallError.invalidHost host).message)
  | io _ => ("INTERNAL_ERROR", "Internal server error")
  | unauthorized _ => ("UNAUTHORIZED", "401 Unauthorized")
  | forbidden reason => ("FORBIDDEN", reason)
  | notFound reason => ("NOT_FOUND", reason)
  | badRequest reason => ("BAD_REQUEST", reason)
  | conflict reason => ("CONFLICT", reason)
  | exception reason => ("BACKEND_EXCEPTION", reason)
  | badGateway reason => ("BAD_GATEWAY", reason)
  | internal _ => ("INTERNAL_ERROR", "Internal server error")

def body (e : GatewayError) : ErrorBody := ⟨e.told.2, some e.told.1, e.status⟩

def challenge : String := "Basic realm=\"shotgun-restful\""

def response (e : GatewayError) : Http.Response :=
  let r := Http.Response.json e.status e.body.toJson
  match e with
  | unauthorized _ => r.addHeader "www-authenticate" challenge
  | _ => r

end GatewayError

end RestGateway
