import RestGateway.Error
import RestGateway.Text.Base64
import RestGateway.Text.Split

/-!
# Credentials

Callers give a name and a secret in the `Authorization` header, in base64 with a colon between them.
The scheme tells whether they are those of a script or of a person. They are not checked here but
handed to the backend with every call.
-/

set_option autoImplicit false

namespace RestGateway

inductive Credentials where
  | script (name key : String)
  | user (login password : String)
  deriving DecidableEq, Repr

namespace Credentials

def name : Credentials → String
  | script name _ => name
  | user login _ => login

def secret : Credentials → String
  | script _ key => key
  | user _ password => password

def isUser : Credentials → Bool
  | script _ _ => false
  | user _ _ => true

def toJson : Credentials → Json
  | script name key => .object [("script_name", .string name), ("script_key", .string key)]
  | user login password =>
    .object [("user_login", .string login), ("user_password", .string password)]

def shown : Credentials → String
  | script name _ =>
    "Script \x7b script_name: " ++ Text.quoted name ++ ", script_key: \"[REDACTED]\" \x7d"
  | user login _ =>
    "User \x7b user_login: " ++ Text.quoted login ++ ", user_password: \"[REDACTED]\" \x7d"

end Credentials

namespace Authorization

def isText (value : List UInt8) : Bool :=
  value.all fun b => b == 0x09 || (0x20 ≤ b && b < 0x7F)

/-- The text of the first header; empty when there is none that is text. -/
def headerText (values : List (List UInt8)) : List Char :=
  match values with
  | v :: _ => if isText v then v.map fun b => Char.ofNat b.toNat else []
  | [] => []

/-- The scheme whose credentials are those of a person; all others mean a script. -/
def userScheme : List Char := "Basic-User".toList

def schemeStart : List Char := "Basic".toList

def nameAndSecret (decoded : String) : Except GatewayError (String × String) :=
  match Text.splitOnce? ':' decoded.toList with
  | some (name, secret) => .ok (String.ofList name, String.ofList secret)
  | none => .error (.forbidden "Credentials must be of the form name:secret")

def decodePayload (payload : List Char) : Except GatewayError String :=
  match Base64.decode (Utf8.encode payload) with
  | .ok bs => .ok (Utf8.lossy bs)
  | .error f => .error (.badRequest ("Invalid base64 credentials: " ++ f.message))

/-- The credentials in the `Authorization` headers of a request. -/
def parse (values : List (List UInt8)) : Except GatewayError Credentials :=
  match Text.splitOnce? ' ' (headerText values) with
  | none => .error (.unauthorized "Missing or malformed Authorization header")
  | some (scheme, payload) =>
    if schemeStart.isPrefixOf scheme then do
      let (name, secret) ← nameAndSecret (← decodePayload payload)
      .ok (if scheme = userScheme then .user name secret else .script name secret)
    else
      .error (.unauthorized
        ("Unsupported authorization scheme '" ++ String.ofList scheme ++ "'"))

end Authorization

end RestGateway
