import RestGateway.Http.Status

/-!
# Kinds of backend exceptions

The backend reports failures in free text. A classifier is an ordered list of rules; the first rule
whose needle occurs in the message decides, and a message that no rule matches is a bad request.
-/

set_option autoImplicit false

namespace RestGateway

inductive Category where
  | success
  | conflict
  | forbidden
  | notFound
  | badRequest
  deriving DecidableEq, Repr

def Category.name : Category → String
  | success => "success"
  | conflict => "conflict"
  | forbidden => "forbidden"
  | notFound => "not_found"
  | badRequest => "bad_request"

def Category.status : Category → Http.Status
  | success => 200
  | conflict => 409
  | forbidden => 403
  | notFound => 404
  | badRequest => 400

def occurs (needle : List Char) : List Char → Bool
  | [] => needle.isEmpty
  | c :: cs => needle.isPrefixOf (c :: cs) || occurs needle cs

structure Rule where
  needle : String
  category : Category
  deriving DecidableEq, Repr

def Rule.matches (r : Rule) (message : String) : Bool := occurs r.needle.toList message.toList

structure Classifier where
  rules : List Rule
  deriving DecidableEq, Repr

namespace Classifier

def append (c : Classifier) (r : Rule) : Classifier := ⟨c.rules ++ [r]⟩

def unique : Rule := ⟨"unique", .conflict⟩

def permission : Rule := ⟨"Permission", .forbidden⟩

def missing : Rule := ⟨"does not exist", .notFound⟩

def forCreate : Classifier := ⟨[unique, permission]⟩

def forUpdate : Classifier := ⟨[unique, permission, missing]⟩

def forDelete : Classifier := ⟨[permission, missing]⟩

def forRevive : Classifier := forDelete

def classifyMessage (c : Classifier) (message : String) : Category :=
  match c.rules.find? fun r => r.matches message with
  | some r => r.category
  | none => .badRequest

def classify (c : Classifier) (exception : Bool) (message : String) : Category :=
  if exception then c.classifyMessage message else .success

end Classifier

end RestGateway
