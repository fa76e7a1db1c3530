import RestGateway.Filter.Basic

/-!
# Filter queries written as an object

An object that binds `logical_operator` to an operator's name and `conditions` to a list of triples.
-/

set_option autoImplicit false

namespace RestGateway.ObjectQuery

def operatorKey : String := "logical_operator"

def conditionsKey : String := "conditions"

def decodeObject (input : String) : Except String Members :=
  Json.Decoder.members.decode (Utf8.bytes input)

def begins (input : String) : Bool := input.toList.head? == some '\x7b'

def claims (input : String) : Bool :=
  begins input &&
    match decodeObject input with
    | .ok members => (members.lookup operatorKey).isSome && (members.lookup conditionsKey).isSome
    | .error _ => false

def operatorOf : Json → Except QueryError Operator
  | .string name => Operator.parse name
  | other => .error (.unsupportedOperator other.text)

def parse (input : String) : Except QueryError Filter := do
  if !begins input then .error (.missingStart "\x7b")
  else
    let members ← (decodeObject input).mapError .decode
    match members.lookup operatorKey, members.lookup conditionsKey with
    | none, _ => .error (.missingKey operatorKey)
    | some _, none => .error (.missingKey conditionsKey)
    | some operator, some conditions =>
      let operator ← operatorOf operator
      let triples ← (Triple.listOfJson conditions).mapError fun c => .decode c.message
      .ok (.ofTriples operator triples)

end RestGateway.ObjectQuery
