import RestGateway.Filter.Basic

/-!
# Filter queries written as a list of triples

The triples are joined by `and`.
-/

set_option autoImplicit false

namespace RestGateway.NestedList

def claims (input : String) : Bool :=
  match input.toList with
  | '[' :: '[' :: _ => true
  | _ => false

def parse (input : String) : Except QueryError Filter :=
  if claims input then do
    let triples ←
      ((Json.Decoder.list Triple.decoder).decode (Utf8.bytes input)).mapError QueryError.decode
    .ok (.ofTriples .and triples)
  else .error .invalidFormat

end RestGateway.NestedList
