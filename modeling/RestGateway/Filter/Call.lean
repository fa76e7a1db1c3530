import RestGateway.Filter.Basic
import RestGateway.Text.Word

/-!
# Filter queries written as a call

`and([path, relation, value], …)` or `or(…)`: an operator in any case and, in parentheses, triples
or one list of triples. The parentheses may not hold a line feed.
-/

set_option autoImplicit false

namespace RestGateway.Call

def hasKeyword (s : List Char) : Bool :=
  let head := Ascii.lower (s.take 3)
  "and".toList.isPrefixOf head || "or".toList.isPrefixOf head

/-- A name of word characters, an opening parenthesis, a body without line feed and a closing
parenthesis at the end. -/
def split? (s : List Char) : Option (List Char × List Char) :=
  let name := s.takeWhile Text.isWord
  match name, s.dropWhile Text.isWord with
  | _ :: _, '(' :: rest =>
    let body := rest.dropLast
    if rest.getLast? = some ')' ∧ !body.contains '\n' then some (name, body) else none
  | _, _ => none

def startsWith (c : Char) : List Char → Bool
  | d :: _ => c == d
  | [] => false

def claims (input : String) : Bool :=
  let s := input.toList
  hasKeyword s &&
    match split? s with
    | some (_, body) => startsWith '[' body
    | none => false

/-- The list of triples that a body stands for: itself when it begins with two brackets, else with a
pair of brackets around it. -/
def triplesText (body : List Char) : Except QueryError (List Char) :=
  match body with
  | '[' :: '[' :: _ => .ok body
  | '[' :: _ => .ok ('[' :: body ++ [']'])
  | _ => .error .invalidBody

def decodeTriples (text : List Char) : Except QueryError (List Triple) :=
  ((Json.Decoder.list Triple.decoder).decode (Utf8.encode text)).mapError .decode

def parse (input : String) : Except QueryError Filter :=
  let s := input.toList
  if hasKeyword s then
    match split? s with
    | none => .error .invalidFormat
    | some (name, body) => do
      let triples ← decodeTriples (← triplesText body)
      let operator ← Operator.parse (String.ofList name)
      .ok (.ofTriples operator triples)
  else .error .invalidFormat

end RestGateway.Call
