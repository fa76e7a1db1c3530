import RestGateway.Filter.Error
import RestGateway.Json.Decoder

/-!
# Filters

A filter joins conditions by one logical operator. A condition compares the field at a path with
values. Queries write a condition as a triple of path, relation and value; a value that is a list
gives the condition's values, any other is its only value.
-/

set_option autoImplicit false

namespace RestGateway

inductive Operator where
  | and
  | or
  deriving DecidableEq, Repr

namespace Operator

def name : Operator → String
  | .and => "and"
  | .or => "or"

def parse (s : String) : Except QueryError Operator :=
  if Ascii.same s "and" then .ok .and
  else if Ascii.same s "or" then .ok .or
  else .error (.unsupportedOperator s)

def toJson (o : Operator) : Json := .string o.name

def decoder : Json.Decoder Operator := fun depth =>
  Json.Reader.choice [("and", Operator.and), ("or", .or)] "`and` or `or`" (depth != 0)

end Operator

structure Condition where
  path : String
  relation : String
  values : List Json

namespace Condition

def valuesOf : Json → List Json
  | .list items => items
  | v => [v]

def make (path relation : String) (value : Json) : Condition :=
  ⟨path, relation, valuesOf value⟩

def toJson (c : Condition) : Json :=
  .object [("path", .string c.path), ("relation", .string c.relation), ("values", .list c.values)]

def beq (a b : Condition) : Bool :=
  a.path == b.path && a.relation == b.relation && Json.beqItems a.values b.values

open Json.Reader in
def decoder : Json.Decoder Condition :=
  .record "Condition" ⟨"", "", []⟩ fun depth => [
    required "path" (fun v c => { c with path := v }) (Json.Decoder.string depth),
    required "relation" (fun v c => { c with relation := v }) (Json.Decoder.string depth),
    required "values" (fun v c => { c with values := v }) (Json.Decoder.list .value depth)]

end Condition

instance : BEq Condition := ⟨Condition.beq⟩

structure Triple where
  path : String
  relation : String
  value : Json

namespace Triple

def condition (t : Triple) : Condition := .make t.path t.relation t.value

def wanted : String := "tuple struct ConditionTriple"

open Json.Reader in
def decoder : Json.Decoder Triple :=
  .tuple wanted ⟨"", "", .null⟩ fun depth => [
    required "path" (fun v t => { t with path := v }) (Json.Decoder.string depth),
    required "relation" (fun v t => { t with relation := v }) (Json.Decoder.string depth),
    required "value" (fun v t => { t with value := v }) (Json.Decoder.value depth)]

def nextString (found : Nat) : List Json → Except Json.Cause (String × List Json)
  | [] => .error (.wrongLength found (wanted ++ " with 3 elements"))
  | .string s :: rest => .ok (s, rest)
  | v :: _ => .error (.wrongType (.of v) "a string")

def ofJson : Json → Except Json.Cause Triple
  | .list items => do
    let (path, rest) ← nextString 0 items
    let (relation, rest) ← nextString 1 rest
    match rest with
    | [] => .error (.wrongLength 2 (wanted ++ " with 3 elements"))
    | [value] => .ok ⟨path, relation, value⟩
    | _ => .error (.wrongLength items.length "fewer elements in array")
  | v => .error (.wrongType (.of v) wanted)

def listOfJson : Json → Except Json.Cause (List Triple)
  | .list items => items.mapM ofJson
  | v => .error (.wrongType (.of v) "a sequence")

end Triple

structure Filter where
  operator : Operator
  conditions : List Condition

namespace Filter

def empty : Filter := ⟨.and, []⟩

def ofTriples (o : Operator) (ts : List Triple) : Filter := ⟨o, ts.map Triple.condition⟩

def add (f : Filter) (c : Condition) : Filter := { f with conditions := f.conditions ++ [c] }

def byId (id : Int) : Filter := empty.add (.make "id" "is" (.number (.int id)))

def size (f : Filter) : Nat := f.conditions.length

def isEmpty (f : Filter) : Bool := f.conditions.isEmpty

def toJson (f : Filter) : Json :=
  .object [("logical_operator", f.operator.toJson),
    ("conditions", .list (f.conditions.map Condition.toJson))]

def beq (a b : Filter) : Bool := a.operator == b.operator && a.conditions == b.conditions

open Json.Reader in
def decoder : Json.Decoder Filter :=
  .record "FilterModel" empty fun depth => [
    required "logical_operator" (fun v f => { f with operator := v }) (Operator.decoder depth),
    required "conditions" (fun v f => { f with conditions := v })
      (Json.Decoder.list Condition.decoder depth)]

end Filter

instance : BEq Filter := ⟨Filter.beq⟩

end RestGateway
