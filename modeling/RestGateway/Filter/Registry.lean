import RestGateway.Filter.Call
import RestGateway.Filter.NestedList
import RestGateway.Filter.ObjectQuery

/-!
# Query formats and which of them are active

A format claims inputs and parses them. The registry holds formats by name and an ordered list of
active names; the first active format that claims an input parses it, and its answer is final.
-/

set_option autoImplicit false

namespace RestGateway

structure Format where
  claims : String → Bool
  parse : String → Except QueryError Filter

namespace Format

def call : Format := ⟨Call.claims, Call.parse⟩

def objectQuery : Format := ⟨ObjectQuery.claims, ObjectQuery.parse⟩

def nestedList : Format := ⟨NestedList.claims, NestedList.parse⟩

end Format

structure UnknownFormat where
  name : String
  deriving DecidableEq, Repr

def UnknownFormat.message (e : UnknownFormat) : String := "unknown query format '" ++ e.name ++ "'"

structure Registry where
  formats : List (String × Format)
  active : List String

namespace Registry

def empty : Registry := ⟨[], []⟩

def find? (r : Registry) (name : String) : Option Format := r.formats.lookup name

def isRegistered (r : Registry) (name : String) : Bool := (r.find? name).isSome

/-- Adds a format, in place of an earlier one of that name. -/
def register (r : Registry) (name : String) (f : Format) : Registry :=
  { r with formats := (name, f) :: r.formats.filter fun e => e.1 != name }

def builtinNames : List String := ["format1", "format2", "format3"]

def builtin : Registry :=
  ((empty.register "format1" .call).register "format2" .objectQuery).register "format3" .nestedList

/-- Replaces the active list; the first name that is not registered refuses it. -/
def activate (r : Registry) (names : List String) : Except UnknownFormat Registry :=
  match names.find? fun n => !r.isRegistered n with
  | some unknown => .error ⟨unknown⟩
  | none => .ok { r with active := names }

def reset (r : Registry) : Registry := { r with active := [] }

def activeFormats (r : Registry) : List (String × Format) :=
  r.active.filterMap fun n => (r.find? n).map fun f => (n, f)

def parse (r : Registry) (input : String) : Except QueryError Filter :=
  match r.activeFormats.find? fun e => e.2.claims input with
  | some (_, f) => f.parse input
  | none => .error .noFormat

def summary (r : Registry) : String :=
  let registered := (r.formats.map Prod.fst).mergeSort fun a b => decide (a ≤ b)
  "FormatRegistry \x7b registered: " ++ Text.quotedList registered ++ ", active: " ++
    Text.quotedList r.active ++ " \x7d"

end Registry

end RestGateway
