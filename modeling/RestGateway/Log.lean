import RestGateway.Json.Basic
import RestGateway.Text.Ascii
import RestGateway.Text.Split
import RestGateway.Text.Blank
import RestGateway.Text.Word

/-!
# Log lines and which of them are shown

A line has a level and a target, the part of the program that it comes from. A filter is a list of
directives: a level for all targets that start with a given text. The longest such text decides.
-/

set_option autoImplicit false

namespace RestGateway.Log

inductive Level where
  | error
  | warn
  | info
  | debug
  | trace
  deriving DecidableEq, Repr

namespace Level

def name : Level → String
  | error => "ERROR"
  | warn => "WARN"
  | info => "INFO"
  | debug => "DEBUG"
  | trace => "TRACE"

def rank : Level → Nat
  | error => 1
  | warn => 2
  | info => 3
  | debug => 4
  | trace => 5

end Level

structure Line where
  level : Level
  target : String
  fields : Members

def Line.toJson (l : Line) : Json :=
  .object [("level", .string l.level.name), ("fields", .object l.fields),
    ("target", .string l.target)]

/-- Levels up to rank `limit` for the targets that start with `start`. -/
structure Directive where
  start : List Char
  limit : Nat
  deriving DecidableEq, Repr

abbrev Filter := List Directive

namespace Directive

def limitNames : List (String × Nat) :=
  [("off", 0), ("error", 1), ("warn", 2), ("info", 3), ("debug", 4), ("trace", 5)]

/-- A digit, perhaps with zeros or a plus sign before it, or a name in any case. -/
def limit? (text : List Char) : Option Nat :=
  let number? := match text with
    | '+' :: ds => Ascii.natural? ds
    | ds => Ascii.natural? ds
  match number? with
  | some n => if n ≤ 5 then some n else none
  | none => (limitNames.find? fun e => Ascii.same e.1 (String.ofList text)).map Prod.snd

def isFirstChar (c : Char) : Bool := Text.isWord c || c == '-' || c == ':'

/-- A level, a target, or a target with a level. No blank may stand beside a level. -/
def parse? (text : List Char) : Option Directive :=
  match text.dropWhile Text.isBlank with
  | [] => none
  | c :: _ =>
    if text.contains '[' || !isFirstChar c then none
    else
      match Text.splitOnce? '=' text with
      | none => some (((limit? text).map fun n => ⟨[], n⟩).getD ⟨text, 5⟩)
      | some (start, level) =>
        if (text.take 1).all Text.isBlank then none
        else if level.isEmpty then some ⟨start, 5⟩
        else (limit? level).map fun n => ⟨start, n⟩

end Directive

namespace Filter

def errorsOnly : Filter := [⟨[], 1⟩]

def parse? (text : String) : Option Filter :=
  if text.isEmpty then some errorsOnly
  else (Text.splitOn ',' text.toList).mapM Directive.parse?

/-- The filter that a text describes; one that describes none shows levels up to `info`. -/
def ofText (text : String) : Filter := (parse? text).getD [⟨[], 3⟩]

/-- The more specific directive; of equals the later one. -/
def better (best : Option Directive) (d : Directive) : Option Directive :=
  match best with
  | some b => if d.start.length < b.start.length then best else some d
  | none => some d

def deciding? (f : Filter) (target : String) : Option Directive :=
  (f.filter fun d => d.start.isPrefixOf target.toList).foldl better none

def shows (f : Filter) (l : Line) : Bool :=
  match f.deciding? l.target with
  | some d => l.level.rank ≤ d.limit
  | none => l.level.rank ≤ 1

end Filter

end RestGateway.Log
