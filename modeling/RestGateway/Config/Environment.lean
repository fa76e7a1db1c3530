import RestGateway.Config.Setting
import RestGateway.Decimal.Nearest
import RestGateway.Text.Blank
import RestGateway.Text.Escape
import RestGateway.Text.Scan
import RestGateway.Text.Split
import RestGateway.Text.Utf8
import RestGateway.Word

/-!
# Settings in environment variables

A variable whose name starts with `SG_RESTFUL_`, in any case, sets the key that the rest of its name
spells, two underscores between levels. Values are words, numbers, quoted text, lists in brackets
and tables in braces; a value that is none of these is text as it stands.
-/

set_option autoImplicit false

namespace RestGateway.Config.Environment

abbrev Variables := List (String × String)

/-- The variables in a block of bytes, which ends each `name=value` by a zero. -/
def ofBlock (block : List UInt8) : Variables :=
  (Text.splitOn '\x00' (Utf8.lossy block).toList).filterMap fun entry =>
    (Text.splitOnce? '=' entry).map fun v => (String.ofList v.1, String.ofList v.2)

def isBlank (c : Char) : Bool := [' ', '\t', '\n', '\x0c', '\r'].contains c

def isPlain (c : Char) : Bool := !([',', '{', '}', '[', ']'].contains c)

def isKeyChar (c : Char) : Bool := c.isAlphanum || c == '_' || c == '-'

/-- An integer without sign below 2^64, or one with its sign of 64 bits. -/
def integer? (cs : List Char) : Option Setting :=
  match cs, Ascii.integer? cs with
  | '-' :: _, some n => (Word.ofInt? n).map .signed
  | _, some n => if n < UInt64.size then some (.unsigned n.toNat) else none
  | _, none => none

/-- Text without quotes, which may be a number; a float has a point. -/
def plain (text : List Char) : Setting :=
  let float? := if text.contains '.' then (Decimal.read? text).map Setting.float else none
  (float?.orElse fun _ => integer? text).getD (.string (String.ofList text))

def quoted : Scan String := fun cs => do
  let (body, rest) ← Text.quotedBody? cs
  some (String.ofList (← Text.unescape? body), rest)

def key : Scan String := do
  if ← Scan.takes ['"'] then quoted
  else
    let name ← Scan.run isKeyChar
    if name.isEmpty then Scan.refuse else pure (String.ofList name)

def itemsUpTo {α : Type} (close : Char) (item : Scan α) : Scan (List α) :=
  Scan.repeatedly (fun (done : List α) => do
    if ← Scan.takes [close] then pure (.inr done.reverse)
    else
      let a ← item
      if ← Scan.takes [','] then pure (.inl (a :: done))
      else
        Scan.expect [close]
        pure (.inr (a :: done).reverse)) []

def pair (value : Scan Setting) : Scan (String × Setting) := do
  Scan.skip isBlank
  let k ← key
  Scan.skip isBlank
  Scan.expect ['=']
  pure (k, ← value)

def bareValue (inner : Scan Setting) : Scan Setting := do
  if ← Scan.takes "true".toList then pure (.bool true)
  else if ← Scan.takes "false".toList then pure (.bool false)
  else if ← Scan.takes ['{'] then
    let pairs ← itemsUpTo '}' (pair inner)
    pure (.table (pairs.foldl (fun es p => Setting.put p.1 p.2 es) []))
  else if ← Scan.takes ['['] then
    Setting.list <$> itemsUpTo ']' inner
  else if ← Scan.takes ['"'] then
    Setting.string <$> quoted
  else
    let text ← Scan.run isPlain
    pure (plain (Text.trim text))

def value : Nat → Scan Setting
  | 0 => Scan.refuse
  | depth + 1 => do
    Scan.skip isBlank
    let s ← bareValue (value depth)
    Scan.skip isBlank
    pure s

def parse (text : String) : Setting :=
  ((value (text.length + 1)).whole text.toList).getD (.string text)

def namePrefix : List Char := "sg_restful_".toList

def levels : List Char → List (List Char)
  | [] => [[]]
  | '_' :: '_' :: rest => [] :: levels rest
  | '.' :: rest => [] :: levels rest
  | c :: rest =>
    match levels rest with
    | part :: parts => (c :: part) :: parts
    | [] => [[c]]

/-- The key that a variable sets, in lower case; no part of it is empty. -/
def path? (name : String) : Option (List String) :=
  let cs := Ascii.lower (Text.trim name.toList)
  if namePrefix.isPrefixOf cs then
    let parts := levels (cs.drop namePrefix.length)
    if parts.any List.isEmpty then none else some (parts.map String.ofList)
  else none

/-- What the variables set; of two that set one key the later one counts. -/
def settings (env : Variables) : Setting :=
  env.foldl (fun s v =>
    match path? v.1 with
    | some path => s.overlaid ((parse v.2).nest path)
    | none => s) (.table [])

end RestGateway.Config.Environment
