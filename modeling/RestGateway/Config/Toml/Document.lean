import RestGateway.Config.Toml.Moment
import RestGateway.Config.Toml.Scalar
import RestGateway.Config.Toml.Table

/-!
# TOML documents

A document is a sequence of lines: headers that open tables, and keys with their values in the table
opened last.
-/

set_option autoImplicit false

namespace RestGateway.Config.Toml

/-- How deep lists and inline tables go. -/
def levels : Nat := 79

def isBareChar (c : Char) : Bool := c.isAlphanum || c == '_' || c == '-'

def comment : Scan Unit := do
  let text ← Scan.run (· != '\n')
  if text.any isControl then Scan.refuse else pure ()

def endOfLine : Scan Unit := do
  Scan.skip isBlank
  if ← Scan.takes ['#'] then comment
  match ← Scan.peek with
  | none => pure ()
  | some c => if c = '\n' then Scan.drop else Scan.refuse

def skipLines : Scan Unit :=
  Scan.repeatedly (fun _ => do
    Scan.skip isSpace
    if ← Scan.takes ['#'] then
      comment
      pure (.inl ())
    else pure (.inr ())) ()

def bareKey : Scan String := do
  let name ← Scan.run isBareChar
  if name.isEmpty then Scan.refuse else pure (String.ofList name)

def keyPart : Scan String := do
  if ← Scan.takes ['"'] then basicLine
  else if ← Scan.takes ['\''] then literalLine
  else bareKey

def simpleKey : Scan String := do
  Scan.skip isBlank
  let key ← keyPart
  Scan.skip isBlank
  pure key

def key : Scan (List String × String) := do
  let start ← simpleKey
  Scan.repeatedly (fun (s : List String × String) => do
    if ← Scan.takes ['.'] then
      let next ← simpleKey
      pure (.inl (s.1 ++ [s.2], next))
    else pure (.inr s)) ([], start)

def assignment (value : Scan Setting) : Scan (List String × String × Setting) := do
  let (path, last) ← key
  Scan.expect ['=']
  Scan.skip isBlank
  pure (path, last, ← value)

def items (value : Scan Setting) : Scan (List Setting) :=
  Scan.repeatedly (fun (done : List Setting) => do
    skipLines
    if ← Scan.takes [']'] then pure (.inr done.reverse)
    else
      let s ← value
      skipLines
      if ← Scan.takes [','] then pure (.inl (s :: done))
      else
        Scan.expect [']']
        pure (.inr (s :: done).reverse)) []

def define (ns : Nodes) (value : Scan Setting) : Scan Nodes := do
  let (path, last, s) ← assignment value
  match ns.assign path last s with
  | some ns => pure ns
  | none => Scan.refuse

def inlineTable (value : Scan Setting) : Scan Setting := do
  Scan.skip isBlank
  if ← Scan.takes ['}'] then pure (.table [])
  else
    Scan.repeatedly (fun (ns : Nodes) => do
      let ns ← define ns value
      Scan.skip isBlank
      if ← Scan.takes [','] then pure (.inl ns)
      else
        Scan.expect ['}']
        pure (.inr (.table (settingsOf ns)))) []

/-- A date or a time is a table of its text. -/
def ofMoment (text : List Char) : Setting :=
  .table [("$__toml_private_datetime", .string (String.ofList text))]

/-- A value whose lists and inline tables hold what `inner` reads; without it there are none. -/
def valueWith (inner : Option (Scan Setting)) : Scan Setting := do
  match ← text? with
  | some s => pure (.string s)
  | none =>
    if ← Scan.takes ['['] then
      match inner with
      | some r => Setting.list <$> items r
      | none => Scan.refuse
    else if ← Scan.takes ['{'] then
      match inner with
      | some r => inlineTable r
      | none => Scan.refuse
    else
      match ← moment? with
      | some text => pure (ofMoment text)
      | none =>
        let word ← Scan.run isWordChar
        fun rest => (word? word).map fun s => (s, rest)

def value : Nat → Scan Setting
  | 0 => valueWith none
  | depth + 1 => valueWith (some (value depth))

structure Draft where
  nodes : Nodes
  current : List String

def Draft.open? (d : Draft) (path : List String) (last : String)
    (create : String → Nodes → Option Nodes) : Scan Draft := fun rest => do
  some (⟨← Nodes.inside (create last) path d.nodes, path ++ [last]⟩, rest)

def header (d : Draft) : Scan Draft := do
  if ← Scan.takes ['['] then
    let (path, last) ← key
    Scan.expect [']', ']']
    d.open? path last Nodes.openItem
  else
    let (path, last) ← key
    Scan.expect [']']
    d.open? path last Nodes.openTable

def definition (d : Draft) : Scan Draft := do
  let (path, last, s) ← assignment (value levels)
  fun rest => do
    some ({ d with nodes := ← Nodes.inside (Nodes.assign path last s) d.current d.nodes }, rest)

def statement (d : Draft) (c : Char) : Scan Draft := do
  if c = '[' then
    Scan.drop
    header d
  else definition d

def line (d : Draft) : Scan (Draft ⊕ Setting) := do
  skipLines
  match ← Scan.peek with
  | none => pure (.inr (.table (settingsOf d.nodes)))
  | some c =>
    let d ← statement d c
    endOfLine
    pure (.inl d)

/-- A line end may be written with a carriage return before it. -/
def withoutReturns : List Char → List Char
  | [] => []
  | '\r' :: '\n' :: rest => '\n' :: withoutReturns rest
  | c :: rest => c :: withoutReturns rest

def withoutMark : List Char → List Char
  | '\uFEFF' :: rest => rest
  | cs => cs

def parse? (document : String) : Option Setting :=
  (Scan.repeatedly line ⟨[], []⟩).whole (withoutReturns (withoutMark document.toList))

end RestGateway.Config.Toml
