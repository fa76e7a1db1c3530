import RestGateway.Config.Setting
import RestGateway.Decimal.Nearest
import RestGateway.Text.Escape
import RestGateway.Text.Scan
import RestGateway.Word

/-!
# Text and numbers in TOML

Text in double quotes has escapes, text in single quotes has none, and either may be written over
several lines between three quotes. Numbers are read from the longest run of characters that
numbers and words consist of.
-/

set_option autoImplicit false

namespace RestGateway.Config.Toml

def isBlank (c : Char) : Bool := c == ' ' || c == '\t'

def isControl (c : Char) : Bool := (c.toNat < 0x20 && c != '\t') || c.toNat == 0x7F

def ofBasic (body : List Char) : Option String := (Text.unescape? body).map String.ofList

def basicLine : Scan String := fun cs => do
  let (body, rest) ← Text.quotedBody? cs
  if body.any isControl then none else some (← ofBasic body, rest)

def literalLine : Scan String := do
  let body ← Scan.run (· != '\'')
  Scan.expect ['\'']
  if body.any isControl then Scan.refuse else pure (String.ofList body)

/-- Text up to three quotes; up to two more before them belong to the text. -/
def blockBody (quote : Char) (escaped : Bool) : List Char → Option (List Char × List Char)
  | [] => none
  | '\\' :: c :: rest =>
    if escaped then (blockBody quote escaped rest).map fun r => ('\\' :: c :: r.1, r.2)
    else (blockBody quote escaped (c :: rest)).map fun r => ('\\' :: r.1, r.2)
  | a :: rest =>
    if a = quote then
      match rest with
      | b :: c :: more =>
        if b = quote ∧ c = quote then
          let extra := (more.takeWhile (· == quote)).take 2
          some (extra, more.drop extra.length)
        else (blockBody quote escaped rest).map fun r => (a :: r.1, r.2)
      | _ => none
    else (blockBody quote escaped rest).map fun r => (a :: r.1, r.2)

def isSpace (c : Char) : Bool := isBlank c || c == '\n'

/-- Drops a backslash at the end of a line with the blanks and line ends after it; `joining` tells
that one has just been dropped. -/
def joinLines : Bool → List Char → List Char
  | _, [] => []
  | joining, c :: rest =>
    if joining && isSpace c then joinLines true rest
    else if c = '\\' then
      match rest with
      | [] => [c]
      | d :: more =>
        if isSpace d && (rest.dropWhile isBlank).head? == some '\n' then joinLines true (d :: more)
        else c :: d :: joinLines false more
    else c :: joinLines false rest

def block (quote : Char) (escaped : Bool) : Scan String := fun cs => do
  let start := if cs.head? = some '\n' then cs.drop 1 else cs
  let (body, rest) ← blockBody quote escaped start
  if body.any fun c => isControl c && c != '\n' then none
  else if escaped then some (← ofBasic (joinLines false body), rest)
  else some (String.ofList body, rest)

def text? : Scan (Option String) := do
  if ← Scan.takes ['"', '"', '"'] then some <$> block '"' true
  else if ← Scan.takes ['\'', '\'', '\''] then some <$> block '\'' false
  else if ← Scan.takes ['"'] then some <$> basicLine
  else if ← Scan.takes ['\''] then some <$> literalLine
  else pure none

/-- The digits of a number whose underscores each stand between two of them. -/
def joined? (isDigit : Char → Bool) (cs : List Char) : Option (List Char) :=
  let parts := Text.splitOn '_' cs
  if parts.all fun p => !p.isEmpty && p.all isDigit then some parts.flatten else none

def whole? (cs : List Char) : Option (List Char) :=
  match joined? Ascii.isDigit cs with
  | some ['0'] => some ['0']
  | some ('0' :: _) => none
  | r => r

def inWord (n : Int) : Option Setting := (Word.ofInt? n).map .signed

def toBase (base : Nat) (cs : List Char) : Option Setting := do
  let ds ← joined? (fun c => ((Ascii.hexValue? c).getD base) < base) cs
  inWord (ds.foldl (fun n d => n * base + (Ascii.hexValue? d).getD 0) 0)

def signed (negative : Bool) (n : Nat) : Int := if negative then -(n : Int) else n

def exponent? : List Char → Option (List Char)
  | '+' :: ds => joined? Ascii.isDigit ds
  | '-' :: ds => (joined? Ascii.isDigit ds).map ('-' :: ·)
  | ds => joined? Ascii.isDigit ds

def decimal (negative : Bool) (cs : List Char) : Option Setting := do
  let isMark (c : Char) : Bool := c == 'e' || c == 'E'
  let mantissa := cs.takeWhile fun c => !isMark c
  let exponent ← match cs.dropWhile fun c => !isMark c with
    | [] => some []
    | _ :: e => (exponent? e).map ('e' :: ·)
  match Text.splitOnce? '.' mantissa with
  | none =>
    let ds ← whole? mantissa
    if exponent.isEmpty then inWord (signed negative (Ascii.ofDigits 0 ds))
    else finite (← Decimal.read? (ds ++ exponent))
  | some (before, after) =>
    let ds ← whole? before
    let fraction ← joined? Ascii.isDigit after
    finite (← Decimal.read? (ds ++ '.' :: fraction ++ exponent))
where
  finite (x : Float) : Option Setting :=
    let y := if negative then -x else x
    if y == 1.0 / 0.0 then none else some (.float y)

def unsignedNumber (negative : Bool) (cs : List Char) : Option Setting :=
  if cs = "inf".toList then some (.float (if negative then -1.0 / 0.0 else 1.0 / 0.0))
  else if cs = "nan".toList then some (.float (0.0 / 0.0))
  else decimal negative cs

def word? : List Char → Option Setting
  | '0' :: 'x' :: ds => toBase 16 ds
  | '0' :: 'o' :: ds => toBase 8 ds
  | '0' :: 'b' :: ds => toBase 2 ds
  | '+' :: cs => unsignedNumber false cs
  | '-' :: cs => unsignedNumber true cs
  | cs =>
    if cs = "true".toList then some (.bool true)
    else if cs = "false".toList then some (.bool false)
    else unsignedNumber false cs

def isWordChar (c : Char) : Bool := c.isAlphanum || ['_', '+', '-', '.'].contains c

end RestGateway.Config.Toml
