import RestGateway.Json.Basic
import RestGateway.Decimal.Layout
import RestGateway.Text.Ascii
import RestGateway.Text.Utf8

/-!
# Compact JSON text

No blanks between tokens. In strings only the quote, the backslash and the controls below U+0020
are escaped.
-/

set_option autoImplicit false

namespace RestGateway

/-- Floats are positional from `1e-5` up to `1e16`, and always show that they are no integers. -/
def Number.layout : Decimal.Layout where
  least := -5
  greatest := 15
  wholeSuffix := ['.', '0']
  plusInExponent := true
  zero := ['0', '.', '0']
  notFinite := fun _ => ['n', 'u', 'l', 'l']

def Number.integerText (n : Int) : List Char :=
  if n < 0 then '-' :: Nat.toDigits 10 n.natAbs else Nat.toDigits 10 n.natAbs

def Number.text : Number → List Char
  | .int n => integerText n
  | .float x => layout.write x

namespace Json

def escape (c : Char) : List Char :=
  if c = '"' then ['\\', '"']
  else if c = '\\' then ['\\', '\\']
  else if c = '\x08' then ['\\', 'b']
  else if c = '\t' then ['\\', 't']
  else if c = '\n' then ['\\', 'n']
  else if c = '\x0c' then ['\\', 'f']
  else if c = '\r' then ['\\', 'r']
  else if c.toNat < 0x20 then '\\' :: 'u' :: Ascii.digits 16 4 c.toNat
  else [c]

def quote (s : String) : List Char :=
  '"' :: s.toList.flatMap escape ++ ['"']

mutual

def chars : Json → List Char
  | .null => ['n', 'u', 'l', 'l']
  | .bool true => ['t', 'r', 'u', 'e']
  | .bool false => ['f', 'a', 'l', 's', 'e']
  | .number n => n.text
  | .string s => quote s
  | .list items => '[' :: charsOfItems items ++ [']']
  | .object members => '{' :: charsOfMembers members ++ ['}']

def charsOfItems : List Json → List Char
  | [] => []
  | [v] => chars v
  | v :: w :: rest => chars v ++ ',' :: charsOfItems (w :: rest)

def charsOfMembers : List (String × Json) → List Char
  | [] => []
  | [(k, v)] => quote k ++ ':' :: chars v
  | (k, v) :: m :: rest => quote k ++ ':' :: chars v ++ ',' :: charsOfMembers (m :: rest)

end

def text (v : Json) : String := String.ofList (chars v)

def bytes (v : Json) : List UInt8 := Utf8.encode (chars v)

end Json

end RestGateway
