import RestGateway.Text.Ascii
import RestGateway.Text.Utf8

/-!
# Percent encoding

Each part of a URL has a set of characters that are written as the hexadecimal digits of their bytes.
Controls and all characters beyond ASCII are in every set.
-/

set_option autoImplicit false

namespace RestGateway.Percent

def inControls (c : Char) : Bool := c.toNat < 0x20 || 0x7E < c.toNat

def inFragment (c : Char) : Bool := inControls c || [' ', '"', '<', '>', '`'].contains c

def inPath (c : Char) : Bool := inFragment c || ['#', '?', '\x7b', '\x7d'].contains c

def inUserInfo (c : Char) : Bool :=
  inPath c || ['/', ':', ';', '=', '@', '[', '\\', ']', '^', '|'].contains c

def inQuery (c : Char) : Bool := inControls c || [' ', '"', '#', '<', '>'].contains c

def inSpecialQuery (c : Char) : Bool := inQuery c || c == '\''

def hexDigit (n : Nat) : Char := (Nat.digitChar n).toUpper

def encodeByte (b : UInt8) : List Char :=
  ['%', hexDigit (b.toNat / 16), hexDigit (b.toNat % 16)]

def encodeChar (set : Char → Bool) (c : Char) : List Char :=
  if set c then (String.utf8EncodeChar c).flatMap encodeByte else [c]

def encode (set : Char → Bool) (cs : List Char) : List Char := cs.flatMap (encodeChar set)

def byteOfDigits? (a b : UInt8) : Option UInt8 :=
  if a < 0x80 ∧ b < 0x80 then
    match Ascii.hexValue? (Char.ofNat a.toNat), Ascii.hexValue? (Char.ofNat b.toNat) with
    | some x, some y => some (UInt8.ofNat (x * 16 + y))
    | _, _ => none
  else none

/-- The bytes that a text stands for; a percent sign without two digits stands for itself. -/
def decode : List UInt8 → List UInt8
  | [] => []
  | x :: a :: b :: more =>
    if x = 0x25 then
      match byteOfDigits? a b with
      | some y => y :: decode more
      | none => x :: decode (a :: b :: more)
    else x :: decode (a :: b :: more)
  | x :: rest => x :: decode rest

end RestGateway.Percent
