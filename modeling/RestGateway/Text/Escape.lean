import RestGateway.Text.Ascii

/-!
# Escapes in double quotes

Between double quotes a backslash and the character after it belong together: a quote so marked
does not close the text.
-/

set_option autoImplicit false

namespace RestGateway.Text

def quotedBody? : List Char → Option (List Char × List Char)
  | [] => none
  | '"' :: rest => some ([], rest)
  | '\\' :: c :: rest => (quotedBody? rest).map fun r => ('\\' :: c :: r.1, r.2)
  | c :: rest => (quotedBody? rest).map fun r => (c :: r.1, r.2)

def escapes : List (Char × Char) :=
  [('b', '\x08'), ('t', '\t'), ('n', '\n'), ('f', '\x0c'), ('r', '\r'), ('"', '"'), ('\\', '\\')]

def charOfDigits? (digits : List Char) : Option Char := do
  let values ← digits.mapM Ascii.hexValue?
  let n := values.foldl (fun n d => n * 16 + d) 0
  if n.isValidChar then some (Char.ofNat n) else none

/-- Replaces the escapes; `none` where one is unknown or names no character. -/
def unescape? : List Char → Option (List Char)
  | [] => some []
  | '\\' :: 'u' :: a :: b :: c :: d :: rest => do
    some ((← charOfDigits? [a, b, c, d]) :: (← unescape? rest))
  | '\\' :: 'U' :: a :: b :: c :: d :: e :: f :: g :: h :: rest => do
    some ((← charOfDigits? [a, b, c, d, e, f, g, h]) :: (← unescape? rest))
  | '\\' :: c :: rest => do
    some ((← escapes.lookup c) :: (← unescape? rest))
  | '\\' :: [] => none
  | c :: rest => do
    some (c :: (← unescape? rest))

end RestGateway.Text
