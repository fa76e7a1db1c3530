import RestGateway.Text.Ascii
import RestGateway.Text.Ranges
import RestGateway.Text.Split

/-!
# Tables of characters

How the tables of Unicode 17.0 are written here. A table is a list of lines of words, and code points
are in hexadecimal. A word is a range of code points, or a range and the class it has. In a table of
texts a word gives the first code point of a row and the texts of the row, one for each code point:
`c0=e0*17` are 0x17 texts that go on from U+00E0, `fb00=66+66,66+69` are the texts ff and fi, and in
`100/2=101` the row has every second code point.
-/

set_option autoImplicit false

namespace RestGateway.Unicode

def code (digits : List Char) : Nat :=
  digits.foldl (fun n c => n * 16 + (Ascii.hexValue? c).getD 0) 0

def words (lines : List String) : List (List Char) :=
  lines.flatMap fun line => Text.splitOn ' ' line.toList

def parts (mark : Char) (word other : List Char) : List Char × List Char :=
  (Text.splitOnce? mark word).getD (word, other)

def range (word : List Char) : Nat × Nat :=
  let (low, high) := parts '-' word word
  (code low, code high)

def ranges (lines : List String) : List (Nat × Nat) := (words lines).map range

def classes (lines : List String) : List ((Nat × Nat) × Nat) :=
  (words lines).map fun word =>
    let (codes, number) := parts '=' word []
    (range codes, code number)

def classOf (table : List ((Nat × Nat) × Nat)) (n : Nat) : Nat :=
  ((table.find? fun entry => entry.1.1 ≤ n && n ≤ entry.1.2).map (·.2)).getD 0

/-- Texts that stand for code points, one for each code point from the first on. -/
structure Row where
  first : Nat
  step : Nat
  texts : List (List Nat)

/-- A text whose last code point is further on. -/
def advance (distance : Nat) : List Nat → List Nat
  | [] => []
  | [n] => [n + distance]
  | n :: rest => n :: advance distance rest

def texts (step : Nat) (word : List Char) : List (List Nat) :=
  let (text, count) := parts '*' word ['1']
  let codes := (Text.splitOn '+' text).map code
  (List.range (code count)).map fun i => advance (i * step) codes

def row (word : List Char) : Row :=
  let (keys, values) := parts '=' word []
  let (first, step) := parts '/' keys ['1']
  ⟨code first, code step, (Text.splitOn ',' values).flatMap (texts (code step))⟩

def rows (lines : List String) : List Row := (words lines).map row

def Row.textOf? (n : Nat) (row : Row) : Option (List Nat) :=
  if row.first ≤ n ∧ (n - row.first) % row.step = 0 then row.texts[(n - row.first) / row.step]?
  else none

def Row.codeOf? (text : List Nat) (row : Row) : Option Nat :=
  (row.texts.idxOf? text).map fun i => row.first + i * row.step

end RestGateway.Unicode
