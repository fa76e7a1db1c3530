import RestGateway.Text.Ascii

/-!
# Punycode

Labels beyond ASCII as ASCII text: the ASCII characters first, then a number for each other character
in ascending order, which tells how far to go on from the last insertion. The numbers are written
with digits of a base of 36 and thresholds that adapt to their size.
-/

set_option autoImplicit false

namespace RestGateway.Punycode

def digit (n : Nat) : Char :=
  if n < 26 then Char.ofNat ('a'.toNat + n) else Char.ofNat ('0'.toNat + (n - 26))

def value? (c : Char) : Option Nat :=
  if 'a' ≤ c ∧ c ≤ 'z' then some (c.toNat - 'a'.toNat)
  else if 'A' ≤ c ∧ c ≤ 'Z' then some (c.toNat - 'A'.toNat)
  else if '0' ≤ c ∧ c ≤ '9' then some (c.toNat - '0'.toNat + 26)
  else none

def threshold (k bias : Nat) : Nat := if k ≤ bias then 1 else if bias + 26 ≤ k then 26 else k - bias

/-- Divides by 35 until at most 455 is left; ten steps are enough for 32 bits. -/
def adaptLoop : Nat → Nat → Nat → Nat
  | 0, delta, k => k + 36 * delta / (delta + 38)
  | fuel + 1, delta, k =>
    if 455 < delta then adaptLoop fuel (delta / 35) (k + 36) else k + 36 * delta / (delta + 38)

def adapt (delta count : Nat) (initial : Bool) : Nat :=
  let delta := if initial then delta / 700 else delta / 2
  adaptLoop 10 (delta + delta / count) 0

/-- The digits of a number, least significant first. A step leaves less of it, so the number itself
bounds them. -/
def encodeNumber (bias : Nat) : Nat → Nat → Nat → List Char
  | 0, _, _ => []
  | fuel + 1, k, q =>
    let t := threshold k bias
    if q < t then [digit q]
    else digit (t + (q - t) % (36 - t)) :: encodeNumber bias fuel (k + 36) ((q - t) / (36 - t))

structure Encoder where
  next : Nat
  delta : Nat
  bias : Nat
  handled : Nat
  output : List Char

def Encoder.step (basic m : Nat) (e : Encoder) (c : Char) : Encoder :=
  if c.toNat < m then { e with delta := e.delta + 1 }
  else if c.toNat = m then
    { e with
      output := e.output ++ encodeNumber e.bias (e.delta + 1) 36 e.delta
      bias := adapt e.delta (e.handled + 1) (e.handled == basic)
      delta := 0
      handled := e.handled + 1 }
  else e

def encodeRound (basic : Nat) (label : List Char) (m : Nat) (e : Encoder) : Encoder :=
  let e := { e with delta := e.delta + (m - e.next) * (e.handled + 1), next := m }
  let e := label.foldl (Encoder.step basic m) e
  { e with delta := e.delta + 1, next := e.next + 1 }

def encode (label : List Char) : List Char :=
  let basic := label.filter fun c => c.toNat < 0x80
  let others := ((label.map Char.toNat).filter (0x80 ≤ ·)).mergeSort.eraseDups
  let start := basic ++ if basic.isEmpty then [] else ['-']
  (others.foldl (fun e m => encodeRound basic.length label m e)
    ⟨0x80, 0, 72, basic.length, start⟩).output

def decodeNumber (bias : Nat) : Nat → Nat → Nat → List Char → Option (Nat × List Char)
  | _, _, _, [] => none
  | k, weight, i, c :: rest => do
    let d ← value? c
    let i := i + d * weight
    let t := threshold k bias
    if d < t then some (i, rest) else decodeNumber bias (k + 36) (weight * (36 - t)) i rest

def decodeLoop : Nat → Nat → Nat → Nat → List Char → List Char → Option (List Char)
  | _, _, _, _, label, [] => some label
  | 0, _, _, _, _, _ => none
  | fuel + 1, n, i, bias, label, text => do
    let (j, rest) ← decodeNumber bias 36 1 i text
    let count := label.length + 1
    let n := n + j / count
    if (0xD800 ≤ n ∧ n ≤ 0xDFFF) ∨ 0x10FFFF < n then none
    else
      let place := j % count
      decodeLoop fuel n (place + 1) (adapt (j - i) count (i == 0 && n == 0x80 + j / count))
        (label.take place ++ Char.ofNat n :: label.drop place) rest

/-- The label of a text; what precedes the last hyphen is ASCII. -/
def decode? (text : List Char) : Option (List Char) :=
  let tail := (text.reverse.takeWhile (· != '-')).reverse
  let basic := text.take (text.length - tail.length - 1)
  decodeLoop tail.length 0x80 0 72 basic tail

end RestGateway.Punycode
