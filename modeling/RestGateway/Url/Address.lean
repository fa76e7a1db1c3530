import RestGateway.Text.Ascii
import RestGateway.Text.Split

/-!
# Numeric hosts

IPv4 addresses are written in one to four numbers with a decimal, octal or hexadecimal base; the last
number fills the bytes that are left. IPv6 addresses have eight pieces, two colons stand for the
zeros between the pieces given, and the last two pieces may have the form of an IPv4 address.
-/

set_option autoImplicit false

namespace RestGateway.Url

def ofBase? (base : Nat) (cs : List Char) : Option Nat :=
  cs.foldl (fun n c => do
    let n ← n
    let d ← Ascii.hexValue? c
    if d < base then some (n * base + d) else none) (some 0)

/-- A number of an IPv4 address: base sixteen after `0x`, base eight after a zero. -/
def addressNumber? : List Char → Option Nat
  | [] => none
  | '0' :: 'x' :: ds => ofBase? 16 ds
  | '0' :: 'X' :: ds => ofBase? 16 ds
  | '0' :: d :: ds => ofBase? 8 (d :: ds)
  | ds => ofBase? 10 ds

/-- The parts of a domain, without an empty one after a final dot. -/
def addressParts (domain : List Char) : List (List Char) :=
  let parts := Text.splitOn '.' domain
  if 1 < parts.length ∧ parts.getLast? = some [] then parts.dropLast else parts

def endsInNumber (domain : List Char) : Bool :=
  match (addressParts domain).getLast? with
  | some last => (!last.isEmpty && last.all Ascii.isDigit) || (addressNumber? last).isSome
  | none => false

def ipv4? (domain : List Char) : Option Nat := do
  let numbers ← (addressParts domain).mapM addressNumber?
  let last ← numbers.getLast?
  let front := numbers.dropLast
  if front.length ≤ 3 ∧ front.all (· ≤ 255) ∧ last < Nat.pow 256 (4 - front.length) then
    some (front.foldl (fun n p => n * 256 + p) 0 * Nat.pow 256 (4 - front.length) + last)
  else none

def ipv4Text (n : Nat) : List Char :=
  let part (k : Nat) := Nat.toDigits 10 (n / Nat.pow 256 k % 256)
  part 3 ++ '.' :: part 2 ++ '.' :: part 1 ++ '.' :: part 0

def octet? (ds : List Char) : Option Nat :=
  if ds.isEmpty || !ds.all Ascii.isDigit || (ds.head? == some '0' && ds.length != 1) then none
  else
    let n := Ascii.ofDigits 0 ds
    if n ≤ 255 then some n else none

def dottedPieces? (cs : List Char) : Option (List Nat) := do
  match ← (Text.splitOn '.' cs).mapM octet? with
  | [a, b, c, d] => some [a * 256 + b, c * 256 + d]
  | _ => none

/-- The pieces of an IPv6 address so far, last one first, and how many of them came before the end
of the gap, where there is one. The gap counts as a piece. -/
structure Pieces where
  found : List Nat
  gap : Option Nat

def isHex (c : Char) : Bool := (Ascii.hexValue? c).isSome

/-- Each round takes a colon or a piece, so as many rounds as characters suffice. -/
def readPieces : Nat → Pieces → List Char → Option Pieces
  | _, p, [] => some p
  | 0, _, _ => none
  | fuel + 1, p, c :: cs =>
    if 8 ≤ p.found.length then none
    else if c = ':' then
      if p.gap.isSome then none
      else readPieces fuel ⟨0 :: p.found, some (p.found.length + 1)⟩ cs
    else
      let digits := ((c :: cs).takeWhile isHex).take 4
      let rest := (c :: cs).drop digits.length
      let piece := (ofBase? 16 digits).getD 0
      match rest with
      | '.' :: _ =>
        if digits.isEmpty ∨ 6 < p.found.length then none
        else (dottedPieces? (c :: cs)).map fun ps => ⟨ps.reverse ++ p.found, p.gap⟩
      | ':' :: d :: more =>
        if digits.isEmpty then none else readPieces fuel ⟨piece :: p.found, p.gap⟩ (d :: more)
      | [] => if digits.isEmpty then none else some ⟨piece :: p.found, p.gap⟩
      | _ => none

def ipv6? (cs : List Char) : Option (List Nat) := do
  let start : Option (Pieces × List Char) :=
    match cs with
    | ':' :: ':' :: rest => some (⟨[0], some 1⟩, rest)
    | ':' :: _ => none
    | _ => some (⟨[], none⟩, cs)
  let (p, rest) ← start
  let p ← readPieces cs.length p rest
  let found := p.found.reverse
  match p.gap with
  | some k => some (found.take k ++ List.replicate (8 - found.length) 0 ++ found.drop k)
  | none => if found.length = 8 then some found else none

def longestZeros (pieces : List Nat) : Nat × Nat :=
  (List.range pieces.length).foldl (fun best i =>
    let n := ((pieces.drop i).takeWhile (· == 0)).length
    if best.2 < n then (i, n) else best) (0, 0)

def hexPieces (pieces : List Nat) : List Char :=
  [':'].intercalate (pieces.map (Nat.toDigits 16))

/-- Two colons stand for the first longest run of at least two zeros. -/
def ipv6Text (pieces : List Nat) : List Char :=
  let (start, size) := longestZeros pieces
  if size < 2 then hexPieces pieces
  else hexPieces (pieces.take start) ++ ':' :: ':' :: hexPieces (pieces.drop (start + size))

end RestGateway.Url
