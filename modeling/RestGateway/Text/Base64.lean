/-!
# Base64

The standard alphabet with padding, both written and read in their one canonical form: the last
group is padded to four symbols and its unused bits are zero. A fault names the offset of the symbol
in the text.
-/

set_option autoImplicit false

namespace RestGateway.Base64

inductive Fault where
  | symbol (b : UInt8) (offset : Nat)
  | length (n : Nat)
  | padding
  | lastSymbol (b : UInt8) (offset : Nat)
  deriving DecidableEq, Repr

def Fault.message : Fault → String
  | .symbol b i => "Invalid symbol " ++ toString b.toNat ++ ", offset " ++ toString i ++ "."
  | .length n => "Invalid input length: " ++ toString n
  | .padding => "Invalid padding"
  | .lastSymbol b i =>
    "Invalid last symbol " ++ toString b.toNat ++ ", offset " ++ toString i ++ "."

def symbol (n : Nat) : UInt8 :=
  UInt8.ofNat <|
    if n < 26 then 0x41 + n
    else if n < 52 then 0x61 + (n - 26)
    else if n < 62 then 0x30 + (n - 52)
    else if n = 62 then 0x2B
    else 0x2F

def value? (b : UInt8) : Option Nat :=
  let n := b.toNat
  if 0x41 ≤ n ∧ n ≤ 0x5A then some (n - 0x41)
  else if 0x61 ≤ n ∧ n ≤ 0x7A then some (n - 0x61 + 26)
  else if 0x30 ≤ n ∧ n ≤ 0x39 then some (n - 0x30 + 52)
  else if n = 0x2B then some 62
  else if n = 0x2F then some 63
  else none

def pad : UInt8 := 0x3D

def encode : List UInt8 → List UInt8
  | a :: b :: c :: rest =>
    let n := (a.toNat * 256 + b.toNat) * 256 + c.toNat
    symbol (n / 262144) :: symbol (n / 4096 % 64) :: symbol (n / 64 % 64) :: symbol (n % 64) ::
      encode rest
  | [a, b] =>
    let n := (a.toNat * 256 + b.toNat) * 4
    [symbol (n / 4096), symbol (n / 64 % 64), symbol (n % 64), pad]
  | [a] =>
    let n := a.toNat * 16
    [symbol (n / 64), symbol (n % 64), pad, pad]
  | [] => []

def valueAt (b : UInt8) (offset : Nat) : Except Fault Nat :=
  match value? b with
  | some n => .ok n
  | none => .error (.symbol b offset)

/-- The last group as far as it has been read: its values and symbols, last one first, and how much
padding followed them. -/
structure Tail where
  values : List Nat
  last : UInt8
  padding : Nat

/-- Reads the symbols of the last group. Padding may take the third and fourth place only, and
nothing may follow it. -/
def readTail (start : Nat) (t : Tail) : List UInt8 → Except Fault Tail
  | [] => .ok t
  | b :: rest =>
    let place := t.values.length + t.padding
    if b = pad then
      if place < 2 then .error (.symbol b (start + place))
      else readTail start { t with padding := t.padding + 1 } rest
    else if t.padding ≠ 0 then .error (.symbol pad (start + t.values.length))
    else
      match valueAt b (start + place) with
      | .error f => .error f
      | .ok n => readTail start ⟨n :: t.values, b, 0⟩ rest

def decodeTail (start : Nat) (text : List UInt8) : Except Fault (List UInt8) := do
  let t ← readTail start ⟨[], pad, 0⟩ text
  let count := t.values.length
  if text.isEmpty then .ok []
  else if count < 2 then .error (.length (start + count))
  else if (count + t.padding) % 4 ≠ 0 then .error .padding
  else
    match t.values.reverse with
    | [a, b] =>
      if b % 16 = 0 then .ok [UInt8.ofNat (a * 4 + b / 16)]
      else .error (.lastSymbol t.last (start + 1))
    | [a, b, c] =>
      if c % 4 = 0 then
        let n := (a * 64 + b) * 16 + c / 4
        .ok [UInt8.ofNat (n / 256), UInt8.ofNat n]
      else .error (.lastSymbol t.last (start + 2))
    | [a, b, c, d] =>
      let n := ((a * 64 + b) * 64 + c) * 64 + d
      .ok [UInt8.ofNat (n / 65536), UInt8.ofNat (n / 256), UInt8.ofNat n]
    | _ => .error .padding

def decodeFrom (start : Nat) : List UInt8 → Except Fault (List UInt8)
  | a :: b :: c :: d :: e :: rest => do
    let w ← valueAt a start
    let x ← valueAt b (start + 1)
    let y ← valueAt c (start + 2)
    let z ← valueAt d (start + 3)
    let n := ((w * 64 + x) * 64 + y) * 64 + z
    let more ← decodeFrom (start + 4) (e :: rest)
    .ok (UInt8.ofNat (n / 65536) :: UInt8.ofNat (n / 256) :: UInt8.ofNat n :: more)
  | text => decodeTail start text

/-- A foreign last byte that leaves no whole group is reported before all else. -/
def decode (text : List UInt8) : Except Fault (List UInt8) :=
  match text.getLast? with
  | some b =>
    if text.length % 4 = 1 ∧ b ≠ pad ∧ (value? b).isNone then
      .error (.symbol b (text.length - 1))
    else decodeFrom 0 text
  | none => .ok []

end RestGateway.Base64
