import RestGateway.Json.Reader

/-!
# Strings in JSON text

Both readers begin after the opening quote. `string` gives the text; `skipString` only looks for the
closing quote and asks no more than that escapes are well formed.
-/

set_option autoImplicit false

namespace RestGateway.Json.Reader

def hexDigit? (b : UInt8) : Option Nat :=
  if b.toNat < 0x80 then Ascii.hexValue? (Char.ofNat b.toNat) else none

/-- Four hexadecimal digits; with fewer bytes left all of them are taken. -/
def hexQuad : Reader Nat := fun bs =>
  match bs with
  | a :: b :: c :: d :: rest =>
    match hexDigit? a, hexDigit? b, hexDigit? c, hexDigit? d with
    | some w, some x, some y, some z => .ok (((w * 16 + x) * 16 + y) * 16 + z, rest)
    | _, _, _, _ => .error ⟨.invalidEscape, rest, false, 0⟩
  | _ => .error ⟨.endOfString, [], false, 0⟩

def pairMark (b : UInt8) : Reader Unit := fun bs =>
  match bs with
  | [] => .error ⟨.endOfString, [], false, 0⟩
  | x :: rest => if x = b then .ok ((), rest) else .error ⟨.cutSurrogate, rest, false, 0⟩

/-- The character of a `\u` escape, which may span two of them. -/
def unicodeEscape : Reader Char := do
  let n ← hexQuad
  if 0xDC00 ≤ n ∧ n ≤ 0xDFFF then fail .loneSurrogate
  else if 0xD800 ≤ n ∧ n ≤ 0xDBFF then
    pairMark 0x5C
    pairMark 0x75
    let m ← hexQuad
    if 0xDC00 ≤ m ∧ m ≤ 0xDFFF then
      pure (Char.ofNat (0x10000 + (n - 0xD800) * 0x400 + (m - 0xDC00)))
    else fail .loneSurrogate
  else pure (Char.ofNat n)

def shortEscape? (b : UInt8) : Option Char :=
  if b = 0x22 then some '"'
  else if b = 0x5C then some '\\'
  else if b = 0x2F then some '/'
  else if b = 0x62 then some '\x08'
  else if b = 0x66 then some '\x0c'
  else if b = 0x6E then some '\n'
  else if b = 0x72 then some '\r'
  else if b = 0x74 then some '\t'
  else none

def escape : Reader Char := fun bs =>
  match bs with
  | [] => .error ⟨.endOfString, [], false, 0⟩
  | b :: rest =>
    match shortEscape? b with
    | some c => .ok (c, rest)
    | none => if b = 0x75 then unicodeEscape rest else .error ⟨.invalidEscape, rest, false, 0⟩

/-- One byte or escape of a string; `acc` holds the bytes before it, last one first. -/
def stringStep (acc : List UInt8) : Reader (List UInt8 ⊕ List UInt8) := fun bs =>
  match bs with
  | [] => .error ⟨.endOfString, [], false, 0⟩
  | b :: rest =>
    if b = 0x22 then .ok (.inr acc.reverse, rest)
    else if b = 0x5C then
      match escape rest with
      | .error f => .error f
      | .ok (c, more) => .ok (.inl ((String.utf8EncodeChar c).reverse ++ acc), more)
    else if b < 0x20 then .error ⟨.controlInString, rest, false, 0⟩
    else .ok (.inl (b :: acc), rest)

def string : Reader String := do
  let raw ← repeatedly stringStep []
  match Utf8.string? raw with
  | some s => pure s
  | none => fun bs => .error ⟨.notUnicode, bs, false, raw.length - Utf8.validLength raw⟩

def skipEscape : Reader Unit := fun bs =>
  match bs with
  | [] => .error ⟨.endOfString, [], false, 0⟩
  | b :: rest =>
    if (shortEscape? b).isSome then .ok ((), rest)
    else if b = 0x75 then
      match hexQuad rest with
      | .error f => .error f
      | .ok (_, more) => .ok ((), more)
    else .error ⟨.invalidEscape, rest, false, 0⟩

def skipStringStep (_ : Unit) : Reader (Unit ⊕ Unit) := fun bs =>
  match bs with
  | [] => .error ⟨.endOfString, [], false, 0⟩
  | b :: rest =>
    if b = 0x22 then .ok (.inr (), rest)
    else if b = 0x5C then
      match skipEscape rest with
      | .error f => .error f
      | .ok (_, more) => .ok (.inl (), more)
    else if b < 0x20 then .error ⟨.controlInString, b :: rest, false, 0⟩
    else .ok (.inl (), rest)

def skipString : Reader Unit := repeatedly skipStringStep ()

end RestGateway.Json.Reader
