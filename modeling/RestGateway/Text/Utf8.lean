/-!
# UTF-8

Characters as bytes and bytes as characters. Bytes are read one at a time by `feed`, which cuts any
byte list into pieces: a piece is a character, or `none` for a longest run of bytes that some
character could have started with but that no character is. The strict reading wants characters
only, the lossy one shows each other piece as U+FFFD.
-/

set_option autoImplicit false

namespace RestGateway.Utf8

def encode (cs : List Char) : List UInt8 :=
  cs.flatMap String.utf8EncodeChar

@[simp] theorem encode_nil : encode [] = [] := rfl

@[simp] theorem encode_append (a b : List Char) : encode (a ++ b) = encode a ++ encode b := by
  simp [encode]

@[simp] theorem encode_cons (c : Char) (s : List Char) :
    encode (c :: s) = String.utf8EncodeChar c ++ encode s := by
  simp [encode]

def bytes (s : String) : List UInt8 := encode s.toList

/-- A character that has begun: the number read so far, the range of the byte that must come next
and how many bytes follow that one. -/
structure Begun where
  value : Nat
  low : Nat
  high : Nat
  more : Nat
  deriving DecidableEq, Repr

abbrev Piece := Option Char

inductive Lead where
  | whole (c : Char)
  | begins (p : Begun)
  | stray
  deriving DecidableEq, Repr

/-- What a byte between characters means. The bounds on the second byte keep out overlong forms,
surrogates and numbers above U+10FFFF. -/
def lead (b : UInt8) : Lead :=
  let n := b.toNat
  if n < 0x80 then .whole (Char.ofNat n)
  else if n < 0xC2 then .stray
  else if n < 0xE0 then .begins ⟨n - 0xC0, 0x80, 0xBF, 0⟩
  else if n < 0xF0 then
    .begins ⟨n - 0xE0, if n = 0xE0 then 0xA0 else 0x80, if n = 0xED then 0x9F else 0xBF, 1⟩
  else if n < 0xF5 then
    .begins ⟨n - 0xF0, if n = 0xF0 then 0x90 else 0x80, if n = 0xF4 then 0x8F else 0xBF, 2⟩
  else .stray

structure Reading where
  begun : Option Begun
  done : List Piece

def Reading.between (done : List Piece) (b : UInt8) : Reading :=
  match lead b with
  | .whole c => ⟨none, some c :: done⟩
  | .begins p => ⟨some p, done⟩
  | .stray => ⟨none, none :: done⟩

def Reading.feed (r : Reading) (b : UInt8) : Reading :=
  match r.begun with
  | none => .between r.done b
  | some p =>
    let n := b.toNat
    if p.low ≤ n ∧ n ≤ p.high then
      match p.more with
      | 0 => ⟨none, some (Char.ofNat (p.value * 64 + (n - 0x80))) :: r.done⟩
      | more + 1 => ⟨some ⟨p.value * 64 + (n - 0x80), 0x80, 0xBF, more⟩, r.done⟩
    else .between (none :: r.done) b

def Reading.finish (r : Reading) : List Piece :=
  match r.begun with
  | none => r.done.reverse
  | some _ => (none :: r.done).reverse

def pieces (bs : List UInt8) : List Piece :=
  (bs.foldl Reading.feed ⟨none, []⟩).finish

def decode? (bs : List UInt8) : Option (List Char) :=
  let ps := pieces bs
  if ps.all Option.isSome then some (ps.filterMap id) else none

def string? (bs : List UInt8) : Option String :=
  (decode? bs).map String.ofList

/-- One U+FFFD for each ill-formed piece. -/
def lossy (bs : List UInt8) : String :=
  String.ofList ((pieces bs).map (·.getD '\uFFFD'))

def validLength (bs : List UInt8) : Nat :=
  (encode (((pieces bs).takeWhile Option.isSome).filterMap id)).length

end RestGateway.Utf8
