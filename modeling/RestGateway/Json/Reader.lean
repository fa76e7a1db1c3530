import RestGateway.Json.Fault

/-!
# Readers over bytes

A reader takes what it needs from the front of the input and leaves the rest, or fails with a fault.
Repetition goes through `repeatedly`: a round that goes on has taken at least one byte, so the input
itself bounds the number of rounds.
-/

set_option autoImplicit false

namespace RestGateway.Json

abbrev Reader (α : Type) := StateT (List UInt8) (Except Fault) α

namespace Reader

variable {α β σ : Type}

def fail (c : Cause) : Reader α := fun bs => .error ⟨c, bs, false, 0⟩

def failAhead (c : Cause) : Reader α := fun bs => .error ⟨c, bs, true, 0⟩

def isBlank (b : UInt8) : Bool := b == 0x20 || b == 0x0A || b == 0x0D || b == 0x09

def isDigit (b : UInt8) : Bool := 0x30 ≤ b && b ≤ 0x39

def first : Reader (Option UInt8) := fun bs =>
  let rest := bs.dropWhile isBlank
  .ok (rest.head?, rest)

/-- Takes one byte; only used where one has been seen. -/
def drop : Reader Unit := fun bs => .ok ((), bs.tail)

def begin : Reader UInt8 := do
  match ← first with
  | some b => pure b
  | none => failAhead .endOfValue

def loop (step : σ → Reader (σ ⊕ β)) : List UInt8 → σ → Reader β
  | [], _ => fail .endOfValue
  | _ :: guide, s => fun bs =>
    match step s bs with
    | .error f => .error f
    | .ok (.inl next, rest) => loop step guide next rest
    | .ok (.inr result, rest) => .ok (result, rest)

def repeatedly (step : σ → Reader (σ ⊕ β)) (s : σ) : Reader β :=
  fun bs => loop step (0 :: bs) s bs

def whole (r : Reader α) (input : List UInt8) : Except Fault α :=
  match r input with
  | .error f => .error f
  | .ok (a, rest) =>
    match rest.dropWhile isBlank with
    | [] => .ok a
    | b :: more => .error ⟨.textAfter, b :: more, true, 0⟩

def keyword : List UInt8 → Reader Unit
  | [] => pure ()
  | k :: ks => fun bs =>
    match bs with
    | [] => .error ⟨.endOfValue, [], false, 0⟩
    | b :: rest => if b = k then keyword ks rest else .error ⟨.keywordExpected, rest, false, 0⟩

def restOfNull : List UInt8 := [0x75, 0x6C, 0x6C]
def restOfTrue : List UInt8 := [0x72, 0x75, 0x65]
def restOfFalse : List UInt8 := [0x61, 0x6C, 0x73, 0x65]

end Reader

end RestGateway.Json
