/-!
# Scanners over characters

A scanner takes what it needs from the front of a text and leaves the rest, or refuses the text.
Repetition is bounded by the text itself: a round that goes on has taken at least one character.
-/

set_option autoImplicit false

namespace RestGateway

abbrev Scan (α : Type) := StateT (List Char) Option α

namespace Scan

variable {α β σ : Type}

def refuse : Scan α := fun _ => none

def peek : Scan (Option Char) := fun cs => some (cs.head?, cs)

/-- Takes one character; only used where one has been seen. -/
def drop : Scan Unit := fun cs => some ((), cs.tail)

def skip (p : Char → Bool) : Scan Unit := fun cs => some ((), cs.dropWhile p)

def run (p : Char → Bool) : Scan (List Char) := fun cs => some (cs.takeWhile p, cs.dropWhile p)

def takes (word : List Char) : Scan Bool := fun cs =>
  if word.isPrefixOf cs then some (true, cs.drop word.length) else some (false, cs)

def expect (word : List Char) : Scan Unit := do
  if ← takes word then pure () else refuse

def loop (step : σ → Scan (σ ⊕ β)) : List Char → σ → Scan β
  | [], _ => refuse
  | _ :: guide, s => fun cs =>
    match step s cs with
    | none => none
    | some (.inl next, rest) => loop step guide next rest
    | some (.inr result, rest) => some (result, rest)

def repeatedly (step : σ → Scan (σ ⊕ β)) (s : σ) : Scan β :=
  fun cs => loop step (' ' :: cs) s cs

def whole (r : Scan α) (text : List Char) : Option α :=
  match r text with
  | some (a, []) => some a
  | _ => none

end Scan

end RestGateway
