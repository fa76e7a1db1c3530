import RestGateway.Json.StringReader
import RestGateway.Json.NumberReader

/-!
# Values in JSON text

Lists and objects may be nested to a limited depth. A reader of a list or object is given what
reads its elements, or nothing when no further level may be opened. `skip` passes over a value of
any depth.
-/

set_option autoImplicit false

namespace RestGateway.Json.Reader

variable {α : Type}

def scalar? (b : UInt8) : Option (Reader Json) :=
  if b = 0x6E then some do
    drop
    keyword restOfNull
    pure .null
  else if b = 0x74 then some do
    drop
    keyword restOfTrue
    pure (.bool true)
  else if b = 0x66 then some do
    drop
    keyword restOfFalse
    pure (.bool false)
  else if b = 0x22 then some do
    drop
    pure (.string (← string))
  else if b = 0x2D then some do
    drop
    pure (.number (← number true))
  else if isDigit b then some do pure (.number (← number false))
  else none

def hasElement (initial : Bool) : Reader Bool := do
  match ← first with
  | none => failAhead .endOfList
  | some b =>
    if b = 0x5D then pure false
    else if initial then pure true
    else if b = 0x2C then
      drop
      match ← first with
      | none => failAhead .endOfValue
      | some c => if c = 0x5D then failAhead .commaLast else pure true
    else failAhead .listGoesOn

def listStep (item : Reader α) (acc : List α) : Reader (List α ⊕ List α) := do
  if ← hasElement acc.isEmpty then
    let a ← item
    pure (.inl (a :: acc))
  else
    drop
    pure (.inr acc.reverse)

def listOf : Option (Reader α) → Reader (List α)
  | none => failAhead .tooDeep
  | some item => do
    drop
    repeatedly (listStep item) []

def memberName? (initial : Bool) : Reader (Option String) := do
  match ← first with
  | none => failAhead .endOfObject
  | some b =>
    if b = 0x7D then pure none
    else if initial then
      if b = 0x22 then
        drop
        pure (some (← string))
      else failAhead .keyExpected
    else if b = 0x2C then
      drop
      match ← first with
      | none => failAhead .endOfValue
      | some c =>
        if c = 0x22 then
          drop
          pure (some (← string))
        else if c = 0x7D then failAhead .commaLast
        else failAhead .keyExpected
    else failAhead .objectGoesOn

def colon : Reader Unit := do
  match ← first with
  | none => failAhead .endOfObject
  | some b => if b = 0x3A then drop else failAhead .colonExpected

def objectStep (item : Reader α) (acc : List (String × α)) :
    Reader (List (String × α) ⊕ List (String × α)) := do
  match ← memberName? acc.isEmpty with
  | some name =>
    colon
    let a ← item
    pure (.inl ((name, a) :: acc))
  | none =>
    drop
    pure (.inr acc.reverse)

def objectOf : Option (Reader α) → Reader (List (String × α))
  | none => failAhead .tooDeep
  | some item => do
    drop
    repeatedly (objectStep item) []

def valueWith (inner : Option (Reader Json)) : Reader Json := do
  let b ← begin
  if b = 0x5B then
    pure (.list (← listOf inner))
  else if b = 0x7B then
    pure (.object (Members.ofPairs (← objectOf inner)))
  else
    match scalar? b with
    | some r => r
    | none => failAhead .valueExpected

/-- Any value that opens at most `depth` levels. -/
def value : Nat → Reader Json
  | 0 => valueWith none
  | depth + 1 => valueWith (some (value depth))

inductive Bracket where
  | square
  | curly
  deriving DecidableEq

namespace Bracket

def close : Bracket → UInt8
  | .square => 0x5D
  | .curly => 0x7D

def unfinished : Bracket → Cause
  | .square => .endOfList
  | .curly => .endOfObject

def goesOn : Bracket → Cause
  | .square => .listGoesOn
  | .curly => .objectGoesOn

def ofOpen? (b : UInt8) : Option Bracket :=
  if b = 0x5B then some .square else if b = 0x7B then some .curly else none

end Bracket

def skipName : Bracket → Reader Unit
  | .square => pure ()
  | .curly => do
    match ← first with
    | none => failAhead .endOfObject
    | some b =>
      if b = 0x22 then
        drop
        skipString
        colon
      else failAhead .keyExpected

def skipScalar (b : UInt8) : Reader Unit :=
  if b = 0x6E then do
    drop
    keyword restOfNull
  else if b = 0x74 then do
    drop
    keyword restOfTrue
  else if b = 0x66 then do
    drop
    keyword restOfFalse
  else if b = 0x22 then do
    drop
    skipString
  else if b = 0x2D then do
    drop
    skipNumber
  else if isDigit b then skipNumber
  else failAhead .valueExpected

/-- Where skipping stands: the brackets open, innermost first, and whether a value comes next. -/
structure Skipping where
  atValue : Bool
  opened : List Bracket

def Skipping.closed (opened : List Bracket) : Skipping ⊕ Unit :=
  if opened.isEmpty then .inr () else .inl ⟨false, opened⟩

def skipValueStep (opened : List Bracket) : Reader (Skipping ⊕ Unit) := do
  let b ← begin
  match Bracket.ofOpen? b with
  | none =>
    skipScalar b
    pure (Skipping.closed opened)
  | some k =>
    drop
    match ← first with
    | none => failAhead k.unfinished
    | some c =>
      if c = k.close then
        drop
        pure (Skipping.closed opened)
      else
        skipName k
        pure (.inl ⟨true, k :: opened⟩)

def skipStep (s : Skipping) : Reader (Skipping ⊕ Unit) :=
  match s.atValue, s.opened with
  | false, k :: opened => do
    match ← first with
    | none => failAhead k.unfinished
    | some c =>
      if c = 0x2C then
        drop
        skipName k
        pure (.inl ⟨true, k :: opened⟩)
      else if c = k.close then
        drop
        pure (Skipping.closed opened)
      else failAhead k.goesOn
  | _, opened => skipValueStep opened

def skip : Reader Unit := repeatedly skipStep ⟨true, []⟩

end RestGateway.Json.Reader
