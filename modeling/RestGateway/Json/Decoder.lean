import RestGateway.Json.ValueReader

/-!
# Decoding JSON text as a given type

A decoder is a reader for each number of levels that may still be opened. Where the value is of
another type than the one wanted, a scalar is read first, so that its own faults come first; a list
or an object is not. Records are read from an object, or from a list of their members in order.
-/

set_option autoImplicit false

namespace RestGateway.Json

abbrev Decoder (α : Type) := Nat → Reader α

namespace Reader

variable {α σ : Type}

def wrongType (wanted : String) : Reader α := do
  let b ← begin
  if b = 0x5B then fail (.wrongType .list wanted)
  else if b = 0x7B then fail (.wrongType .object wanted)
  else
    match scalar? b with
    | some r =>
      let v ← r
      fail (.wrongType (.of v) wanted)
    | none => failAhead .valueExpected

def text (wanted : String) : Reader String := do
  let b ← begin
  if b = 0x22 then
    drop
    string
  else wrongType wanted

def boolean : Reader Bool := do
  let b ← begin
  if b = 0x74 then
    drop
    keyword restOfTrue
    pure true
  else if b = 0x66 then
    drop
    keyword restOfFalse
    pure false
  else wrongType "a boolean"

def unit : Reader Unit := do
  let b ← begin
  if b = 0x6E then
    drop
    keyword restOfNull
  else wrongType "unit"

def option (r : Reader α) : Reader (Option α) := do
  match ← first with
  | some b =>
    if b = 0x6E then
      drop
      keyword restOfNull
      pure none
    else
      pure (some (← r))
  | none => pure (some (← r))

def inRange (low high : Int) (wanted : String) : Number → Reader Int
  | .int n => if low ≤ n ∧ n ≤ high then pure n else fail (.wrongValue n wanted)
  | .float x => fail (.wrongType (.number (.float x)) wanted)

def integerIn (low high : Int) (wanted : String) : Reader Int := do
  let b ← begin
  if b = 0x2D then
    drop
    inRange low high wanted (← number true)
  else if isDigit b then inRange low high wanted (← number false)
  else wrongType wanted

def endList : Reader Unit := do
  match ← first with
  | none => failAhead .endOfList
  | some b =>
    if b = 0x5D then drop
    else if b = 0x2C then
      drop
      match ← first with
      | some c => failAhead (if c = 0x5D then .commaLast else .textAfter)
      | none => failAhead .textAfter
    else failAhead .textAfter

def failInObject (c : Cause) : Reader α := do
  match ← first with
  | some b =>
    if b = 0x7D then drop
    fail c
  | none => fail c

def failInList (c : Cause) : Reader α := do
  drop
  fail c

/-- A member of a record: its name, how its value changes the record `σ`, and whether the record can
do without it in an object (`optional`) and in a list (`defaulted`). -/
structure Member (σ : Type) where
  name : String
  read : Reader (σ → σ)
  optional : Bool
  defaulted : Bool

def required (name : String) (set : α → σ → σ) (r : Reader α) : Member σ :=
  ⟨name, set <$> r, false, false⟩

def optional (name : String) (set : Option α → σ → σ) (r : Reader α) : Member σ :=
  ⟨name, set <$> option r, true, false⟩

def defaulted (name : String) (set : α → σ → σ) (r : Reader α) : Member σ :=
  ⟨name, set <$> r, true, true⟩

structure Filling (σ : Type) where
  record : σ
  named : List String
  initial : Bool

def memberStep (members : List (Member σ)) (s : Filling σ) : Reader (Filling σ ⊕ σ) := do
  match ← memberName? s.initial with
  | none =>
    match members.find? fun m => !m.optional && !s.named.contains m.name with
    | some m => failInObject (.missingMember m.name)
    | none =>
      drop
      pure (.inr s.record)
  | some name =>
    match members.find? fun m => m.name == name with
    | none =>
      colon
      skip
      pure (.inl { s with initial := false })
    | some m =>
      if s.named.contains name then failInObject (.duplicateMember name)
      else
        colon
        let set ← m.read
        pure (.inl ⟨set s.record, name :: s.named, false⟩)

/-- Members in their order from a list; `tooShort` tells what is wrong when the member at a place
is missing. -/
def elements (tooShort : Nat → Cause) : List (Member σ) → Nat → Bool → σ → Reader σ
  | [], _, _, s => do
    endList
    pure s
  | m :: ms, place, initial, s => do
    if ← hasElement initial then
      let set ← m.read
      elements tooShort ms (place + 1) false (set s)
    else if m.defaulted then elements tooShort ms (place + 1) initial s
    else failInList (tooShort place)

def elementCount (n : Nat) : String :=
  toString n ++ if n = 1 then " element" else " elements"

def record (name : String) (start : σ) (inner : Option (List (Member σ))) : Reader σ := do
  let b ← begin
  let wanted := "struct " ++ name
  if b = 0x7B then
    match inner with
    | none => failAhead .tooDeep
    | some members =>
      drop
      repeatedly (memberStep members) ⟨start, [], true⟩
  else if b = 0x5B then
    match inner with
    | none => failAhead .tooDeep
    | some members =>
      drop
      let count := elementCount members.length
      elements (fun n => .wrongLength n (wanted ++ " with " ++ count)) members 0 true start
  else wrongType wanted

def tuple (name : String) (start : σ) (inner : Option (List (Member σ))) : Reader σ := do
  let b ← begin
  if b = 0x5B then
    match inner with
    | none => failAhead .tooDeep
    | some members =>
      drop
      let count := elementCount members.length
      elements (fun n => .wrongLength n (name ++ " with " ++ count)) members 0 true start
  else wrongType name

def listWith (inner : Option (Reader α)) : Reader (List α) := do
  let b ← begin
  if b = 0x5B then listOf inner else wrongType "a sequence"

def membersWith (inner : Option (Reader Json)) : Reader Members := do
  let b ← begin
  if b = 0x7B then
    pure (Members.ofPairs (← objectOf inner))
  else wrongType "a map"

/-- One of the names, written as a string or as `name: null` in an object of that one member. -/
def choice (names : List (String × α)) (wanted : String) (inner : Bool) : Reader α := do
  match ← first with
  | none => failAhead .endOfValue
  | some b =>
    if b = 0x7B then
      if inner then
        drop
        let a ← named (← text "variant identifier")
        colon
        unit
        match ← first with
        | none => fail .endOfObject
        | some c =>
          if c = 0x7D then
            drop
            pure a
          else fail .valueExpected
      else failAhead .tooDeep
    else if b = 0x22 then
      drop
      named (← string)
    else failAhead .valueExpected
where
  named (name : String) : Reader α :=
    match names.lookup name with
    | some a => pure a
    | none => fail (.unknownName name wanted)

end Reader

namespace Decoder

variable {α : Type}

def inside (d : Decoder α) : Nat → Option (Reader α)
  | 0 => none
  | depth + 1 => some (d depth)

def value : Decoder Json := Reader.value

def list (d : Decoder α) : Decoder (List α) := fun depth => Reader.listWith (inside d depth)

def members : Decoder Members := fun depth => Reader.membersWith (inside value depth)

def string : Decoder String := fun _ => Reader.text "a string"

def boolean : Decoder Bool := fun _ => Reader.boolean

def word : Decoder Int := fun _ => Reader.integerIn Word.least Word.greatest "i64"

def natural (bound : Nat) (name : String) : Decoder Nat := fun _ =>
  Int.toNat <$> Reader.integerIn 0 ((bound : Int) - 1) name

def record {σ : Type} (name : String) (start : σ) (members : Nat → List (Reader.Member σ)) :
    Decoder σ
  | 0 => Reader.record name start none
  | depth + 1 => Reader.record name start (some (members depth))

def tuple {σ : Type} (name : String) (start : σ) (members : Nat → List (Reader.Member σ)) :
    Decoder σ
  | 0 => Reader.tuple name start none
  | depth + 1 => Reader.tuple name start (some (members depth))

/-- How many lists and objects may be open at once. -/
def levels : Nat := 127

def run (d : Decoder α) (input : List UInt8) : Except Fault α :=
  Reader.whole (d levels) input

def decode (d : Decoder α) (input : List UInt8) : Except String α :=
  (run d input).mapError fun f => f.message input

end Decoder

end RestGateway.Json
