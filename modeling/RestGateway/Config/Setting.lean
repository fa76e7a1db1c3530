import RestGateway.Decimal.Layout
import RestGateway.Text.Quoted

/-!
# Settings

What a configuration source says, before it is checked: a tree of tables. Sources are laid over each
other key by key; where both have a table the tables are laid over each other, any other value
hides what is below it.
-/

set_option autoImplicit false

namespace RestGateway.Config

inductive Setting where
  | string (s : String)
  | signed (n : Int)
  | unsigned (n : Nat)
  | float (x : Float)
  | bool (b : Bool)
  | list (items : List Setting)
  | table (entries : List (String × Setting))

abbrev Entries := List (String × Setting)

namespace Setting

/-- Plain decimal notation throughout. -/
def floatLayout : Decimal.Layout where
  least := -400
  greatest := 400
  wholeSuffix := []
  plusInExponent := false
  zero := ['0']
  notFinite x :=
    if x.isNaN then ['N', 'a', 'N']
    else if x < 0.0 then ['-', 'i', 'n', 'f'] else ['i', 'n', 'f']

def shown : Setting → String
  | .string s => "string " ++ Text.quoted s
  | .signed n => "signed int `" ++ toString n ++ "`"
  | .unsigned n => "unsigned int `" ++ toString n ++ "`"
  | .float x => "float `" ++ String.ofList (floatLayout.write x) ++ "`"
  | .bool b => "bool " ++ (if b then "true" else "false")
  | .list _ => "sequence"
  | .table _ => "map"

def put (key : String) (value : Setting) : Entries → Entries
  | [] => [(key, value)]
  | (k, v) :: rest => if k = key then (key, value) :: rest else (k, v) :: put key value rest

theorem lookup_put_self (key : String) (value : Setting) (entries : Entries) :
    (put key value entries).lookup key = some value := by
  induction entries with
  | nil => exact List.lookup_cons_self
  | cons e rest ih =>
    obtain ⟨k, v⟩ := e
    by_cases h : k = key
    · rw [put, if_pos h]
      exact List.lookup_cons_self
    · have hk : (key == k) = false := beq_eq_false_iff_ne.mpr (Ne.symm h)
      rw [put, if_neg h, List.lookup_cons, hk]
      exact ih

theorem lookup_put_of_ne {key other : String} (h : other ≠ key) (value : Setting)
    (entries : Entries) : (put key value entries).lookup other = entries.lookup other := by
  have ho : (other == key) = false := beq_eq_false_iff_ne.mpr h
  induction entries with
  | nil => rw [put, List.lookup_cons, ho]
  | cons e rest ih =>
    obtain ⟨k, v⟩ := e
    by_cases hk : k = key
    · subst hk
      rw [put, if_pos rfl, List.lookup_cons, List.lookup_cons, ho]
    · rw [put, if_neg hk, List.lookup_cons, List.lookup_cons, ih]

def entries : Setting → Entries
  | .table es => es
  | _ => []

mutual

def overlaid (lower : Setting) : Setting → Setting
  | .table es => .table (overlaidEntries lower.entries es)
  | .string s => .string s
  | .signed n => .signed n
  | .unsigned n => .unsigned n
  | .float x => .float x
  | .bool b => .bool b
  | .list items => .list items

def overlaidEntries (lower : Entries) : Entries → Entries
  | [] => lower
  | (k, v) :: rest =>
    overlaidEntries (put k (match lower.lookup k with
      | some u => overlaid u v
      | none => v) lower) rest

end

def nest (path : List String) (s : Setting) : Setting :=
  path.foldr (fun k inner => .table [(k, inner)]) s

/-- The setting at a path of keys; places in a list count from zero. -/
def at? (s : Setting) : List String → Option Setting
  | [] => some s
  | k :: path =>
    match s with
    | .table es =>
      match es.lookup k with
      | some inner => inner.at? path
      | none => none
    | .list items =>
      match k.toNat?.bind fun n => items[n]? with
      | some inner => inner.at? path
      | none => none
    | _ => none

end Setting

end RestGateway.Config
