import RestGateway.Config.Setting

/-!
# Tables under construction

A TOML document fills its tables from statements in any order, but defines no key twice and opens
no table twice: a header may give a table that other headers only implied, while a table made by
dotted keys is extended by dotted keys only. A value, inline tables included, is complete.
-/

set_option autoImplicit false

namespace RestGateway.Config.Toml

/-- How a table came about. -/
inductive Role where
  /-- As part of the path of a header. -/
  | implied
  /-- As part of a dotted key. -/
  | dotted
  /-- By its own header. -/
  | opened
  deriving DecidableEq, Repr

inductive Node where
  | value (s : Setting)
  | table (role : Role) (entries : List (String × Node))
  /-- An array of tables; only the last one can grow. -/
  | tables (closed : List (List (String × Node))) (last : List (String × Node))

abbrev Nodes := List (String × Node)

namespace Nodes

def put (key : String) (node : Node) : Nodes → Nodes
  | [] => [(key, node)]
  | (k, n) :: rest => if k = key then (key, node) :: rest else (k, n) :: put key node rest

def assign : List String → String → Setting → Nodes → Option Nodes
  | [], key, s, ns => if (ns.lookup key).isSome then none else some (put key (.value s) ns)
  | p :: path, key, s, ns =>
    match ns.lookup p with
    | none => do some (put p (.table .dotted (← assign path key s [])) ns)
    | some (.table role inner) =>
      if role = .opened ∨ (path.isEmpty ∧ role ≠ .dotted) then none
      else do some (put p (.table role (← assign path key s inner)) ns)
    | some (.tables closed last) =>
      if path.isEmpty then none
      else do some (put p (.tables closed (← assign path key s last)) ns)
    | some (.value _) => none

def inside (change : Nodes → Option Nodes) : List String → Nodes → Option Nodes
  | [], ns => change ns
  | p :: path, ns =>
    match ns.lookup p with
    | none => do some (put p (.table .implied (← inside change path [])) ns)
    | some (.table role inner) => do some (put p (.table role (← inside change path inner)) ns)
    | some (.tables closed last) => do
      some (put p (.tables closed (← inside change path last)) ns)
    | some (.value _) => none

def openTable (key : String) (ns : Nodes) : Option Nodes :=
  match ns.lookup key with
  | none => some (put key (.table .opened []) ns)
  | some (.table .implied inner) => some (put key (.table .opened inner) ns)
  | _ => none

def openItem (key : String) (ns : Nodes) : Option Nodes :=
  match ns.lookup key with
  | none => some (put key (.tables [] []) ns)
  | some (.tables closed last) => some (put key (.tables (closed ++ [last]) []) ns)
  | _ => none

end Nodes

mutual

def Node.setting : Node → Setting
  | .value s => s
  | .table _ entries => .table (settingsOf entries)
  | .tables closed last => .list (settingsOfAll closed ++ [.table (settingsOf last)])

def settingsOf : List (String × Node) → List (String × Setting)
  | [] => []
  | (k, n) :: rest => (k, n.setting) :: settingsOf rest

def settingsOfAll : List (List (String × Node)) → List Setting
  | [] => []
  | ns :: rest => .table (settingsOf ns) :: settingsOfAll rest

end

end RestGateway.Config.Toml
