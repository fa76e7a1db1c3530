import RestGateway.Config.Basic

/-!
# Settings read as a configuration

Keys that mean nothing are ignored. Where several values do not fit, the first key in alphabetical
order is reported. A list in place of a section gives its values in the order of the section's keys.
-/

set_option autoImplicit false

namespace RestGateway.Config

structure Misfit where
  key : List String
  fault : ValueFault

abbrev Reading (α : Type) := List String → Setting → Except Misfit α

namespace Reading

variable {α : Type}

def string : Reading String
  | _, .string s => .ok s
  | key, s => .error ⟨key, .wrongType s "a string"⟩

def natural (bound : Nat) (name : String) : Reading Nat
  | key, .signed n =>
    if 0 ≤ n ∧ n < bound then .ok n.toNat else .error ⟨key, .wrongValue (.signed n) name⟩
  | key, .unsigned n =>
    if n < bound then .ok n else .error ⟨key, .wrongValue (.unsigned n) name⟩
  | key, s => .error ⟨key, .wrongType s name⟩

def port : Reading Nat := natural UInt16.size "u16"
def seconds : Reading Nat := natural UInt64.size "u64"
def size : Reading Nat := natural UInt64.size "usize"

def items (key : List String) (r : Reading α) : Nat → List Setting → Except Misfit (List α)
  | _, [] => .ok []
  | place, s :: rest => do
    let a ← r (key ++ [toString place]) s
    .ok (a :: (← items key r (place + 1) rest))

def list (r : Reading α) : Reading (List α)
  | key, .list ss => items key r 0 ss
  | key, s => .error ⟨key, .wrongType s "a sequence"⟩

def entry? (key : List String) (es : Entries) (name : String) (r : Reading α) :
    Except Misfit (Option α) :=
  match es.lookup name with
  | some s => (r (key ++ [name]) s).map some
  | none => .ok none

def entry (key : List String) (es : Entries) (name : String) (r : Reading α) (absent : α) :
    Except Misfit α := do
  .ok ((← entry? key es name r).getD absent)

/-- The value at a place of a list that stands for a section. -/
def item (key : List String) (ss : List Setting) (place : Nat) (r : Reading α) (absent : α) :
    Except Misfit α :=
  match ss[place]? with
  | some s => r (key ++ [toString place]) s
  | none => .ok absent

def serviceOfEntries (key : List String) (es : Entries) : Except Misfit Service := do
  let d := Service.builtin
  let bodyLimit ← entry key es "body_limit_mb" size d.bodyLimit
  let corsMode ← entry key es "cors_mode" string d.corsMode
  let logLevel ← entry key es "log_level" string d.logLevel
  let name? ← entry? key es "name" string
  let port ← entry key es "port" port d.port
  let timeout ← entry key es "timeout_secs" seconds d.timeout
  match name? with
  | some name => .ok { name, port, logLevel, timeout, corsMode, bodyLimit }
  | none => .error ⟨key, .missing "name"⟩

def serviceOfItems (key : List String) (ss : List Setting) : Except Misfit Service := do
  let d := Service.builtin
  match ss with
  | [] => .error ⟨key, .wrongLength 0 "struct ServiceConfig with 6 elements"⟩
  | _ =>
    let name ← item key ss 0 string d.name
    let port ← item key ss 1 port d.port
    let logLevel ← item key ss 2 string d.logLevel
    let timeout ← item key ss 3 seconds d.timeout
    let corsMode ← item key ss 4 string d.corsMode
    let bodyLimit ← item key ss 5 size d.bodyLimit
    .ok { name, port, logLevel, timeout, corsMode, bodyLimit }

def service : Reading Service
  | key, .table es => serviceOfEntries key es
  | key, .list ss => serviceOfItems key ss
  | key, s => .error ⟨key, .wrongType s "struct ServiceConfig"⟩

def backendOfEntries (key : List String) (es : Entries) : Except Misfit Backend := do
  let d := Backend.builtin
  let apiPath ← entry key es "api_path" string d.apiPath
  let host ← entry key es "host" string d.host
  let cachedClients ← entry key es "max_cached_connections" size d.cachedClients
  let timeout ← entry key es "timeout_secs" seconds d.timeout
  .ok { host, apiPath, timeout, cachedClients }

def backendOfItems (key : List String) (ss : List Setting) : Except Misfit Backend := do
  let d := Backend.builtin
  let host ← item key ss 0 string d.host
  let apiPath ← item key ss 1 string d.apiPath
  let timeout ← item key ss 2 seconds d.timeout
  let cachedClients ← item key ss 3 size d.cachedClients
  .ok { host, apiPath, timeout, cachedClients }

def backend : Reading Backend
  | key, .table es => backendOfEntries key es
  | key, .list ss => backendOfItems key ss
  | key, s => .error ⟨key, .wrongType s "struct BackendConfig"⟩

def formats : Reading (List String)
  | key, .table es => entry key es "formats" (list string) Registry.builtinNames
  | key, .list ss => item key ss 0 (list string) Registry.builtinNames
  | key, s => .error ⟨key, .wrongType s "struct QueryConfig"⟩

end Reading

/-- Reads whole settings; a section that is missing keeps its built-in values. -/
def ofSetting (s : Setting) : Except Misfit Config := do
  let backend ← Reading.entry [] s.entries "backend" Reading.backend .builtin
  let formats ← Reading.entry [] s.entries "query" Reading.formats Registry.builtinNames
  let service ← Reading.entry [] s.entries "service" Reading.service .builtin
  .ok { service, backend, formats }

end RestGateway.Config
