import RestGateway.Config.Environment
import RestGateway.Config.FromSettings
import RestGateway.Config.Toml.Document
import RestGateway.Text.Utf8

/-!
# Loading a configuration

Sources are laid over each other from the built-in values through the files up to the environment,
key by key. Only the outcome is checked, so a bad value that a higher source hides does no harm.
-/

set_option autoImplicit false

namespace RestGateway.Config

structure Source where
  origin : Origin
  settings : Setting

structure Surroundings where
  environment : Environment.Variables
  /-- The bytes of a file, if there is one at a path. -/
  file? : String → Option (List UInt8)

namespace Source

def builtin : Source := ⟨.builtin, Config.builtin.settings⟩

def environment (env : Environment.Variables) : Source :=
  ⟨.environment, Environment.settings env⟩

/-- A file that does not exist sets nothing; one that does must be UTF-8. -/
def file (s : Surroundings) (path : String) : Except Error Source :=
  match s.file? path with
  | none => .ok ⟨.file path, .table []⟩
  | some bytes =>
    match Utf8.string? bytes >>= Toml.parse? with
    | some settings => .ok ⟨.file path, settings⟩
    | none => .error (.malformed path)

def merge (sources : List Source) : Setting :=
  sources.foldl (fun s source => s.overlaid source.settings) (.table [])

def originOf (sources : List Source) (key : List String) : Origin :=
  match sources.reverse.find? fun s => (s.settings.at? key).isSome with
  | some s => s.origin
  | none => .builtin

end Source

def ofSources (sources : List Source) : Except Error Config :=
  (ofSetting (Source.merge sources)).mapError fun m =>
    .value m.key m.fault (Source.originOf sources m.key)

/-- The files that are read where none is named, lowest first: the one for the whole system and the
one of the directory. -/
def defaultPaths : List String := ["/etc/sg-restful/config.toml", "config.toml"]

def paths (path? : Option String) : List String :=
  match path? with
  | some path => [path]
  | none => defaultPaths

/-- Loads from the file at `path?`, or from the default ones. The outcome is not validated yet. -/
def load (s : Surroundings) (path? : Option String) : Except Error Config := do
  let files ← (paths path?).mapM (Source.file s)
  ofSources ([.builtin] ++ files ++ [.environment s.environment])

end RestGateway.Config
