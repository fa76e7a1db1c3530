import RestGateway.Config.Load
import RestGateway.VersionReport

/-!
# Command line

Options take one value, which follows as the next argument or after an equals sign; a short option
may also be written together with its value. A value that is an argument of its own is taken in when
the next option, or the end, is reached, so a fault in the argument after it comes first.
-/

set_option autoImplicit false

namespace RestGateway.CommandLine

inductive Key where
  | port
  | host
  | config
  | logLevel
  | formats
  deriving DecidableEq, Repr

inductive Stop where
  | unknownArgument
  | missingValue
  | badValue
  | repeatedOption
  | unneededValue
  | help
  | version
  deriving DecidableEq, Repr

def Stop.exitCode : Stop → Nat
  | .help | .version => 0
  | _ => 2

def usage : String :=
  "Usage: sg-restful [OPTIONS]\n\n" ++
  "  -p, --port <PORT>          Port to listen on [env: PORT]\n" ++
  "  -s, --shotgun-host <URL>   Address of the backend [env: SG_HOST]\n" ++
  "  -c, --config <FILE>        Configuration file\n" ++
  "      --log-level <FILTER>   Log level or filter directives\n" ++
  "      --formats <NAMES>      Active query formats in their order, with commas between\n" ++
  "  -h, --help                 Print this text\n" ++
  "  -V, --version              Print the version\n"

def Stop.text : Stop → String
  | .help => usage
  | .version => "sg-restful " ++ gatewayVersion ++ "\n"
  | .unknownArgument => "error: unexpected argument\n\n" ++ usage
  | .missingValue => "error: an option lacks its value\n\n" ++ usage
  | .badValue => "error: the port is no number below 65536\n\n" ++ usage
  | .repeatedOption => "error: an option is given twice\n\n" ++ usage
  | .unneededValue => "error: an option takes no value\n\n" ++ usage

structure Options where
  port : Option Nat
  host : Option String
  config : Option String
  logLevel : Option String
  formats : Option (List String)
  deriving DecidableEq, Repr

namespace Options

def initial : Options := ⟨none, none, none, none, none⟩

def parsePort (value : String) : Except Stop Nat :=
  match Ascii.integer? value.toList with
  | some n => if 0 ≤ n ∧ n < UInt16.size then .ok n.toNat else .error .badValue
  | none => .error .badValue

/-- An option that can be given once only. -/
def once {α : Type} (current : Option α) (value : Except Stop α) : Except Stop (Option α) :=
  match current with
  | some _ => .error .repeatedOption
  | none => value.map some

def splitFormats (value : String) : List String :=
  (Text.splitOn ',' value.toList).map String.ofList

def set (o : Options) (key : Key) (value : String) : Except Stop Options :=
  match key with
  | .port => do .ok { o with port := ← once o.port (parsePort value) }
  | .host => do .ok { o with host := ← once o.host (.ok value) }
  | .config => do .ok { o with config := ← once o.config (.ok value) }
  | .logLevel => do .ok { o with logLevel := ← once o.logLevel (.ok value) }
  | .formats => .ok { o with formats := some (o.formats.getD [] ++ splitFormats value) }

end Options

structure Progress where
  options : Options
  pending : Option (Key × Option String)
  onlyValues : Bool

namespace Progress

def settle (p : Progress) : Except Stop Progress :=
  match p.pending with
  | none => .ok p
  | some (_, none) => .error .missingValue
  | some (key, some value) => do
    .ok { p with options := ← p.options.set key value, pending := none }

def option (p : Progress) (key : Key) (value? : Option String) : Except Stop Progress := do
  let p ← p.settle
  match value? with
  | some value => .ok { p with options := ← p.options.set key value }
  | none => .ok { p with pending := some (key, none) }

def stop (p : Progress) (s : Stop) : Except Stop Progress := do
  let _ ← p.settle
  .error s

def longNames : List (String × Key) :=
  [("port", .port), ("shotgun-host", .host), ("config", .config), ("log-level", .logLevel),
    ("formats", .formats)]

def shortNames : List (Char × Key) := [('p', .port), ('s', .host), ('c', .config)]

def long (p : Progress) (name : String) (value? : Option String) : Except Stop Progress :=
  match longNames.lookup name with
  | some key => p.option key value?
  | none =>
    if name = "help" ∨ name = "version" then
      if value?.isSome then .error .unneededValue
      else p.stop (if name = "help" then .help else .version)
    else .error .unknownArgument

def attached : List Char → Option String
  | [] => none
  | '=' :: value => some (String.ofList value)
  | value => some (String.ofList value)

def short (p : Progress) (name : Char) (rest : List Char) : Except Stop Progress :=
  match shortNames.lookup name with
  | some key => p.option key (attached rest)
  | none =>
    if name = 'h' then p.stop .help
    else if name = 'V' then p.stop .version
    else .error .unknownArgument

def plain (p : Progress) (value : String) : Except Stop Progress :=
  match p.pending with
  | some (key, none) => .ok { p with pending := some (key, some value) }
  | _ => .error .unknownArgument

def argument (p : Progress) (arg : String) : Except Stop Progress :=
  if p.onlyValues then .error .unknownArgument
  else
    match arg.toList with
    | ['-', '-'] => .ok { p with onlyValues := true }
    | '-' :: '-' :: text =>
      match Text.splitOnce? '=' text with
      | some (name, value) => p.long (String.ofList name) (some (String.ofList value))
      | none => p.long (String.ofList text) none
    | '-' :: name :: rest => p.short name rest
    | _ => p.plain arg

end Progress

def parseArguments (args : List String) : Except Stop Options := do
  let p ← args.foldlM Progress.argument ⟨.initial, none, false⟩
  .ok (← p.settle).options

def standIn? (env : Config.Environment.Variables) (name : String) : Option String :=
  env.lookup name

/-- The options of a command line; `PORT` and `SG_HOST` stand in for options that are not given. -/
def parse (args : List String) (env : Config.Environment.Variables) :
    Except Stop Options := do
  let o ← parseArguments args
  let o ← match o.port, standIn? env "PORT" with
    | none, some value => o.set .port value
    | _, _ => .ok o
  match o.host, standIn? env "SG_HOST" with
  | none, some value => o.set .host value
  | _, _ => .ok o

def Options.appliedTo (o : Options) (c : Config) : Config :=
  { service := { c.service with
      port := o.port.getD c.service.port
      logLevel := o.logLevel.getD c.service.logLevel }
    backend := { c.backend with host := o.host.getD c.backend.host }
    formats :=
      match o.formats with
      | some names => names.map fun n => String.ofList (Text.trim n.toList)
      | none => c.formats }

end RestGateway.CommandLine
