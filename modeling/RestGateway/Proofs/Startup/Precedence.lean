import RestGateway.Proofs.Config.Layers
import RestGateway.Proofs.Startup.Readiness

/-!
# Which source decides

The final configuration has for each key the value from the highest source that gives one: an option,
the variable that stands in for it, the key's own variable, a file, the built-in value. Keys do not
depend on each other, not even within a section.
-/

set_option autoImplicit false

namespace RestGateway

namespace CommandLine

/-- What options give; formats are taken without the blanks around them. -/
def Options.given (o : Options) : Config.Giver
  | .port => o.port
  | .host => o.host
  | .logLevel => o.logLevel
  | .formats => o.formats.map fun names => names.map fun n => String.ofList (Text.trim n.toList)
  | .name | .requestTimeout | .corsMode | .bodyLimit | .apiPath | .callTimeout
  | .cachedClients => none

def standIns (env : Config.Environment.Variables) : Config.Giver
  | .port => (standIn? env "PORT").bind fun text => (Options.parsePort text).toOption
  | .host => standIn? env "SG_HOST"
  | .name | .logLevel | .requestTimeout | .corsMode | .bodyLimit | .apiPath | .callTimeout
  | .cachedClients | .formats => none

theorem appliedTo_value (o : Options) (c : Config) (k : Config.Key) :
    (o.appliedTo c).value k = (o.given k).getD (c.value k) := by
  obtain ⟨port, host, config, logLevel, formats⟩ := o
  cases k with
  | formats => cases formats <;> rfl
  | port | logLevel | host => rfl
  | name | requestTimeout | corsMode | bodyLimit | apiPath | callTimeout | cachedClients => rfl

variable {args : List String} {env : Config.Environment.Variables} {flags : Options}

def settleHost (env : Config.Environment.Variables) (o : Options) : Except Stop Options :=
  match o.host, standIn? env "SG_HOST" with
  | none, some value => o.set .host value
  | _, _ => .ok o

theorem settleHost_eq (o : Options) :
    settleHost env o = .ok { o with host := o.host.or (standIns env .host) } := by
  obtain ⟨port, host, config, logLevel, formats⟩ := o
  unfold settleHost standIns
  cases host <;> cases standIn? env "SG_HOST" <;> rfl

theorem set_port {o : Options} {text : String} {n : Nat} (ho : o.port = none)
    (h : Options.parsePort text = .ok n) : o.set .port text = .ok { o with port := some n } := by
  rw [Options.set, ho, h]
  rfl

theorem parse_settled (hflags : parseArguments args = .ok flags)
    (hport : flags.port = none → ∀ text, standIn? env "PORT" = some text →
      (Options.parsePort text).isOk = true) :
    parse args env = settleHost env { flags with port := flags.port.or (standIns env .port) } := by
  have hbelow : standIns env .port =
      (standIn? env "PORT").bind fun text => (Options.parsePort text).toOption := rfl
  obtain ⟨port, host, config, logLevel, formats⟩ := flags
  rw [parse, hflags, hbelow]
  cases port with
  | some port => rfl
  | none =>
    cases hs : standIn? env "PORT" with
    | none => rfl
    | some text =>
      cases hn : Options.parsePort text with
      | error e =>
        have hok := hport rfl text hs
        rw [hn] at hok
        cases hok
      | ok n =>
        show Options.set ⟨none, host, config, logLevel, formats⟩ .port text >>= settleHost env =
          settleHost env ⟨(Options.parsePort text).toOption, host, config, logLevel, formats⟩
        rw [set_port (o := ⟨none, host, config, logLevel, formats⟩) rfl hn, hn]
        rfl

theorem parse_given (hflags : parseArguments args = .ok flags)
    (hport : flags.port = none → ∀ text, standIn? env "PORT" = some text →
      (Options.parsePort text).isOk = true) :
    ∃ o, parse args env = .ok o ∧ o.config = flags.config ∧
      ∀ k, o.given k = (flags.given k).or (standIns env k) := by
  refine ⟨_, (parse_settled hflags hport).trans (settleHost_eq _), rfl, ?_⟩
  intro k
  cases k with
  | port | host => rfl
  | logLevel | formats => exact Option.or_none.symm
  | name | requestTimeout | corsMode | bodyLimit | apiPath | callTimeout | cachedClients => rfl

end CommandLine

namespace Startup

open CommandLine

/-- What is given for the keys, the highest source first. -/
def givers (flags : Options) (env : Config.Environment.Variables) (files : List Config.Source) :
    List Config.Giver :=
  flags.given :: standIns env :: Config.loaded env files

theorem decided_givers (flags : Options) (env : Config.Environment.Variables)
    (files : List Config.Source) (k : Config.Key) :
    Config.decided (givers flags env files) k =
      ((flags.given k).or (standIns env k)).getD (Config.decided (Config.loaded env files) k) := by
  rw [Config.decided, givers, List.findSome?_cons, List.findSome?_cons]
  cases flags.given k with
  | some v => rfl
  | none => cases standIns env k <;> rfl

/-- Where options, variables and files give documented keys with values of their types, the final
configuration has for each key the value of the highest source that gives one, the options above
the variables that stand in for them, these above the key's own variable, and that above the files.
This configuration is the one that is validated and started with. -/
theorem configure_precedence {args : List String} {s : Config.Surroundings} {flags : Options}
    {files : List Config.Source} (hflags : parseArguments args = .ok flags)
    (hport : flags.port = none → ∀ text, standIn? s.environment "PORT" = some text →
      (Options.parsePort text).isOk = true)
    (hvars : Config.Environment.Documented s.environment)
    (hfiles : (Config.paths flags.config).mapM (Config.Source.file s) = .ok files)
    (hdocs : ∀ f ∈ files, f.settings.Documented) :
    (∀ k, Config.Environment.path? (Config.Environment.variableOf k) = some k.path) ∧
    ∃ o c, parse args s.environment = .ok o ∧
      configure o s = (c.validate.mapError .invalid >>= fun _ => .ok c) ∧
      ∀ k, c.value k = Config.decided (givers flags s.environment files) k := by
  refine ⟨Config.Environment.path_variableOf, ?_⟩
  obtain ⟨o, hparse, hconfig, hgiven⟩ := parse_given hflags hport
  obtain ⟨loaded, hload, hvalue⟩ := Config.load_given hvars hfiles hdocs
  rw [← hconfig] at hload
  refine ⟨o, o.appliedTo loaded, hparse, configure_loaded hload, fun k => ?_⟩
  rw [appliedTo_value, hgiven, hvalue, decided_givers]

def manyPorts : Config.Surroundings where
  environment :=
    [("PORT", "8001"), ("SG_HOST", "http://backend"), ("SG_RESTFUL_SERVICE__PORT", "8002"),
      ("SG_RESTFUL_BACKEND__TIMEOUT_SECS", "5")]
  file? path :=
    if path = "config.toml" then
      some (Utf8.bytes "[service]\nport = 8003\nname = \"studio\"")
    else none

theorem configure_precedence_port :
    let final : Config :=
      { Config.builtin with
        service := { Config.builtin.service with port := 9000, name := "studio" }
        backend := { Config.builtin.backend with host := "http://backend", timeout := 5 }
        formats := ["format3", "format1"] }
    ∃ o, parse ["-p", "9000", "--formats", "format3, format1"] manyPorts.environment = .ok o ∧
      configure o manyPorts = .ok final := by
  intro final
  let flags : Options := ⟨some 9000, none, none, none, some ["format3", " format1"]⟩
  have hflags : parseArguments ["-p", "9000", "--formats", "format3, format1"] = .ok flags := by
    decide +kernel
  have hvars : Config.Environment.Documented manyPorts.environment := by decide +kernel
  obtain ⟨files, hfiles, hdocs, hfinal⟩ : ∃ files,
      (Config.paths none).mapM (Config.Source.file manyPorts) = .ok files ∧
        (∀ f ∈ files, f.settings.Documented) ∧ ∀ k ∈ Config.Key.all,
          Config.decided (givers flags manyPorts.environment files) k = final.value k :=
    ok_of_all (by decide +kernel)
  obtain ⟨-, o, c, hparse, hconfigure, hvalue⟩ :=
    configure_precedence hflags (fun h => by cases h) hvars hfiles hdocs
  obtain rfl : c = final :=
    Config.value_inj fun k => (hvalue k).trans (hfinal k k.mem_all)
  have haddress : "http".toList <+: "http://backend".toList := by decide
  have hvalid : final.validate = .ok () :=
    Config.validate_ok.mpr ⟨haddress, Nat.le_of_ble_eq_true rfl⟩
  refine ⟨o, hparse, ?_⟩
  rw [hconfigure, hvalid]
  rfl

end Startup

end RestGateway
