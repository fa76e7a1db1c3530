import RestGateway.CommandLine
import RestGateway.Gateway.Basic
import RestGateway.Http.Cors
import RestGateway.Log
import RestGateway.VersionReport

/-!
# Start-up

From the command line to a gateway that is ready to listen, with the log lines on the way. The port
is not touched before the configuration is valid and all its query formats are known.
-/

set_option autoImplicit false

namespace RestGateway.Startup

inductive Failure where
  /-- The configuration could not be loaded; the path is that of a file asked for. -/
  | load (path? : Option String) (cause : Config.Error)
  | invalid (cause : Config.Error)
  | state (cause : GatewayError)
  /-- The port could not be listened on. -/
  | listen (reason : String)

namespace Failure

def message : Failure → String
  | .load none _ => "Failed to load configuration"
  | .load (some path) _ => "Failed to load " ++ path
  | .invalid cause => (GatewayError.config cause).message
  | .state _ => "Failed to build application state"
  | .listen reason => (GatewayError.io reason).message

def cause? : Failure → Option String
  | .load _ cause => some (GatewayError.config cause).message
  | .invalid _ => none
  | .state cause => some cause.message
  | .listen reason => some reason

def report (f : Failure) : String :=
  "Error: " ++ f.message ++ "\n" ++
    match f.cause? with
    | some cause => "\nCaused by: " ++ cause ++ "\n"
    | none => ""

end Failure

/-- The final configuration: loaded, with the options over it, and validated. -/
def configure (o : CommandLine.Options) (s : Config.Surroundings) : Except Failure Config := do
  let loaded ← (Config.load s o.config).mapError (.load o.config)
  let c := o.appliedTo loaded
  c.validate.mapError .invalid
  .ok c

namespace Lines

def number (n : Nat) : Json := .number (.int n)

def info (target : String) (message : String) (fields : Members) : Log.Line :=
  ⟨.info, target, ("message", .string message) :: fields⟩

def formatNames (formats : Registry) : Members :=
  [("formats", .string (Text.quotedList formats.active))]

def loggingSetUp (c : Config) : Log.Line :=
  info "sg_restful::observability"
    ("Tracing initialized for service: " ++ c.service.name) []

def formatsActive (formats : Registry) : Log.Line :=
  info "sg_restful::state" "query formats active" (formatNames formats)

def starting (formats : Registry) : Log.Line :=
  info "sg_restful" "sg-restful starting"
    (("version", .string gatewayVersion) :: formatNames formats)

def address (c : Config) : String := "0.0.0.0:" ++ toString c.service.port

def gateway (c : Config) : Log.Line :=
  info "sg_restful::server" "starting gateway"
    [("name", .string c.service.name), ("addr", .string (address c)),
      ("shotgun_host", .string c.backend.host), ("api_path", .string c.backend.apiPath)]

def pipeline (c : Config) : Log.Line :=
  info "sg_restful::server" "request pipeline"
    [("body_limit_mb", number c.service.bodyLimit), ("cors_mode", .string c.service.corsMode),
      ("request_timeout_secs", number c.service.timeout),
      ("backend_timeout_secs", number c.backend.timeout),
      ("max_cached_connections", number c.backend.cachedClients)]

def unknownMode (mode : String) : Log.Line :=
  ⟨.warn, "sg_restful::server",
    [("message", .string "unknown CORS mode, using permissive"), ("mode", .string mode)]⟩

def server (c : Config) : List Log.Line :=
  [gateway c, pipeline c] ++
    if CorsMode.ofText? c.service.corsMode = none then [unknownMode c.service.corsMode] else []

end Lines

/-- A start: the lines that the configured filter shows, and the gateway ready to listen. -/
structure Start where
  lines : List Log.Line
  outcome : Except Failure Gateway

def start (c : Config) : Start :=
  let shown (lines : List Log.Line) := lines.filter (Log.Filter.ofText c.service.logLevel).shows
  match Gateway.make c with
  | .error e => ⟨shown [Lines.loggingSetUp c], .error (.state e)⟩
  | .ok g =>
    ⟨shown ([Lines.loggingSetUp c, Lines.formatsActive g.formats, Lines.starting g.formats] ++
      Lines.server c), .ok g⟩

def run (o : CommandLine.Options) (s : Config.Surroundings) : Start :=
  match configure o s with
  | .error f => ⟨[], .error f⟩
  | .ok c => start c

end RestGateway.Startup
