import RestGateway.Startup

/-!
# The command

Reads the command line, the environment and the configuration file, and goes as far as a gateway
that is ready to listen: it writes the log lines and, where the way ends early, the reason. It opens
no port; `Gateway.serveLayered` says how each request is to be answered.
-/

set_option autoImplicit false

namespace RestGateway.Command

def readFile? (path : String) : IO (Option (List UInt8)) := do
  try
    return some (← IO.FS.readBinFile path).toList
  catch _ => return none

def readVariables : IO Config.Environment.Variables := do
  return Config.Environment.ofBlock ((← readFile? "/proc/self/environ").getD [])

def look (env : Config.Environment.Variables) (o : CommandLine.Options) :
    IO Config.Surroundings := do
  let found ← (Config.paths o.config).mapM fun path => do return (path, ← readFile? path)
  return ⟨env, fun path => (found.lookup path).join⟩

def stop (s : CommandLine.Stop) : IO UInt32 := do
  if s.exitCode = 0 then IO.print s.text else IO.eprint s.text
  return s.exitCode.toUInt32

def start (o : CommandLine.Options) (s : Config.Surroundings) : IO UInt32 := do
  let started := Startup.run o s
  for line in started.lines do
    IO.println line.toJson.text
  match started.outcome with
  | .ok _ => return 0
  | .error failure =>
    IO.eprint failure.report
    return 1

end RestGateway.Command

open RestGateway in
def main (args : List String) : IO UInt32 := do
  let env ← Command.readVariables
  match CommandLine.parse args env with
  | .error s => Command.stop s
  | .ok o => Command.start o (← Command.look env o)
