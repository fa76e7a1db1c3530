import RestGateway.Backend.Client
import RestGateway.Config.Error
import RestGateway.Filter.Registry
import RestGateway.Json.Decoder

/-!
# Configuration

What the gateway is told before it starts, the values it uses where it is told nothing, and the
rules that a configuration must keep to be started with.
-/

set_option autoImplicit false

namespace RestGateway

namespace Config

/-- How the gateway serves its callers; times are in seconds, the body limit in mebibytes. -/
structure Service where
  name : String
  port : Nat
  logLevel : String
  timeout : Nat
  corsMode : String
  bodyLimit : Nat
  deriving DecidableEq, Repr

structure Backend where
  host : String
  apiPath : String
  timeout : Nat
  cachedClients : Nat
  deriving DecidableEq, Repr

end Config

structure Config where
  service : Config.Service
  backend : Config.Backend
  /-- The active query formats in the order in which they are tried. -/
  formats : List String
  deriving DecidableEq, Repr

namespace Config

namespace Service

def builtin : Service :=
  { name := "sg-restful", port := 8000, logLevel := "info", timeout := 30,
    corsMode := "permissive", bodyLimit := 10 }

open Json.Reader in
def decoder : Json.Decoder Service :=
  .record "ServiceConfig" builtin fun depth => [
    required "name" (fun v s => { s with name := v }) (Json.Decoder.string depth),
    defaulted "port" (fun v s => { s with port := v }) (Json.Decoder.natural UInt16.size "u16" depth),
    defaulted "log_level" (fun v s => { s with logLevel := v }) (Json.Decoder.string depth),
    defaulted "timeout_secs" (fun v s => { s with timeout := v })
      (Json.Decoder.natural UInt64.size "u64" depth),
    defaulted "cors_mode" (fun v s => { s with corsMode := v }) (Json.Decoder.string depth),
    defaulted "body_limit_mb" (fun v s => { s with bodyLimit := v })
      (Json.Decoder.natural UInt64.size "usize" depth)]

def settings (s : Service) : Setting :=
  .table [("name", .string s.name), ("port", .unsigned s.port), ("log_level", .string s.logLevel),
    ("timeout_secs", .unsigned s.timeout), ("cors_mode", .string s.corsMode),
    ("body_limit_mb", .unsigned s.bodyLimit)]

end Service

namespace Backend

def builtin : Backend :=
  { host := "", apiPath := defaultApiPath, timeout := 30, cachedClients := 1024 }

open Json.Reader in
def decoder : Json.Decoder Backend :=
  .record "BackendConfig" builtin fun depth => [
    defaulted "host" (fun v b => { b with host := v }) (Json.Decoder.string depth),
    defaulted "api_path" (fun v b => { b with apiPath := v }) (Json.Decoder.string depth),
    defaulted "timeout_secs" (fun v b => { b with timeout := v })
      (Json.Decoder.natural UInt64.size "u64" depth),
    defaulted "max_cached_connections" (fun v b => { b with cachedClients := v })
      (Json.Decoder.natural UInt64.size "usize" depth)]

def settings (b : Backend) : Setting :=
  .table [("host", .string b.host), ("api_path", .string b.apiPath),
    ("timeout_secs", .unsigned b.timeout), ("max_cached_connections", .unsigned b.cachedClients)]

end Backend

namespace Formats

open Json.Reader in
def decoder : Json.Decoder (List String) :=
  .record "QueryConfig" Registry.builtinNames fun depth => [
    defaulted "formats" (fun v _ => v) (Json.Decoder.list .string depth)]

def settings (formats : List String) : Setting :=
  .table [("formats", .list (formats.map .string))]

end Formats

def builtin : Config := ⟨.builtin, .builtin, Registry.builtinNames⟩

open Json.Reader in
def decoder : Json.Decoder Config :=
  .record "Config" builtin fun depth => [
    required "service" (fun v c => { c with service := v }) (Service.decoder depth),
    required "backend" (fun v c => { c with backend := v }) (Backend.decoder depth),
    defaulted "query" (fun v c => { c with formats := v }) (Formats.decoder depth)]

def settings (c : Config) : Setting :=
  .table [("service", c.service.settings), ("backend", c.backend.settings),
    ("query", Formats.settings c.formats)]

/-- The first rule that the configuration breaks. -/
def validate (c : Config) : Except Error Unit :=
  if c.backend.host.isEmpty then .error (.unusable "Shotgun host not set.")
  else if !"http".toList.isPrefixOf c.backend.host.toList then
    .error (.unusable ("Host must start with http:// or https://, got '" ++ c.backend.host ++ "'"))
  else if c.backend.cachedClients = 0 then
    .error (.unusable "backend.max_cached_connections must be at least 1")
  else .ok ()

def bodyLimitBytes (c : Config) : Nat := c.service.bodyLimit * 1024 * 1024

end Config

end RestGateway
