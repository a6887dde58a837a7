import Reminders.Config.Environment
import Reminders.Yaml.Typed

/-!
# Api — configuration
-/

namespace Reminders

/-- The section `http` of the settings. -/
structure HttpConfig where
  host : String := "0.0.0.0"
  port : Nat := 8080
  /-- The seconds after which a request is given up. -/
  requestTimeout : Nat := 30
  /-- Stands in front of the paths of events; may be empty. -/
  apiPrefix : String := ""
  /-- The origins that may call from a browser. -/
  corsAllowedOrigins : List String := []
deriving DecidableEq

namespace HttpConfig

/-- Reads the section. -/
def typed : Yaml.Typed HttpConfig :=
  Yaml.sectionOf {} [
    .of "host" (fun c v => { c with host := v }) Yaml.text,
    .of "port" (fun c v => { c with port := v }) (Yaml.natural bound16),
    .of "request_timeout_secs" (fun c v => { c with requestTimeout := v }) (Yaml.natural bound64),
    .of "api_prefix" (fun c v => { c with apiPrefix := v }) Yaml.text,
    .of "cors_allowed_origins" (fun c v => { c with corsAllowedOrigins := v })
      (Yaml.listOf Yaml.text)]

/-- The origins in a list with commas; blanks around them and empty ones are dropped. -/
def originsOf (s : String) : List String :=
  ((Text.words ',' s).map Text.trim).filter fun origin => !origin.isEmpty

/-- The section with the changes that the environment asks for. -/
def applyEnv (c : HttpConfig) (env : Environment) : Except ConfigError HttpConfig := do
  let port ← env.natural? bound16 "HTTP_PORT"
  let timeout ← env.natural? bound64 "HTTP_REQUEST_TIMEOUT_SECS"
  return {
    host := (env.text? "HTTP_HOST").getD c.host
    port := port.getD c.port
    requestTimeout := timeout.getD c.requestTimeout
    apiPrefix := (env.text? "API_PREFIX").getD c.apiPrefix
    corsAllowedOrigins :=
      ((env.text? "CORS_ALLOWED_ORIGINS").map originsOf).getD c.corsAllowedOrigins }

/-- The rules of the section. -/
def validate (c : HttpConfig) : Except ConfigError Unit :=
  let cs := c.apiPrefix.toList
  if c.requestTimeout = 0 then
    .error (.invalid "http.request_timeout_secs must be greater than zero")
  else if !cs.isEmpty && (cs.head? != some '/' || cs.getLast? == some '/') then
    .error (.invalid ("http.api_prefix must start with '/' and not end with '/': " ++
      c.apiPrefix))
  else .ok ()

/-- The address to listen at. -/
def bindAddress (c : HttpConfig) : String :=
  c.host ++ ":" ++ toString c.port

end HttpConfig

end Reminders
