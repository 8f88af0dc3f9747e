import Turnstile.Json.Reader
import Turnstile.Schema.Number
import Turnstile.Service.EnvFile
import Turnstile.Text.Case

/-!
# Settings

The settings of a service come in layers: values given outright, variables of the
environment, a file of variables, and defaults.  A variable is named like its setting,
after a common beginning and in any case.  Settings that are not declared are kept if
they are given outright or stand in the file.
-/

namespace Turnstile

/-- The settings of a service. -/
structure Settings where
  env : String
  logLevel : String
  /-- The origins that browsers may call from, outside local development. -/
  origins : List String
  redisUrl : String
  rulesSource : String
  rulesFile : String
  rulesKey : String
  criterion : String
  cacheBackend : String
  cacheFolder : String
  apiUrl : String
  apiFields : String
  /-- The seconds that a lookup may take. -/
  timeout : Double
  includeRoot : Option String
  /-- The key of privileged callers. -/
  apiKey : Option String
  service : String
  port : Int
  host : String
  /-- Settings that are not declared. -/
  extra : Members Json

/-- Why settings cannot be read. -/
inductive SettingsFault where
  /-- The value of a variable cannot be read as a document. -/
  | unreadableVariable
  | flawed (flaws : List Flaw)
  deriving DecidableEq, Repr

namespace Settings

/-- The setting whose variable holds a document. -/
def documentName : String := "cors_origins"

/-- The names of the declared settings, in order. -/
def declared : List String :=
  ["env", "log_level", documentName, "redis_url", "rules_source", "rules_file", "rules_redis_key",
    "default_criterion", "ip_cache_backend", "ip_cache_dir", "ip_api_url", "ip_api_fields",
    "ip_lookup_timeout", "include_root", "server_api_key", "service_name", "port", "host"]

/-- The service that lookups ask by default. -/
def defaultApiUrl : String := "http://ip-api.com/json"

/-- The fields that lookups ask for by default. -/
def defaultApiFields : String := "66846719"

/-- The seconds that a lookup may take by default. -/
def defaultTimeout : Double := Double.ofInt 2

/-- Checks settings. -/
def check (ms : Members Json) : Checked Settings := do
  let text := fun name absent => Checked.field ms [name] absent Checked.text
  let env ← text "env" "local"
  let logLevel ← text "log_level" "info"
  let origins ← Checked.field ms [documentName] [] Checked.texts
  let redisUrl ← text "redis_url" "redis://localhost:6379/0"
  let rulesSource ← text "rules_source" "file"
  let rulesFile ← text "rules_file" "settings.json"
  let rulesKey ← text "rules_redis_key" "gate:rules"
  let criterion ← text "default_criterion" "Server-Side"
  let cacheBackend ← text "ip_cache_backend" "file"
  let cacheFolder ← text "ip_cache_dir" "sessions/_ipcache"
  let apiUrl ← text "ip_api_url" defaultApiUrl
  let apiFields ← text "ip_api_fields" defaultApiFields
  let timeout ← Checked.field ms ["ip_lookup_timeout"] defaultTimeout Checked.positiveNumber
  let includeRoot ← Checked.field ms ["include_root"] none Checked.optionalText
  let apiKey ← Checked.field ms ["server_api_key"] none Checked.optionalText
  let service ← text "service_name" ""
  let port ← Checked.field ms ["port"] 0 Checked.integer
  let host ← text "host" "0.0.0.0"
  return {
    env, logLevel, origins, redisUrl, rulesSource, rulesFile, rulesKey, criterion, cacheBackend
    cacheFolder, apiUrl, apiFields, timeout, includeRoot, apiKey, service, port, host
    extra := ms.filter fun (name, _) => !declared.contains name }

/-- A text or null as a value. -/
def optionalValue : Option String → Json
  | some s => .string s
  | none => .null

/-- All settings by name. -/
def members (s : Settings) : Members Json :=
  [("env", .string s.env), ("log_level", .string s.logLevel),
    (documentName, .array (s.origins.map .string)), ("redis_url", .string s.redisUrl),
    ("rules_source", .string s.rulesSource), ("rules_file", .string s.rulesFile),
    ("rules_redis_key", .string s.rulesKey), ("default_criterion", .string s.criterion),
    ("ip_cache_backend", .string s.cacheBackend), ("ip_cache_dir", .string s.cacheFolder),
    ("ip_api_url", .string s.apiUrl), ("ip_api_fields", .string s.apiFields),
    ("ip_lookup_timeout", .float s.timeout), ("include_root", optionalValue s.includeRoot),
    ("server_api_key", optionalValue s.apiKey), ("service_name", .string s.service),
    ("port", .int s.port), ("host", .string s.host)] ++ s.extra

/-- What the names of variables begin with. -/
def beginning : String := "gate_"

/-- The variable of a setting. -/
def variableOf (name : String) : String := beginning ++ name

/-- Variables under their names in lowercase, a later one in the place of an earlier. -/
def lowered {α : Type} (values : Members α) : Members α :=
  Members.ofList (values.map fun (name, value) => (Text.lower name, value))

/-- The variables that have a value. -/
def valued (values : Members (Option String)) : Members String :=
  values.filterMap fun (name, value) => value.map fun v => (name, v)

/-- The value that a variable gives to a setting. -/
def variableValue? (name value : String) : Except SettingsFault (Option Json) :=
  if name = documentName then
    match Json.read? value with
    | none => .error .unreadableVariable
    | some .null => .ok none
    | some document => .ok (some document)
  else .ok (some (.string value))

/-- The settings that variables give. -/
def variableLayer (values : Members String) : Except SettingsFault (Members Json) :=
  declared.filterMapM fun name =>
    match values.get? (variableOf name) with
    | none => .ok none
    | some value => do return (← variableValue? name value).map fun v => (name, v)

/-- The name under which a variable of the file is kept, if it is no declared setting's. -/
def extraName? (name : String) : Option String :=
  if declared.contains name || declared.any (fun s => variableOf s == name)
      || (variableOf documentName).toList.isPrefixOf name.toList then none
  else if beginning.toList.isPrefixOf name.toList then
    some (String.ofList (name.toList.drop beginning.length))
  else some name

/-- Keeps an undeclared setting of the file, unless it is empty or its name is taken. -/
def withExtra (kept : Members Json) (entry : String × String) : Members Json :=
  if entry.2 = "" || (kept.get? entry.1).isSome then kept
  else
    match extraName? entry.1 with
    | some name => kept.set name (.string entry.2)
    | none => kept

/-- The undeclared settings of the file. -/
def extraLayer (values : Members String) : Members Json := values.foldl withExtra []

/-- All layers, one over the other. -/
def layers (environment : Members String) (file : String) (given : Members Json) :
    Except SettingsFault (Members Json) := do
  let fileVariables := valued (lowered (EnvFile.valuesOf environment file))
  let fromEnvironment ← variableLayer (lowered environment)
  let fromFile ← variableLayer fileVariables
  let ofFile := Members.overlay fromFile (extraLayer fileVariables)
  return Members.overlay (Members.overlay ofFile fromEnvironment) given

/-- The settings of a service, given by the environment, the text of a file, and outright. -/
def load (environment : Members String) (file : String) (service port : Json)
    (given : Members Json) : Except SettingsFault Settings := do
  let named := Members.overlay [("service_name", service), ("port", port)] given
  match (check (← layers environment file named)).result with
  | .ok settings => return settings
  | .error flaws => .error (.flawed flaws)

end Settings

end Turnstile
