import Turnstile.Decision
import Turnstile.Http.Cors
import Turnstile.Http.Route
import Turnstile.Service.Settings

/-!
# Services

A service has a name, settings and a tally.  A service that decides has an engine
besides: the sources of rules and records that its settings choose.

**Start.**  Clients of remote stores are opened when the service starts.  The first that
cannot be opened keeps the service from starting.
-/

namespace Turnstile

/-- What a service finds where it runs. -/
structure Site where
  rulesFile : RuleFile
  store : Remote
  /-- What comes of a lookup of an address. -/
  lookup : String → LookupOutcome
  includeRoot : Option IncludeRoot
  now : Moment
  /-- The time that a decision takes, in seconds. -/
  elapsed : Double

/-- What a service decides with. -/
structure Engine where
  surroundings : Surroundings
  cache : Cache

/-- The parts of an engine that are asked for their health. -/
inductive Component where
  | rules
  | cache
  deriving DecidableEq, Repr

/-- What goes wrong when a service asks for the health of what it depends on. -/
structure Ailments where
  /-- The error that ends the check, if any. -/
  check : Option String
  /-- The parts whose own check fails. -/
  components : List Component

/-- What a service finds out about itself when it is asked. -/
structure Standing where
  /-- The revision that the environment names, if it names one. -/
  commit : Option String := none
  /-- The seconds since the service was made. -/
  uptime : Double := Double.zero
  /-- The local date and time. -/
  localTime : String := ""

/-- A service. -/
structure Service where
  name : String
  settings : Settings
  tally : Tally
  /-- None if the service makes no decisions. -/
  engine : Option Engine
  ailments : Ailments
  standing : Standing := {}

namespace Engine

/-- The setting by which rules or records are kept in a remote store. -/
def remoteName : String := "redis"

/-- The lookups that settings choose. -/
def api (settings : Settings) : LookupApi :=
  ⟨settings.apiUrl, some settings.apiFields, .float settings.timeout⟩

/-- The source of rules that settings choose. -/
def rules (settings : Settings) (site : Site) : RuleSource :=
  if settings.rulesSource = remoteName then .remote settings.rulesKey site.store
  else .file site.rulesFile true

/-- The cache that settings choose. -/
def cacheOf (settings : Settings) (site : Site) : Cache :=
  if settings.cacheBackend = remoteName then .remote site.store
  else .folder { CacheFolder.initial with hasParent := true }

/-- The engine that settings choose. -/
def ofSettings (settings : Settings) (site : Site) : Engine where
  surroundings := {
    api := api settings
    lookup := site.lookup
    includeRoot := site.includeRoot
    rules := rules settings site
    now := site.now
    elapsed := site.elapsed }
  cache := cacheOf settings site

/-- The source of rules after opening its client. -/
def startRules : RuleSource → Except Failure RuleSource
  | .remote key store =>
    match store.start with
    | (opened, none) => .ok (.remote key opened)
    | (_, some text) => .error (RuleSource.startFailure text)
  | source => .ok source

/-- The cache after opening its client. -/
def startCache : Cache → Except Failure Cache
  | .remote store =>
    match store.start with
    | (opened, none) => .ok (.remote opened)
    | (_, some text) => .error (Cache.startFailure text)
  | cache => .ok cache

/-- The engine after opening its clients. -/
def start (e : Engine) : Except Failure Engine := do
  let rules ← startRules e.surroundings.rules
  let cache ← startCache e.cache
  return ⟨{ e.surroundings with rules }, cache⟩

/-- The engine with another cache; what a remote store holds is seen by both clients. -/
def withCache (e : Engine) (cache : Cache) : Engine :=
  match e.surroundings.rules, cache with
  | .remote key store, .remote written =>
    ⟨{ e.surroundings with rules := .remote key { store with values := written.values } }, cache⟩
  | _, _ => ⟨e.surroundings, cache⟩

end Engine

namespace Service

/-- The name of the service that decides. -/
def decisionsName : String := Metric.decisionsService

/-- The port of the service that decides. -/
def decisionsPort : Int := 8013

/-- The version of all services. -/
def version : String := "1.0.0"

/-- The revision of a service whose environment names none. -/
def unknownCommit : String := "unknown"

/-- The environment of local development. -/
def localEnv : String := "local"

/-- A service that makes no decisions. -/
def bare (name : String) (settings : Settings) (ailments : Ailments) (standing : Standing) :
    Service :=
  ⟨name, settings, Tally.initial name, none, ailments, standing⟩

/-- The service that decides. -/
def decisions (settings : Settings) (site : Site) (ailments : Ailments) (standing : Standing) :
    Service :=
  ⟨decisionsName, settings, Tally.initial decisionsName, some (Engine.ofSettings settings site),
    ailments, standing⟩

/-- The service after its start. -/
def start (s : Service) : Except Failure Service :=
  match s.engine with
  | none => .ok s
  | some engine => do return { s with engine := some (← engine.start) }

/-- The service runs in local development. -/
def isLocal (s : Service) : Bool := s.settings.env == localEnv

/-- The origins whose pages may call: all in local development. -/
def cors (s : Service) : Http.Cors :=
  ⟨if s.isLocal then [Http.Cors.everyOrigin] else s.settings.origins⟩

/-- The endpoints of a service; documentation only in local development. -/
def endpoints (s : Service) : List Http.Endpoint :=
  (if s.isLocal then Http.Endpoint.documentation else []) ++ Http.Endpoint.common
    ++ (if s.engine.isSome then Http.Endpoint.decisions else [])

/-- The letters of a name, each run of them beginning with a capital. -/
def capitalized (afterLetter : Bool) : List Char → List Char
  | [] => []
  | c :: rest => (if afterLetter then c.toLower else c.toUpper) :: capitalized c.isAlpha rest

/-- The title of a service; its name is written in ASCII. -/
def title (s : Service) : String := String.ofList (capitalized false s.name.toList) ++ " Service"

/-- A part of the engine is healthy. -/
def isHealthy (s : Service) (e : Engine) (c : Component) : Bool :=
  !s.ailments.components.contains c &&
    match c with
    | .rules => e.surroundings.rules.isHealthy
    | .cache => e.cache.isHealthy

/-- The word for the health of a part of the engine. -/
def healthWord (s : Service) (e : Engine) (c : Component) : Json :=
  .string (if s.isHealthy e c then "ok" else "error")

/-- The health of what a service depends on. -/
def dependencies (s : Service) : Members Json :=
  match s.engine with
  | none => []
  | some e => [("rules", s.healthWord e .rules), ("ip_cache", s.healthWord e .cache)]

end Service

end Turnstile
