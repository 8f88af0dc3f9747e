import Turnstile.Http.Payload
import Turnstile.Json.Finite
import Turnstile.Service.Admission
import Turnstile.Service.Basic

/-!
# Handling requests

What each endpoint makes of a request.  A privileged endpoint first asks whether the
caller is admitted; only the text of a report is read before that.

**Outcomes.**  A request is answered, or fails with something that is reported to the
caller, or breaks on a fault of which the caller learns nothing.
-/

namespace Turnstile

/-- How the handling of a request ends. -/
inductive Outcome where
  | answered (a : Http.Answer)
  | failed (f : Failure)
  | broken

/-- What handling a request brings. -/
structure Handling where
  service : Service
  outcome : Outcome
  calls : List LookupCall
  /-- The rules were read. -/
  readsRules : Bool

namespace Handling

/-- An answer that changes nothing and needs nothing. -/
def answer (s : Service) (a : Http.Answer) : Handling := ⟨s, .answered a, [], false⟩

/-- A failure before anything was done. -/
def refuse (s : Service) (f : Failure) : Handling := ⟨s, .failed f, [], false⟩

/-- The outcome for rules that cannot be loaded. -/
def ofLoadFault : LoadFault → Outcome
  | .source .notStarted => .failed RuleSource.notStartedFailure
  | _ => .broken

/-- The outcome for a decision that is not made. -/
def ofDecisionFault : DecisionFault → Outcome
  | .load fault => ofLoadFault fault
  | _ => .broken

/-- The answer with an object in which all numbers are finite. -/
def report (members : Members Json) : Outcome :=
  .answered (Http.Answer.object 200 (Json.finiteMembers members))

/-- The document of a service in good health. -/
def healthyDocument (s : Service) : Members Json :=
  [("service", .string s.name), ("status", .string "ok"),
    ("uptime_seconds", .float s.standing.uptime), ("dependencies", .object s.dependencies),
    ("version", .string Service.version),
    ("commit", .string (s.standing.commit.getD Service.unknownCommit))]

/-- The document of a service whose check ended in an error. -/
def ailingDocument (s : Service) (text : String) : Members Json :=
  [("service", .string s.name), ("status", .string "error"), ("error", .string text)]

/-- Tells the health of a service. -/
def health (s : Service) : Handling :=
  let counted := fun word => { s with tally := s.tally.recordHealthCheck word }
  match s.ailments.check with
  | none => answer (counted "ok") (Http.Answer.object 200 (healthyDocument s))
  | some text => answer (counted "error") (Http.Answer.object 503 (ailingDocument s text))

/-- What the service that decides says of itself. -/
def homeDocument : Members Json :=
  [("service", .string Service.decisionsName),
    ("message", .string "Visitor Gate - Decisions Service"),
    ("version", .string Service.version),
    ("capabilities", .array
      [.string "rule_engine", .string "ip_intelligence", .string "signed_redirects"])]

/-- The criterion that a request names, or that of the settings. -/
def criterion (s : Service) (r : Http.Request) : String :=
  ((r.target.parameters.get? "criterion").filter (· != "")).getD s.settings.criterion

/-- Decides on a visit. -/
def decide (s : Service) (e : Engine) (r : Http.Request) (privileged : Bool)
    (view : Decision → Members Json) (visit : Request) : Handling :=
  let d := Decision.decide e.surroundings ⟨e.cache, some s.tally⟩ visit (criterion s r) privileged
  { service := {
      s with
      tally := d.memory.tally.getD s.tally
      engine := some (e.withCache d.memory.cache) }
    outcome :=
      match d.result with
      | .ok decision => report (view decision)
      | .error fault => ofDecisionFault fault
    calls := d.calls
    readsRules :=
      match d.result with
      | .error .lookupRefused => false
      | _ => true }

/-- Decides on the visit that a payload reports. -/
def onPayload (s : Service) (payload : Http.Payload) (f : Request → Handling) : Handling :=
  match payload.visit with
  | .ok visit => f visit
  | .error flaws => answer s (Http.Answer.flawed flaws)

/-- Reads the payload of a request. -/
def withPayload (s : Service) (r : Http.Request) (f : Http.Payload → Handling) : Handling :=
  match Http.Payload.read r with
  | .ok payload => f payload
  | .error flaw => answer s (Http.Answer.flawed [flaw])

/-- Goes on if the caller is admitted. -/
def whenAdmitted (s : Service) (r : Http.Request) (rest : Handling) : Handling :=
  match Admission.failure? s.settings.apiKey r with
  | some failure => refuse s failure
  | none => rest

/-- Decides for a browser. -/
def evaluate (s : Service) (e : Engine) (r : Http.Request) : Handling :=
  withPayload s r fun payload =>
    onPayload s payload (decide s e r false Decision.clientView)

/-- Decides for a privileged caller. -/
def evaluateServerSide (s : Service) (e : Engine) (r : Http.Request) : Handling :=
  withPayload s r fun payload =>
    whenAdmitted s r (onPayload s payload (decide s e r true Decision.serverView))

/-- A bound of a rule's window as a value. -/
def boundValue : Option Moment → Json
  | some m => .string m.minuteText
  | none => .null

/-- What privileged callers see of a rule. -/
def ruleSummary (r : Rule) : Json :=
  .object [("id", Record.textValue r.id), ("priority", .int r.priority),
    ("criteria", .array (r.criteria.map .ofWording)),
    ("conditions", .array (r.conditions.map fun (key, _) => .string key)),
    ("action_type", Record.textValue (r.action.map (·.kind))),
    ("start_at", boundValue r.startAt), ("end_at", boundValue r.endAt)]

/-- Lists the active rules in order. -/
def listRules (s : Service) (e : Engine) : Handling :=
  let outcome :=
    match e.surroundings.rules.load e.surroundings.now with
    | .ok rules =>
      report [("rules", .array (rules.map ruleSummary)), ("total", .int rules.length)]
    | .error fault => ofLoadFault fault
  ⟨s, outcome, [], true⟩

/-- What privileged callers see of an address. -/
def addressDocument (record : Record) (address localTime : String) : Members Json :=
  let traits := Traits.ofRecord record
  [("record", .object record.document), ("ip_country", .string (traits.country address)),
    ("is_vpn_or_hosting", .bool traits.isHidden), ("vpn_name", .string traits.networkName),
    ("timestamp", .string localTime)]

/-- Tells what is known of an address. -/
def describeAddress (s : Service) (e : Engine) (address : String) : Handling :=
  let resolution := Resolver.resolve e.surroundings.api e.surroundings.lookup e.cache address
  { service := {
      s with
      tally := ResolutionEvent.recordAll s.tally resolution.events
      engine := some (e.withCache resolution.cache) }
    outcome :=
      match resolution.record with
      | some record => report (addressDocument record address s.standing.localTime)
      | none => .broken
    calls := resolution.calls
    readsRules := false }

/-- Handles a request at an endpoint of the service that decides. -/
def decisionEndpoint (s : Service) (e : Engine) (r : Http.Request) (segment : String) :
    Http.Endpoint → Handling
  | .evaluate => evaluate s e r
  | .serverSide => evaluateServerSide s e r
  | .rules => whenAdmitted s r (listRules s e)
  | .address => whenAdmitted s r (describeAddress s e segment)
  | _ => answer s (Http.Answer.object 200 homeDocument)

/-- There is nothing at the path. -/
def notFound (s : Service) : Handling := answer s (Http.Answer.detail 404 "Not Found")

/-- Handles a request at an endpoint. -/
def endpoint (s : Service) (r : Http.Request) (segment : String) : Http.Endpoint → Handling
  | .schema => answer s (Http.Answer.plain 200 .schema)
  | .docs | .signIn | .redoc => answer s (Http.Answer.plain 200 .page)
  | .health => health s
  | .metrics => answer s (Http.Answer.plain 200 (.samples []))
  | other =>
    match s.engine with
    | some e => decisionEndpoint s e r segment other
    | none => notFound s

/-- Handles a request where its route leads. -/
def route (s : Service) (r : Http.Request) : Handling :=
  match Http.Route.find s.endpoints r.method r.target.path with
  | .endpoint e segment => endpoint s r segment e
  | .wrongMethod allowed =>
    answer s ((Http.Answer.detail 405 "Method Not Allowed").withHeader "allow"
      (Text.joined ", " allowed))
  | .moved path => answer s ((Http.Answer.plain 307 .empty).withHeader "location" path)
  | .notFound => notFound s

end Handling

end Turnstile
