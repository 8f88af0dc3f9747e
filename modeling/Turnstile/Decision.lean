import Turnstile.Action.Resolution
import Turnstile.Intel.Resolver
import Turnstile.Metrics.Tally
import Turnstile.Rule.Scan
import Turnstile.Rule.Source

/-!
# Decisions

A decision resolves the visitor's address, reads the rules, scans them, and resolves the
action of the rule that matches.  A rule whose action comes to nothing is no match for
the caller.  What outlives a decision is the cache and the tally; a fault leaves them as
they were when it arose.
-/

namespace Turnstile

/-- What decisions need of their surroundings. -/
structure Surroundings where
  api : LookupApi
  /-- What comes of a lookup of an address. -/
  lookup : String → LookupOutcome
  includeRoot : Option IncludeRoot
  rules : RuleSource
  /-- The present, in which rules are active and URLs are signed. -/
  now : Moment
  /-- The time that a decision takes, in seconds. -/
  elapsed : Double

/-- What outlives a decision. -/
structure Memory where
  cache : Cache
  /-- What was counted, if anything is. -/
  tally : Option Tally

/-- The outcome of a decision. -/
structure Decision where
  rule : Option Rule
  action : Option Descriptor
  directive : Option Directive
  criteria : List Wording
  /-- The number of rules looked at. -/
  looked : Nat

/-- Why there is no decision. -/
inductive DecisionFault where
  /-- The lookup of the address was refused. -/
  | lookupRefused
  | load (fault : LoadFault)
  | condition (fault : Rule.Fault)
  | action (fault : ActionFault)
  deriving DecidableEq, Repr

/-- What a decision brings. -/
structure Deciding where
  memory : Memory
  calls : List LookupCall
  result : Except DecisionFault Decision

namespace ResolutionEvent

/-- Counts an event. -/
def record (t : Tally) : ResolutionEvent → Tally
  | .cacheHit => t.increment .cacheLookups ["hit"]
  | .cacheMiss => t.increment .cacheLookups ["miss"]
  | .lookupSuccess => t.increment .apiRequests ["success"]
  | .lookupFailure => t.increment .apiRequests ["fail"]

/-- Counts events, if the service counts them. -/
def recordAll (t : Tally) (events : List ResolutionEvent) : Tally :=
  if t.has .cacheLookups then events.foldl record t else t

end ResolutionEvent

namespace Decision

/-- No rule matches, after looking at some. -/
def noMatch (looked : Nat) : Decision := ⟨none, none, none, [], looked⟩

/-- The identifier of the rule. -/
def ruleId (d : Decision) : Option String := d.rule.bind (·.id)

/-- The decision for a rule that was found, unless its action comes to nothing. -/
def ofRule (s : Surroundings) (privileged : Bool) (address : String) (looked : Nat) (r : Rule) :
    Except ActionFault Decision := do
  let action ← r.descriptor address s.now
  let directive ← if privileged then r.directive s.includeRoot address s.now else pure none
  return if action.isSome || directive.isSome then ⟨some r, action, directive, r.criteria, looked⟩
    else noMatch looked

/-- The decision in a context. -/
def inContext (s : Surroundings) (criterion : String) (privileged : Bool) (c : Context) :
    Except DecisionFault (Option Rule × Decision) :=
  match s.rules.load s.now with
  | .error fault => .error (.load fault)
  | .ok rules =>
    let scan := Rule.scan criterion c rules
    match scan.result with
    | .error fault => .error (.condition fault)
    | .ok none => .ok (none, noMatch scan.looked)
    | .ok (some r) =>
      match ofRule s privileged c.server.address scan.looked r with
      | .ok d => .ok (some r, d)
      | .error fault => .error (.action fault)

/-- The name of an outcome: whether a rule was found, and whether it came to something. -/
def outcome (found : Option Rule) (d : Decision) : String :=
  if d.rule.isSome then "matched" else if found.isSome then "no_action" else "no_match"

/-- Counts a decision. -/
def record (criterion outcome : String) (elapsed : Double) (t : Tally) : Tally :=
  (t.recordDecision outcome criterion (.float elapsed)).1

/-- Decides on a request. -/
def decide (s : Surroundings) (memory : Memory) (request : Request) (criterion : String)
    (privileged : Bool) : Deciding :=
  let address := Context.addressOf request
  let resolution := Resolver.resolve s.api s.lookup memory.cache address
  let counted := memory.tally.map fun t => ResolutionEvent.recordAll t resolution.events
  match resolution.record with
  | none => ⟨⟨resolution.cache, counted⟩, resolution.calls, .error .lookupRefused⟩
  | some record =>
    match inContext s criterion privileged (Context.ofRequest request address record) with
    | .error fault => ⟨⟨resolution.cache, counted⟩, resolution.calls, .error fault⟩
    | .ok (found, d) =>
      ⟨⟨resolution.cache, counted.map (Decision.record criterion (outcome found d) s.elapsed)⟩,
        resolution.calls, .ok d⟩

/-- The members that describe a descriptor. -/
def descriptorMembers (d : Descriptor) : Members Json :=
  [("type", .string d.kind), ("data", .object d.data), ("ruleId", Record.textValue d.ruleId)]

/-- The descriptor of the action as a value. -/
def actionValue (d : Decision) : Json :=
  match d.action with
  | some action => .object (descriptorMembers action)
  | none => .null

/-- What a browser may see of a decision. -/
def clientView (d : Decision) : Members Json :=
  [("matchedRuleId", Record.textValue d.ruleId), ("action", d.actionValue),
    ("criteria", .array (d.criteria.map .ofWording))]

/-- The directive as a value. -/
def directiveValue : Option Directive → Json
  | none => .null
  | some d =>
    let members := fun kind status location body path =>
      Json.object [("kind", .string kind), ("status_code", status), ("location", location),
        ("body", body), ("include_path", path)]
    match d with
    | .redirect status location =>
      members "redirect" (.int status) (.string location) .null .null
    | .echo body => members "echo" .null .null (.string body) .null
    | .includeFile path => members "include" .null .null .null (.string path)

/-- What a privileged caller sees of a decision. -/
def serverView (d : Decision) : Members Json :=
  d.clientView ++ [("directive", directiveValue d.directive)]

end Decision

end Turnstile
