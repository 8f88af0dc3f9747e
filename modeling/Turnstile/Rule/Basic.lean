import Turnstile.Rule.Matching
import Turnstile.Rule.Window

/-!
# Rules

A rule as authored is a JSON object; `decode` reads it once.  Members that are missing
or malformed take their defaults, so only numbers that cannot be converted are faults.
-/

namespace Turnstile

/-- An action as authored. -/
structure Action where
  kind : String
  data : Members Json

/-- A rule that classifies visitors. -/
structure Rule where
  id : Option String
  enabled : Bool
  priority : Int
  startAt : Option Moment
  endAt : Option Moment
  conditions : Members Rule.Expectation
  /-- The triggers under which the rule is looked at. -/
  criteria : List Wording
  action : Option Action
  segment : Json
  /-- The members as authored. -/
  raw : Members Json

namespace Rule

/-- The criterion of visits evaluated on the server. -/
def serverSide : String := "Server-Side"

/-- The priority of rules that give none. -/
def defaultPriority : Int := 100

/-- The priority that a value gives: its integer part, if it is a finite number. -/
def decodePriority (v : Json) : Except Fault Int :=
  if isNumeric v then do return ((← toDouble v).truncate?).getD defaultPriority
  else .ok defaultPriority

/-- The action that a value gives: an object with a type that is a non-empty text. -/
def decodeAction : Json → Option Action
  | .object members =>
    match Members.get? members "type" with
    | some (.string kind) =>
      if kind = "" then none
      else
        match Members.get? members "data" with
        | some (.object data) => some ⟨kind, data⟩
        | _ => some ⟨kind, []⟩
    | some (.halved kind) => some ⟨kind.shown, []⟩
    | _ => none
  | _ => none

/-- The texts of a list, each at its first place. -/
def distinctTexts (items : List Json) : List Wording :=
  let add := fun (seen : List Wording) text => if seen.contains text then seen else seen ++ [text]
  items.foldl (fun seen item =>
    match item with
    | .string s => add seen (.whole s)
    | .halved t => add seen (.halved t)
    | _ => seen) []

/-- The criteria that a value gives. -/
def decodeCriteria : Json → List Wording
  | .array items => distinctTexts items
  | _ => []

/-- The identifier that a value gives. -/
def decodeId : Json → Option String
  | .null => none
  | v => some v.display

/-- Reads a rule. -/
def decode (members : Members Json) : Except Fault Rule := do
  let raw := Json.object members
  let priority ← decodePriority (raw.member "priority")
  let startAt ← bound (raw.member "start_at")
  let endAt ← bound (raw.member "end_at")
  let conditions ← decodeConditions (raw.member "conditions")
  return {
    id := decodeId (raw.member "id")
    enabled := !disables (raw.member "enabled")
    priority
    startAt
    endAt
    conditions
    criteria := decodeCriteria (raw.member "criteria")
    action := decodeAction (raw.member "action")
    segment := raw.member "segment"
    raw := members }

/-- Reads a raw rule if it is active. -/
def decodeActive (now : Moment) (raw : Json) : Except Fault (Option Rule) := do
  match raw with
  | .object members => if ← isActive now raw then return some (← decode members) else return none
  | _ => return none

/-- The order in which rules are looked at: by priority. -/
def precedes (a b : Rule) : Bool := a.priority ≤ b.priority

/-- Reads the active rules of a list and orders them by priority, ties as they stand. -/
def normalize (now : Moment) (raws : List Json) : Except Fault (List Rule) := do
  let rules ← raws.filterMapM (decodeActive now)
  return rules.mergeSort precedes

/-- The rules of a document: a list, or an object with a list of rules. -/
def documentRules : Json → List Json
  | .array items => items
  | .object members =>
    match Members.get? members "rules" with
    | some (.array items) => items
    | _ => []
  | _ => []

end Rule

end Turnstile
