import Turnstile.Rule.Signal
import Turnstile.Rule.Fault
import Turnstile.Text.Case

/-!
# Expectations

What a condition expects of a signal.  Raw JSON expectations are decoded once, when a
rule is read: an object with an `op` member is an operator with its operand, any other
object or array stands for its compact text, anything else for itself.

Two kinds of condition have a form of their own: parameters, with one comparison for
each name, and the click mark, which names a query parameter.
-/

namespace Turnstile.Rule

/-- A comparison with one signal. -/
inductive Comparison where
  | literal (value : Json)
  | operator (name : String) (operand : Json)

/-- What a condition expects. -/
inductive Expectation where
  | comparison (comparison : Comparison)
  /-- One comparison for each parameter name. -/
  | parameters (params : Members Comparison)
  /-- A click mark is present in the query. -/
  | clickMark (param : String) (seconds : Option Int)
  /-- Not a form that the condition can have. -/
  | invalid (raw : Json)

/-- Decodes the comparison that a value writes. -/
def decodeComparison (raw : Json) : Comparison :=
  match raw with
  | .object members =>
    match Members.get? members "op" with
    | none | some .null => .literal (.string (Json.write .compact raw))
    | some op => .operator (Text.lower op.display) (raw.member "value")
  | .array _ => .literal (.string (Json.write .compact raw))
  | other => .literal other

/-- The conditions whose expectation has one comparison for each parameter. -/
def parameterConditions : List String := ["query_params", "post_params"]

/-- The condition on a click mark, and the parameter it names by default. -/
def clickCondition : String := "gclid_fresh"

/-- The click parameter that is looked for by default. -/
def defaultClickParam : String := "gclid"

/-- The number of seconds that a value gives; an infinite one is a fault. -/
def decodeSeconds : Json → Except Fault (Option Int)
  | .bool b => .ok (some (if b then 1 else 0))
  | .int n => .ok (some n)
  | .float (.infinite _) => .error .numberTooLarge
  | .float x => .ok x.truncate?
  | .string s => .ok (Text.integer? s.toList)
  | _ => .ok none

/-- Decodes the expectation of a condition. -/
def decodeCondition (key : String) (raw : Json) : Except Fault Expectation :=
  if parameterConditions.contains key then
    match raw with
    | .object members =>
      .ok (.parameters (members.map fun (name, value) => (name, decodeComparison value.unnamed)))
    | other => .ok (.invalid other)
  else if key = clickCondition then
    match raw with
    | .object _ => do
      let param := raw.member "param"
      let seconds ← decodeSeconds (raw.member "seconds")
      return .clickMark (if param.isTruthy then param.display else defaultClickParam) seconds
    | _ => .ok (.clickMark defaultClickParam none)
  else .ok (.comparison (decodeComparison raw))

/-- Decodes the conditions of a rule in their order; anything but an object holds none. -/
def decodeConditions : Json → Except Fault (Members Expectation)
  | .object members =>
    members.mapM fun (key, raw) => do return (key, ← decodeCondition key raw.unnamed)
  | _ => .ok []

/-- The operand of a comparison. -/
def Comparison.operand : Comparison → Json
  | .literal value => value
  | .operator _ operand => operand

/-- The operand of an expectation; forms that are no comparison have none. -/
def Expectation.operand : Expectation → Json
  | .comparison c => c.operand
  | _ => .null

end Turnstile.Rule
