import Turnstile.Rule.Basic
import Turnstile.Rule.Condition

/-!
# The scan for a matching rule

Rules are looked at in order.  A rule without the criterion is passed over; of any other
the conditions are tried in order up to the first that does not hold, and the first rule
all of whose conditions hold ends the scan.  A fault ends it too.  The steps of a scan
are the conditions tried, with their results.
-/

namespace Turnstile.Rule

/-- A condition that was tried. -/
structure Step where
  key : String
  result : Except Fault Bool

/-- The conditions tried for one rule, and whether all hold. -/
structure Trial where
  steps : List Step
  result : Except Fault Bool

/-- Tries conditions in order up to the first that does not hold. -/
def tryConditions (c : Context) : Members Expectation → Trial
  | [] => ⟨[], .ok true⟩
  | (key, e) :: rest =>
    match conditionHolds c key e with
    | .ok true =>
      let trial := tryConditions c rest
      ⟨⟨key, .ok true⟩ :: trial.steps, trial.result⟩
    | result => ⟨[⟨key, result⟩], result⟩

/-- What a scan did: the conditions tried, the number of rules looked at, and the rule found. -/
structure Scan where
  steps : List Step
  looked : Nat
  result : Except Fault (Option Rule)

/-- The rule carries a criterion. -/
def carries (r : Rule) (criterion : String) : Bool := r.criteria.contains (.whole criterion)

/-- Scans rules in order. -/
def scan (criterion : String) (c : Context) : List Rule → Scan
  | [] => ⟨[], 0, .ok none⟩
  | r :: rest =>
    if r.carries criterion then
      let trial := tryConditions c r.conditions
      match trial.result with
      | .error fault => ⟨trial.steps, 1, .error fault⟩
      | .ok true => ⟨trial.steps, 1, .ok (some r)⟩
      | .ok false =>
        let later := scan criterion c rest
        ⟨trial.steps ++ later.steps, later.looked + 1, later.result⟩
    else scan criterion c rest

/-- The first rule of a criterion that matches a context. -/
def firstMatch (criterion : String) (c : Context) (rules : List Rule) :
    Except Fault (Option Rule) :=
  (scan criterion c rules).result

end Turnstile.Rule
