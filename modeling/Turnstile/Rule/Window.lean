import Turnstile.Rule.Conversion
import Turnstile.Time.Iso

/-!
# Activity

A rule is active when it is not disabled and the time lies in its window.  A bound of
the window is a number of seconds since the start of 1970 or a moment as text; a bound
that is neither is ignored, but an integer too large for a double is a fault.
-/

namespace Turnstile.Rule

/-- The bound that a text gives; a closing `Z` is universal time. -/
def textBound? (text : String) : Option Moment :=
  let cs := Text.trimmed text.toList
  Moment.read? (if cs.getLast? = some 'Z' then cs.dropLast ++ "+00:00".toList else cs)

/-- The bound that a value gives; an integer that is no double is a fault. -/
def bound : Json → Except Fault (Option Moment)
  | .null | .bool _ => .ok none
  | .int n => do
    let _ ← toDouble (.int n)
    return Moment.ofEpochMicros? (n * microsPerSecond)
  | .float x => .ok ((Moment.epochMicros? x).bind Moment.ofEpochMicros?)
  | v => .ok (textBound? v.display)

/-- A value disables a rule: it is given and neither null nor true. -/
def disables (v : Json) : Bool := !v.isNull && !v.isTruthy

/-- A raw rule is active; the end of its window is looked at only once it has started. -/
def isActive (now : Moment) : Json → Except Fault Bool
  | .object members => do
    let raw := Json.object members
    if disables (raw.member "enabled") then return false
    if ((← bound (raw.member "start_at")).any fun start => now.isBefore start) then return false
    return !((← bound (raw.member "end_at")).any fun stop => stop.isBefore now)
  | _ => .ok false

end Turnstile.Rule
