import Turnstile.Rule.Signal
import Turnstile.Rule.Fault

/-!
# Conversion to doubles

Numbers are compared, and priorities and times read, as doubles.
-/

namespace Turnstile.Rule

/-- The double that an integer was rounded to; an infinity is a fault. -/
def withinRange : Double → Except Fault Double
  | .infinite _ => .error .numberTooLarge
  | x => .ok x

/-- The double that a numeric value converts to. -/
def toDouble : Json → Except Fault Double
  | .int n => withinRange (Double.ofInt n)
  | .float x => .ok x
  | .string s =>
    match Double.ofText? s with
    | some x => .ok x
    | none => .error .unreadableNumeral
  | _ => .error .unreadableNumeral

end Turnstile.Rule
