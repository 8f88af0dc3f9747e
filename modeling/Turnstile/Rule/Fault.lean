import Turnstile.Pattern.Token

/-!
# Faults

What can stop the reading of a rule or the evaluation of a condition.
-/

namespace Turnstile.Rule

/-- Why a rule cannot be read or a condition not be evaluated. -/
inductive Fault where
  /-- A number is too large to be converted. -/
  | numberTooLarge
  /-- A numeral stands between blanks that a conversion does not skip. -/
  | unreadableNumeral
  /-- The pattern of a search is refused for a reason other than its grammar. -/
  | pattern (error : Pattern.Error)
  deriving DecidableEq, Repr

end Turnstile.Rule
