import Turnstile.Rule.Expectation
import Turnstile.Rule.Conversion
import Turnstile.Pattern.Search

/-!
# Matching

`Comparison.matches` decides one comparison against one signal.  Ordering operators
compare as numbers where both sides are numeric, and as texts otherwise; containment
does not regard case; an unknown operator is equality.
-/

namespace Turnstile.Rule

/-- Lifts a search into conditions: what is refused for another reason is a fault. -/
def search (allowDelimited : Bool) (pattern text : String) : Except Fault Bool :=
  match Pattern.find allowDelimited pattern text with
  | .ok found => .ok found
  | .error e => .error (.pattern e)

/-- The order of two doubles; a NaN is neither less nor greater than anything. -/
def orderDoubles (x y : Double) : Ordering :=
  if Double.lt x y then .lt else if Double.lt y x then .gt else .eq

/-- The order of a text and an operand: of the numbers if both are numeric, else of the texts. -/
def order (actual : String) (operand : Json) : Except Fault Ordering :=
  if isNumeric (.string actual) && isNumeric operand then do
    return orderDoubles (← toDouble (.string actual)) (← toDouble operand)
  else .ok (compare actual (comparisonText operand))

/-- A bound that is given: neither null nor the empty text. -/
def givenBound : Option Json → Option Json
  | none | some .null => none
  | some (.string s) => if s = "" then none else some (.string s)
  | some v => some v

/-- The two bounds that an operand gives: the first two items, or the parts at the first comma. -/
def bounds : Json → Option Json × Option Json
  | .array items => (items[0]?, items[1]?)
  | other =>
    let (low, high) := Text.cut ',' (comparisonText other).toList
    (some (.string (String.ofList low)), high.map fun cs => .string (String.ofList cs))

/-- The text lies between the bounds that are given. -/
def isBetween (actual : String) (operand : Json) : Except Fault Bool := do
  let (low, high) := bounds operand
  match givenBound low with
  | some bound => if (← order actual bound) == .lt then return false
  | none => pure ()
  match givenBound high with
  | some bound => return (← order actual bound) != .gt
  | none => return true

/-- The text holds the operand, without regard to case. -/
def holdsPart (actual operand : String) : Bool :=
  Text.isPart (Text.lower operand).toList (Text.lower actual).toList

/-- The operators of comparisons. -/
inductive Operator where
  | empty | notEmpty | eq | neq | gt | lt | gte | lte | between | contains | notContains
  | isIn | notIn | regex
  deriving DecidableEq, Repr

/-- The operators in the order in which they are listed. -/
def Operator.all : List Operator :=
  [.empty, .notEmpty, .eq, .neq, .gt, .lt, .gte, .lte, .between, .contains, .notContains,
    .isIn, .notIn, .regex]

/-- The name by which an operator is written. -/
def Operator.name : Operator → String
  | .empty => "empty"
  | .notEmpty => "not_empty"
  | .eq => "eq"
  | .neq => "neq"
  | .gt => "gt"
  | .lt => "lt"
  | .gte => "gte"
  | .lte => "lte"
  | .between => "between"
  | .contains => "contains"
  | .notContains => "not_contains"
  | .isIn => "in"
  | .notIn => "not_in"
  | .regex => "regex"

/-- The operator of a name in any case; an unknown name is equality. -/
def Operator.ofName (name : String) : Operator :=
  (Operator.all.find? fun op => op.name == Text.lower name).getD .eq

/-- An operator holds between a signal and an operand. -/
def Operator.holds (op : Operator) (actual : Signal) (operand : Json) : Except Fault Bool :=
  match op with
  | .empty => .ok actual.isEmpty
  | .notEmpty => .ok !actual.isEmpty
  | .eq => .ok (comparisonText operand == actual.text)
  | .neq => .ok (comparisonText operand != actual.text)
  | .gt => do return (← order actual.text operand) == .gt
  | .lt => do return (← order actual.text operand) == .lt
  | .gte => do return (← order actual.text operand) != .lt
  | .lte => do return (← order actual.text operand) != .gt
  | .between => isBetween actual.text operand
  | .contains => .ok (holdsPart actual.text (comparisonText operand))
  | .notContains => .ok !(holdsPart actual.text (comparisonText operand))
  | .isIn => .ok ((listItems operand).contains actual.text)
  | .notIn => .ok !((listItems operand).contains actual.text)
  | .regex => search false (comparisonText operand) actual.text

/-- The body of a literal `regex:/body/`. -/
def searchLiteral? (s : String) : Option String :=
  let opening := "regex:/".toList
  let cs := s.toList
  if opening.isPrefixOf cs && cs.getLast? == some '/' && opening.length < cs.length then
    some (String.ofList ((cs.drop opening.length).dropLast))
  else none

/-- A literal stands for emptiness, for a search, or for equal texts. -/
def literalMatches (expected : Json) (actual : Signal) : Except Fault Bool :=
  match expected with
  | .string "is_not_empty" => .ok (actual.text != "")
  | .string "empty" => .ok (actual.text == "")
  | .string s =>
    match searchLiteral? s with
    | some body => search false body actual.text
    | none => .ok (s == actual.text)
  | other => .ok (comparisonText other == actual.text)

/-- A comparison holds for a signal. -/
def Comparison.matches : Comparison → Signal → Except Fault Bool
  | .literal value, actual => literalMatches value actual
  | .operator name operand, actual => (Operator.ofName name).holds actual operand

/-- An expectation holds for a signal; forms that are no comparison never do. -/
def Expectation.matches : Expectation → Signal → Except Fault Bool
  | .comparison c, actual => c.matches actual
  | _, _ => .ok false

end Turnstile.Rule
