import Turnstile.Json.Writer
import Turnstile.Json.Display
import Turnstile.Text.Numeral

/-!
# Signals

A signal is what a condition looks at: a value of the visit, or a read-only view of a
named collection.  Signals and operands are compared through their *comparison text*.
-/

namespace Turnstile.Rule

/-- The text in which a value is compared; halves of surrogate pairs are replaced in it. -/
def comparisonText : Json → String
  | .null => ""
  | .bool b => if b then "true" else "false"
  | .int n => toString n
  | .float x =>
    match x.toInt? with
    | some n => toString n
    | none => x.text
  | .string s => s
  | .halved t => t.shown
  | v => Json.write .compact v

/-- A value is a number or a numeral. -/
def isNumeric : Json → Bool
  | .int _ | .float _ => true
  | .string s => (Numeral.read? s).isSome
  | _ => false

/-- A list of texts: the items of an array, or the parts between commas; blank ones are dropped. -/
def listItems (v : Json) : List String :=
  let texts :=
    match v with
    | .array items => items.map comparisonText
    | other => (Text.pieces ',' (comparisonText other).toList).map String.ofList
  (texts.map Text.trim).filter (· != "")

/-- What a condition looks at. -/
inductive Signal where
  | value (v : Json)
  | view (members : Members Json)

/-- The comparison text of a signal. -/
def Signal.text : Signal → String
  | .value v => comparisonText v
  | .view members => Json.shown (.object members)

/-- A signal is null or the empty text. -/
def Signal.isEmpty : Signal → Bool
  | .value .null => true
  | .value (.string s) => s == ""
  | _ => false

end Turnstile.Rule
