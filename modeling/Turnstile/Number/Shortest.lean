import Turnstile.Number.Double

/-!
# Shortest decimals

The text of a double has the fewest significant digits that read back as the same
double, and of those the nearest to it.

**Digits.**  For one to seventeen digits, the two neighbours of the value on that
decimal grid are tried; the first grid with a neighbour that reads back wins.

**Layout.**  Positional from `10 ^ (-4)` up to but not including `10 ^ 16`, and
always with a fraction part; otherwise one digit, a point, the remaining digits,
and a signed exponent of at least two digits.
-/

namespace Turnstile.Double

/-- A decimal: its digits as a number, and the power of ten of the last of them. -/
structure Decimal where
  digits : Nat
  exponent : Int
  deriving DecidableEq, Repr

/-- `10 ^ e ≤ units` for a decimal exponent of either sign. -/
def powerAtMost (e : Int) (units : Nat) : Bool :=
  if 0 ≤ e then tenPower e.toNat * unitsPerOne ≤ units
  else unitsPerOne ≤ units * tenPower (-e).toNat

/-- The exponent `e` with `10 ^ e ≤ value < 10 ^ (e + 1)`, for a positive number of units. -/
def decimalExponent (units : Nat) : Int :=
  let guess := ((units.log2 : Int) - unitBits) * 30103 / 100000
  if powerAtMost (guess + 1) units then guess + 1
  else if powerAtMost guess units then guess
  else guess - 1

/-- The value in units divided by `10 ^ e`, as a quotient of natural numbers. -/
def gridRatio (units : Nat) (e : Int) : Nat × Nat :=
  if 0 ≤ e then (units, tenPower e.toNat * unitsPerOne)
  else (units * tenPower (-e).toNat, unitsPerOne)

/-- A decimal reads back as the double with these units. -/
def readsBack (units : Nat) (d : Decimal) : Bool :=
  match ofDecimal false d.digits d.exponent with
  | .finite _ u _ => u == units
  | _ => false

/-- The nearer of the two neighbours on the grid `10 ^ e` that read back, if any does. -/
def onGrid? (units : Nat) (e : Int) : Option Decimal :=
  let (num, den) := gridRatio units e
  let below : Decimal := ⟨num / den, e⟩
  let above : Decimal := ⟨num / den + 1, e⟩
  let twice := 2 * (num % den)
  let belowFirst := twice < den || (twice == den && below.digits % 2 == 0)
  let first := if belowFirst then below else above
  let second := if belowFirst then above else below
  if readsBack units first then some first
  else if readsBack units second then some second
  else none

/-- The shortest decimal among those with `places` digits or more, trying `more` grids. -/
def shortestFrom (units : Nat) (top : Int) : Nat → Nat → Decimal
  | _, 0 => ⟨units, 0⟩
  | places, more + 1 =>
    match onGrid? units (top - places + 1) with
    | some d => d
    | none => shortestFrom units top (places + 1) more

/-- The shortest decimal that reads back as a positive number of units. -/
def shortest (units : Nat) : Decimal :=
  shortestFrom units (decimalExponent units) 1 17

/-- Drops trailing zeros of a digit text. -/
def trimZeros (digits : List Char) : List Char :=
  (digits.reverse.dropWhile (· == '0')).reverse

/-- Two digits at least. -/
def exponentText (e : Nat) : String :=
  if e < 10 then "0" ++ toString e else toString e

/-- The text of a positive decimal with the first digit at `10 ^ (point - 1)`. -/
def layout (digits : List Char) (point : Int) : String :=
  let count : Int := digits.length
  if -4 < point && point ≤ 16 then
    if point ≤ 0 then "0." ++ String.ofList (List.replicate (-point).toNat '0' ++ digits)
    else if count ≤ point then
      String.ofList (digits ++ List.replicate (point - count).toNat '0') ++ ".0"
    else String.ofList (digits.take point.toNat) ++ "." ++ String.ofList (digits.drop point.toNat)
  else
    let e := point - 1
    let sign := if e < 0 then "-" else "+"
    let head := String.ofList (digits.take 1)
    let tail := if digits.length ≤ 1 then "" else "." ++ String.ofList (digits.drop 1)
    head ++ tail ++ "e" ++ sign ++ exponentText e.natAbs

/-- The text of a non-negative finite double. -/
def magnitudeText (units : Nat) : String :=
  if units = 0 then "0.0"
  else
    let d := shortest units
    let all := (toString d.digits).toList
    layout (trimZeros all) (all.length + d.exponent)

/-- The text of a double. -/
def text : Double → String
  | .nan => "nan"
  | .infinite negative => if negative then "-inf" else "inf"
  | .finite negative units _ =>
    if negative then "-" ++ magnitudeText units else magnitudeText units

end Turnstile.Double
