/-!
# Binary doubles, exactly

A finite double is a whole number of *units* of `2 ^ (-1074)`, the spacing of the
smallest doubles, together with a sign (zero keeps its sign).  Every operation
below is exact arithmetic on units followed by one rounding.

**Rounding.**  `ofUnits` takes a quotient of natural numbers, in units, to the
nearest double; a tie goes to the even significand, and what lies beyond the
largest double goes to infinity.

**Order.**  `lt` is the order of the numbers denoted; a NaN is not comparable.
-/

namespace Turnstile

namespace Double

/-- The number of fraction bits of one unit. -/
def unitBits : Nat := 1074

/-- The number of units that make one. -/
def unitsPerOne : Nat := Nat.pow 2 unitBits

/-- One past the largest number of units a double can hold. -/
def unitLimit : Nat := Nat.pow 2 2098

/-- The number of binary digits of `n`. -/
def bitLength (n : Nat) : Nat := if n = 0 then 0 else n.log2 + 1

/-- The number of low bits that a significand of 53 bits cannot hold. -/
def excessBits (n : Nat) : Nat := bitLength n - 53

/-- The spacing of doubles around a number of units. -/
def spacing (units : Nat) : Nat := Nat.pow 2 (excessBits units)

/-- A power of ten. -/
def tenPower (n : Nat) : Nat := Nat.pow 10 n

/-- A number of units that some finite double has: at most 53 significant bits, below the limit. -/
def representable (units : Nat) : Bool :=
  units < unitLimit && units % spacing units == 0

end Double

/-- A binary double. -/
inductive Double where
  | nan
  | infinite (negative : Bool)
  | finite (negative : Bool) (units : Nat) (exact : Double.representable units = true)
  deriving DecidableEq

namespace Double

theorem representable_zero : representable 0 = true := by decide +kernel

/-- Positive zero. -/
def zero : Double := .finite false 0 representable_zero

instance : Inhabited Double := ⟨zero⟩

/-- `num / den` to the nearest whole number, a tie to the even one. -/
def roundDiv (num den : Nat) : Nat :=
  let quotient := num / den
  let twice := 2 * (num % den)
  if den < twice || (twice == den && quotient % 2 == 1) then quotient + 1 else quotient

/-- The double nearest to `num / den` units. -/
def ofUnits (negative : Bool) (num den : Nat) : Double :=
  let step := spacing (num / den)
  let units := roundDiv num (den * step) * step
  if h : representable units = true then .finite negative units h else .infinite negative

/-- The double nearest to `± num / den`. -/
def ofRatio (negative : Bool) (num den : Nat) : Double :=
  ofUnits negative (num * unitsPerOne) den

/-- The double nearest to an integer. -/
def ofInt (n : Int) : Double := ofRatio (n < 0) n.natAbs 1

/--
The double nearest to `± digits * 10 ^ exponent`.  Exponents that leave the range of
doubles for every number of that many digits are settled without computing the power.
-/
def ofDecimal (negative : Bool) (digits : Nat) (exponent : Int) : Double :=
  if digits = 0 then .finite negative 0 representable_zero
  else if 310 ≤ exponent then .infinite negative
  else if exponent < -(400 + bitLength digits : Int) then .finite negative 0 representable_zero
  else if 0 ≤ exponent then ofRatio negative (digits * tenPower exponent.toNat) 1
  else ofRatio negative digits (tenPower (-exponent).toNat)

/-- Neither infinite nor a NaN. -/
def isFinite : Double → Bool
  | .finite .. => true
  | _ => false

/-- The exact value of a finite double in units, with its sign. -/
def signedUnits? : Double → Option Int
  | .finite negative units _ => some (if negative then -(units : Int) else units)
  | _ => none

/-- The integer that a double is, if it is one. -/
def toInt? : Double → Option Int
  | .finite negative units _ =>
    if units % unitsPerOne = 0 then
      some (if negative then -(units / unitsPerOne : Nat) else (units / unitsPerOne : Nat))
    else none
  | _ => none

/-- The integer part of a finite double, toward zero. -/
def truncate? : Double → Option Int
  | .finite negative units _ =>
    some (if negative then -(units / unitsPerOne : Nat) else (units / unitsPerOne : Nat))
  | _ => none

/-- Strict order of the numbers denoted; false when either side is a NaN. -/
def lt : Double → Double → Bool
  | .nan, _ => false
  | _, .nan => false
  | .infinite a, .infinite b => a && !b
  | .infinite a, .finite .. => a
  | .finite .., .infinite b => !b
  | .finite a m _, .finite b n _ =>
    (if a then -(m : Int) else m) < (if b then -(n : Int) else n)

/-- Equality of the numbers denoted: both zeros are equal and a NaN equals nothing. -/
def sameNumber (x y : Double) : Bool :=
  x != .nan && y != .nan && !lt x y && !lt y x

/-- The sum, rounded. -/
def add : Double → Double → Double
  | .nan, _ => .nan
  | _, .nan => .nan
  | .infinite a, .infinite b => if a = b then .infinite a else .nan
  | .infinite a, .finite .. => .infinite a
  | .finite .., .infinite b => .infinite b
  | .finite a m _, .finite b n _ =>
    let total : Int := (if a then -(m : Int) else m) + (if b then -(n : Int) else n)
    ofUnits (if total = 0 then a && b else total < 0) total.natAbs 1

/-- The product with a natural number, rounded. -/
def scale (factor : Nat) : Double → Double
  | .finite negative units _ => ofUnits negative (units * factor) 1
  | x => x

end Double

end Turnstile
