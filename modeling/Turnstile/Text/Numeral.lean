import Turnstile.Text.Blank
import Turnstile.Text.Digit
import Turnstile.Number.Double

/-!
# Numerals

A numeral is a sign, decimal digits of any script with at most one point, and an
exponent, with blanks around it.  It denotes the exact rational `± digits * 10 ^ exponent`.

**Two readings.**  `Numeral.read?` takes blanks of every kind around the numeral.
`Double.ofText?` converts a text to a double: it knows infinities, NaN and underscores
between digits, but among blanks not the information separators.
-/

namespace Turnstile

/-- The decimal number `± digits * 10 ^ exponent`. -/
structure Numeral where
  negative : Bool
  digits : Nat
  exponent : Int
  deriving DecidableEq, Repr

namespace Text

/-- A decimal digit of some script. -/
def isDigitChar (c : Char) : Bool := isDigit c.toNat

/-- The number written by decimal digits of any script. -/
def decimalValue (cs : List Char) : Nat :=
  cs.foldl (fun n c => 10 * n + (digitValue? c.toNat).getD 0) 0

/-- A sign, if one comes first: whether it is a minus, and what follows. -/
def signed : List Char → Bool × List Char
  | '-' :: rest => (true, rest)
  | '+' :: rest => (false, rest)
  | cs => (false, cs)

/-- Blanks that may stand around a number to be converted: not the information separators. -/
def isNumberBlank (c : Char) : Bool := isBlank c && !(28 ≤ c.toNat && c.toNat ≤ 31)

/-- Drops blanks around a number to be converted. -/
def trimmedNumber (cs : List Char) : List Char :=
  dropEndWhile isNumberBlank (cs.dropWhile isNumberBlank)

/--
Takes out underscores, each of which stands between two digits.  `after` says that a
digit comes before.
-/
def withoutUnderscores (after : Bool) : List Char → Option (List Char)
  | [] => some []
  | '_' :: c :: rest =>
    if after && isDigitChar c then (withoutUnderscores true rest).map (c :: ·) else none
  | c :: rest =>
    if c = '_' then none else (withoutUnderscores (isDigitChar c) rest).map (c :: ·)

/-- The longest integer text that is read. -/
def maxIntegerDigits : Nat := 4300

/-- The integer that a text writes: a sign, digits, underscores between digits, blanks around. -/
def integer? (cs : List Char) : Option Int :=
  let (negative, body) := signed (trimmedNumber cs)
  match withoutUnderscores false body with
  | none => none
  | some digits =>
    if digits.isEmpty || !digits.all isDigitChar || maxIntegerDigits < digits.length then none
    else
      let size : Int := decimalValue digits
      some (if negative then -size else size)

end Text

namespace Numeral

open Text

/-- The exponent part: nothing, or a letter, a sign and digits. -/
def exponent? : List Char → Option Int
  | [] => some 0
  | e :: rest =>
    if e == 'e' || e == 'E' then
      let (negative, digits) := signed rest
      if digits.isEmpty || !digits.all isDigitChar then none
      else
        let size : Int := decimalValue digits
        some (if negative then -size else size)
    else none

/-- A numeral without blanks around it. -/
def ofChars? (cs : List Char) : Option Numeral :=
  let (negative, unsigned) := signed cs
  let whole := unsigned.takeWhile isDigitChar
  let afterWhole := unsigned.dropWhile isDigitChar
  let (fraction, rest) :=
    match afterWhole with
    | '.' :: more => (more.takeWhile isDigitChar, more.dropWhile isDigitChar)
    | other => ([], other)
  if whole.isEmpty && fraction.isEmpty then none
  else
    (exponent? rest).map fun exponent =>
      ⟨negative, decimalValue (whole ++ fraction), exponent - fraction.length⟩

/-- A numeral with blanks around it. -/
def read? (text : String) : Option Numeral := ofChars? (trimmed text.toList)

/-- The nearest double. -/
def toDouble (n : Numeral) : Double := Double.ofDecimal n.negative n.digits n.exponent

end Numeral

namespace Double

open Text

/-- The double that a word stands for. -/
def ofWord? (cs : List Char) : Option Double :=
  let (negative, word) := signed cs
  let lowered := String.ofList (word.map Char.toLower)
  if lowered == "inf" || lowered == "infinity" then some (.infinite negative)
  else if lowered == "nan" then some .nan
  else none

/-- The double that a text converts to. -/
def ofText? (text : String) : Option Double :=
  match withoutUnderscores false (trimmedNumber text.toList) with
  | none => none
  | some cs =>
    match Numeral.ofChars? cs with
    | some n => some n.toDouble
    | none => ofWord? cs

end Double

end Turnstile
