import Turnstile.Schema.Checked
import Turnstile.Text.Numeral

/-!
# Numbers in checked documents

A number may be written as a text, in ASCII digits and with blanks around it; one
underscore at a time may stand inside.  Flags count as zero and one.
-/

namespace Turnstile.Checked

/-- A text without its underscores, if it has some and none stands at an end or beside another. -/
def withoutUnderscores? (cs : List Char) : Option (List Char) :=
  if cs.contains '_' && cs.head? != some '_' && cs.getLast? != some '_'
      && !Text.isPart ['_', '_'] cs then some (cs.filter (· != '_'))
  else none

/-- The double that an ASCII numeral or a word writes. -/
def plainNumber? (cs : List Char) : Option Double :=
  if cs.all (·.toNat < 128) then
    match Numeral.ofChars? cs with
    | some n => some n.toDouble
    | none => Double.ofWord? cs
  else none

/-- The double that a text writes. -/
def numberOfText? (s : String) : Option Double :=
  match plainNumber? (Text.trimmedNumber s.toList) with
  | some x => some x
  | none => (withoutUnderscores? s.toList).bind plainNumber?

/-- A double above zero, if it is comparable with zero at all. -/
def positive (path : List PathStep) (x : Double) : Checked Double :=
  if Double.lt x Double.zero || Double.sameNumber x Double.zero then flawed x path .notPositive
  else clean x

/-- A positive double, for which other values stand. -/
def positiveNumber (path : List PathStep) : Json → Checked Double
  | .bool b => positive path (Double.ofInt (if b then 1 else 0))
  | .int n =>
    match Double.ofInt n with
    | .infinite _ => flawed Double.zero path .notNumber
    | x => positive path x
  | .float x => positive path x
  | .string s =>
    match numberOfText? s with
    | some x => positive path x
    | none => flawed Double.zero path .unreadableNumber
  | .halved _ => flawed Double.zero path .unreadableNumber
  | _ => flawed Double.zero path .notNumber

/-- ASCII digits as a number; one that starts with a zero is zero alone. -/
def plainDigits? (cs : List Char) : Option Nat :=
  if cs.isEmpty || !cs.all (fun c => '0' ≤ c && c ≤ '9') then none
  else if cs.head? = some '0' && cs != ['0'] then none
  else some (Text.decimalValue cs)

/-- An integer without decoration. -/
def plainInteger? : List Char → Option Int
  | '-' :: digits => (plainDigits? digits).map fun n => -(n : Int)
  | digits => (plainDigits? digits).map fun n => (n : Int)

/-- Drops leading zeros, up to the last digit before a point. -/
def withoutZeros? : List Char → Option (List Char)
  | '0' :: rest =>
    match rest.dropWhile fun c => c = '0' || c = '_' with
    | [] => some (((('0' :: rest).getLast?).map fun c => [c]).getD [])
    | c :: more =>
      if '1' ≤ c && c ≤ '9' then some (c :: more)
      else if c = '.' then some ((if rest.head? = some '.' then '0' else
        ((rest.takeWhile fun c => c = '0' || c = '_').getLast?).getD '0') :: c :: more)
      else none
  | c :: rest => if ('1' ≤ c && c ≤ '9') || c = '-' then some (c :: rest) else none
  | [] => none

/-- Drops a plus sign that no minus sign follows. -/
def withoutPlus? : List Char → Option (List Char)
  | '+' :: rest => if rest.head? = some '-' then none else some rest
  | cs => some cs

/-- Drops a point with nothing but zeros after it. -/
def withoutFraction (cs : List Char) : List Char :=
  match Text.cut '.' cs with
  | (whole, some fraction) => if fraction.all (· = '0') then whole else cs
  | (_, none) => cs

/-- The integer that a text writes, for which zeros around it and underscores do not count. -/
def integerOfText? (s : String) : Option Int :=
  let cs := Text.trimmedNumber s.toList
  match plainInteger? cs with
  | some n => some n
  | none => do
    let body := withoutFraction (← withoutZeros? (← withoutPlus? cs))
    plainInteger? ((withoutUnderscores? body).getD body)

/-- The bound of doubles that are read as integers: two to the 63rd. -/
def integerBound : Int := 9223372036854775808

/-- An integer, for which other values stand. -/
def integer (path : List PathStep) : Json → Checked Int
  | .bool b => clean (if b then 1 else 0)
  | .int n => clean n
  | .float x =>
    match x with
    | .finite .. =>
      match x.toInt? with
      | some n =>
        if -integerBound < n && n < integerBound then clean n else flawed 0 path .hugeInteger
      | none => flawed 0 path .fractionalInteger
    | _ => flawed 0 path .infiniteInteger
  | .string s =>
    if Text.maxIntegerDigits < (Text.trimmedNumber s.toList).length then flawed 0 path .hugeInteger
    else
      match integerOfText? s with
      | some n => clean n
      | none => flawed 0 path .unreadableInteger
  | .halved _ => flawed 0 path .unreadableInteger
  | _ => flawed 0 path .notInteger

end Turnstile.Checked
