import Turnstile.Time.Moment
import Turnstile.Json.Reader
import Turnstile.Text.Utf8

/-!
# Moments as text

**Writing.**  `YYYY-MM-DDTHH:MM:SS`, six digits of a fraction if there is one, and the
offset as hours and minutes, with seconds and a fraction if it has them.

**Reading.**  A date in full or basic form, by month or by week; one character of any
kind; a time of one to three parts, with colons throughout or nowhere, and a fraction
after a point or a comma of which six digits count; an offset in the form of a time, or
`Z`.  A text without offset is in universal time.  The character that ends the text
may be NUL.
-/

namespace Turnstile.Moment

/-- The decimal digits of a number, with zeros in front up to a width. -/
def padded (width n : Nat) : String :=
  let digits := toString n
  String.ofList (List.replicate (width - digits.length) '0') ++ digits

/-- A fraction of six digits, if it is not zero. -/
def fractionText (micros : Nat) : String := if micros = 0 then "" else "." ++ padded 6 micros

/-- The text of an offset. -/
def offsetText (offset : Int) : String :=
  let (hour, minute, second, micros) := clockParts offset.natAbs
  let seconds :=
    if second = 0 && micros = 0 then "" else ":" ++ padded 2 second ++ fractionText micros
  (if offset < 0 then "-" else "+") ++ padded 2 hour ++ ":" ++ padded 2 minute ++ seconds

/-- The text of what the clock shows, to the second. -/
def clockText (m : Moment) : String :=
  let date := m.date
  let (hour, minute, second, _) := m.clock
  padded 4 date.year ++ "-" ++ padded 2 date.month ++ "-" ++ padded 2 date.day ++ "T"
    ++ padded 2 hour ++ ":" ++ padded 2 minute ++ ":" ++ padded 2 second

/-- The text of a moment. -/
def text (m : Moment) : String := clockText m ++ fractionText m.clock.2.2.2 ++ offsetText m.offset

/-- The text of an offset to the minute, `Z` below a second. -/
def minuteOffsetText (offset : Int) : String :=
  let seconds := offset.fdiv microsPerSecond
  if seconds = 0 then "Z"
  else
    let minutes := seconds.natAbs / 60
    (if seconds < 0 then "-" else "+") ++ padded 2 (minutes / 60) ++ ":" ++ padded 2 (minutes % 60)

/-- The text of a moment for callers, with its offset to the minute. -/
def minuteText (m : Moment) : String :=
  clockText m ++ fractionText m.clock.2.2.2 ++ minuteOffsetText m.offset

/-- The character that stands for the end of a text. -/
def endMark : Char := Char.ofNat 0

/-- A number of exactly `count` digits, and what follows it. -/
def readDigits (count : Nat) (cs : List Char) : Option (Nat × List Char) :=
  let digits := cs.take count
  if digits.length = count && digits.all Json.isDecimal then
    some (Json.digitsValue digits, cs.drop count)
  else none

/-- How many of the leading characters write the date, as far as the form can be told. -/
def dateLength (cs : List Char) : Option Nat :=
  let isDigitAt := fun i => (cs[i]?.map Json.isDecimal).getD false
  if cs.length = 7 then some 7
  else if cs[4]? = some '-' then
    if cs[5]? = some 'W' then
      if cs[8]? = some '-' then
        if cs.length = 9 then none else some (if isDigitAt 10 then 8 else 10)
      else some 8
    else some 10
  else if cs[4]? = some 'W' then
    let stop := 7 + ((cs.drop 7).takeWhile Json.isDecimal).length
    some (if stop < 9 then stop else if stop % 2 = 0 then 7 else 8)
  else some 8

/-- The text after a dash, if dashes are used. -/
def skipDash (dashed : Bool) (cs : List Char) : Option (List Char) :=
  if dashed then if cs.head? = some '-' then some (cs.drop 1) else none else some cs

/-- The day number of the date in the first `length` characters. -/
def readDate (length : Nat) (cs : List Char) : Option Nat := do
  let (year, afterYear) ← readDigits 4 cs
  let dashed := afterYear.head? = some '-'
  let rest := if dashed then afterYear.drop 1 else afterYear
  if rest.head? = some 'W' then
    let (week, afterWeek) ← readDigits 2 (rest.drop 1)
    if cs.length - afterWeek.length < length then
      let (day, _) ← readDigits 1 (← skipDash dashed afterWeek)
      Date.weekDay? year week day
    else Date.weekDay? year week 1
  else
    let (month, afterMonth) ← readDigits 2 rest
    let (day, _) ← readDigits 2 (← skipDash dashed afterMonth)
    Date.toDay? ⟨year, month, day⟩

/-- Parts of a time, its microseconds, and whether something follows it. -/
structure TimeText where
  parts : List Nat
  micros : Nat
  followed : Bool

/-- A fraction of a second in at most `room` characters. -/
def readFraction (parts : List Nat) (room : Nat) (cs : List Char) : Option TimeText := do
  let count := min room 6
  let (value, rest) ← readDigits count cs
  let next := (rest.dropWhile Json.isDecimal).headD endMark
  return ⟨parts, value * Double.tenPower (6 - count), next != endMark⟩

/--
The parts of a time that ends `room` characters on.  What follows the hour decides
whether colons separate the parts.
-/
def readTimeParts (separated : Option Bool) (parts : List Nat) :
    (left room : Nat) → List Char → Option TimeText
  | 0, room, cs => readFraction parts room cs
  | left + 1, room, cs => do
    let (value, rest) ← readDigits 2 cs
    let parts := parts ++ [value]
    let next := rest.headD endMark
    let colons := separated.getD (next == ':')
    if room ≤ 3 then return ⟨parts, 0, next != endMark⟩
    else if colons && next == ':' then
      readTimeParts (some colons) parts left (room - 3) (rest.drop 1)
    else if next == '.' || next == ',' then readFraction parts (room - 3) (rest.drop 1)
    else if !colons then readTimeParts (some colons) parts left (room - 2) rest
    else none

/-- The seconds that the parts of a time make. -/
def TimeText.seconds (t : TimeText) : Nat :=
  t.parts.getD 0 0 * 3600 + t.parts.getD 1 0 * 60 + t.parts.getD 2 0

/-- The microseconds of a time of day, if its parts are in range. -/
def TimeText.micros? (t : TimeText) : Option Nat :=
  if t.parts.getD 0 0 < 24 && t.parts.getD 1 0 < 60 && t.parts.getD 2 0 < 60 then
    some (t.seconds * microsPerSecond + t.micros)
  else none

/-- The first character of an offset. -/
def startsOffset (c : Char) : Bool := c == '+' || c == '-' || c == 'Z'

/-- An offset in microseconds; one of no whole seconds is none. -/
def readOffset (cs : List Char) : Option Int :=
  match cs with
  | 'Z' :: rest => if rest.headD endMark = endMark then some 0 else none
  | mark :: rest => do
    let t ← readTimeParts none [] 3 rest.length rest
    if t.followed then none
    else
      let size : Int := if t.seconds = 0 then 0 else t.seconds * microsPerSecond + t.micros
      return if mark == '-' then -size else size
  | [] => some 0

/-- The microseconds of a time of day and its offset. -/
def readTime (cs : List Char) : Option (Nat × Int) := do
  let time := cs.takeWhile (!startsOffset ·)
  let zone := cs.dropWhile (!startsOffset ·)
  let t ← readTimeParts none [] 3 time.length cs
  if zone.isEmpty && t.followed then none
  else return (← t.micros?, ← readOffset zone)

/-- The places that a text takes, one for each byte: ASCII characters stand for themselves. -/
def places (cs : List Char) : List Char := (Utf8.encode cs).map Char.ofNat

/-- The number of places of the character that starts at a place. -/
def width (cs : List Char) : Nat :=
  let lead := (cs.headD endMark).toNat
  if lead < 0x80 then 1 else if lead < 0xE0 then 2 else if lead < 0xF0 then 3 else 4

/-- The moment that the places of a text write. -/
def readPlaces? (cs : List Char) : Option Moment := do
  if cs.length < 7 then none
  let length ← dateLength cs
  let day ← readDate length cs
  let rest := cs.drop length
  let (micros, offset) ← if rest.isEmpty then pure (0, 0) else readTime (rest.drop (width rest))
  ofWall? (day * microsPerDay + micros : Nat) offset

/-- The moment that a text writes. -/
def read? (cs : List Char) : Option Moment := readPlaces? (places cs)

end Turnstile.Moment
