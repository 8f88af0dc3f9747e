/-!
# The calendar

Days are counted from the first of January of year 1, day 0, in the Gregorian calendar
extended to all years.  `ofDay` inverts `toDay?`; both work through cycles of 400, 100,
4 and 1 years.
-/

namespace Turnstile

/-- A day by year, month and day of the month. -/
structure Date where
  year : Nat
  month : Nat
  day : Nat
  deriving DecidableEq, Repr

namespace Date

/-- A year with 366 days. -/
def isLeap (year : Nat) : Bool := year % 4 == 0 && (year % 100 != 0 || year % 400 == 0)

/-- The lengths of the months of a year. -/
def monthLengths (year : Nat) : List Nat :=
  [31, if isLeap year then 29 else 28, 31, 30, 31, 30, 31, 31, 30, 31, 30, 31]

/-- The number of days before a year. -/
def daysBeforeYear (year : Nat) : Nat :=
  let y := year - 1
  365 * y + y / 4 - y / 100 + y / 400

/-- The last year. -/
def maxYear : Nat := 9999

/-- The number of days in the years 1 to 9999. -/
def dayCount : Nat := 3652059

/-- The days of some months. -/
def daysOf (lengths : List Nat) : Nat := lengths.foldl (· + ·) 0

/-- The day number of a date; none if there is no such date. -/
def toDay? (date : Date) : Option Nat :=
  let lengths := monthLengths date.year
  if 1 ≤ date.year && date.year ≤ maxYear && 1 ≤ date.month && date.month ≤ 12
      && 1 ≤ date.day && date.day ≤ lengths.getD (date.month - 1) 0 then
    some (daysBeforeYear date.year + daysOf (lengths.take (date.month - 1)) + (date.day - 1))
  else none

/-- The month and the day of the month of a day counted from the start of month `month`. -/
def monthOf (month : Nat) (day : Nat) : List Nat → Nat × Nat
  | [] => (month, day + 1)
  | length :: rest => if day < length then (month, day + 1) else monthOf (month + 1) (day - length) rest

/-- The date of a day number. -/
def ofDay (day : Nat) : Date :=
  let centuries := min (day % 146097 / 36524) 3
  let inCentury := day % 146097 - centuries * 36524
  let years := min (inCentury % 1461 / 365) 3
  let year := day / 146097 * 400 + centuries * 100 + inCentury / 1461 * 4 + years + 1
  let (month, dayOfMonth) := monthOf 1 (inCentury % 1461 - years * 365) (monthLengths year)
  ⟨year, month, dayOfMonth⟩

/-- The day of the week of a day number, Monday being 0. -/
def weekday (day : Nat) : Nat := day % 7

/-- The Monday of the first week of a year, which is the week of its first Thursday. -/
def firstMonday (year : Nat) : Int :=
  let first : Int := daysBeforeYear year
  let shift := weekday (daysBeforeYear year)
  if 3 < shift then first - shift + 7 else first - shift

/-- A year has a week 53: it starts on a Thursday, or on a Wednesday if it is a leap year. -/
def hasLongYear (year : Nat) : Bool :=
  let start := weekday (daysBeforeYear year)
  start == 3 || (start == 2 && isLeap year)

/-- The day number of a day of a week of a year. -/
def weekDay? (year week day : Nat) : Option Nat :=
  if 1 ≤ year && 1 ≤ week && (week ≤ 52 || (week == 53 && hasLongYear year))
      && 1 ≤ day && day ≤ 7 then
    let number := firstMonday year + (week - 1 : Nat) * 7 + (day - 1 : Nat)
    if 0 ≤ number && number < dayCount then some number.toNat else none
  else none

end Date

end Turnstile
