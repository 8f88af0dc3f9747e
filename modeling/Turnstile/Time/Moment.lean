import Turnstile.Time.Calendar
import Turnstile.Number.Double

/-!
# Moments

A moment is what a local clock shows, in microseconds since the start of year 1, and
how far the clock is ahead of universal time.  Both stay in range: the clock within the
years 1 to 9999, the offset below a day.  Moments are ordered as instants.
-/

namespace Turnstile

/-- Microseconds of a day. -/
def microsPerDay : Nat := 86400000000

/-- Microseconds of a second. -/
def microsPerSecond : Nat := 1000000

/-- Microseconds of the years 1 to 9999. -/
def clockSpan : Nat := 3652059 * 86400000000

/-- What a local clock shows, and its offset. -/
structure Moment where
  /-- Microseconds since the start of year 1 on the local clock. -/
  wall : Nat
  /-- Microseconds by which the local clock is ahead of universal time. -/
  offset : Int
  wall_lt : wall < clockSpan
  offset_lt : offset.natAbs < microsPerDay
  deriving DecidableEq

namespace Moment

/-- The moment with a clock and an offset, if they are in range. -/
def ofWall? (wall offset : Int) : Option Moment :=
  if h : 0 ≤ wall ∧ wall.toNat < clockSpan ∧ offset.natAbs < microsPerDay then
    some ⟨wall.toNat, offset, h.2.1, h.2.2⟩
  else none

/-- The instant: microseconds since the start of year 1 in universal time. -/
def instant (m : Moment) : Int := m.wall - m.offset

/-- An instant comes before another. -/
def isBefore (a b : Moment) : Bool := a.instant < b.instant

/-- The clock moved by some microseconds, if it stays in range. -/
def shift? (m : Moment) (micros : Int) : Option Moment := ofWall? (m.wall + micros) m.offset

/-- The same instant on the clock of universal time, if that is in range. -/
def toUtc? (m : Moment) : Option Moment := ofWall? m.instant 0

/-- Seconds from the start of year 1 to the start of 1970. -/
def epochSeconds : Int := 62135596800

/-- The moment some microseconds after the start of 1970. -/
def ofEpochMicros? (micros : Int) : Option Moment :=
  ofWall? (epochSeconds * microsPerSecond + micros) 0

/--
The microseconds of a number of seconds: whole seconds exactly, and the fraction times a
million to the nearest double and then to the nearest whole number, a tie to the even one.
-/
def epochMicros? : Double → Option Int
  | .finite negative units _ =>
    let whole := units / Double.unitsPerOne
    let fraction := units % Double.unitsPerOne
    match Double.ofUnits false (fraction * microsPerSecond) 1 with
    | .finite _ scaled _ =>
      let micros : Int := whole * microsPerSecond + Double.roundDiv scaled Double.unitsPerOne
      some (if negative then -micros else micros)
    | _ => none
  | _ => none

/-- The date on the local clock. -/
def date (m : Moment) : Date := Date.ofDay (m.wall / microsPerDay)

/-- Hour, minute, second and microsecond of a number of microseconds below a day. -/
def clockParts (micros : Nat) : Nat × Nat × Nat × Nat :=
  let seconds := micros / microsPerSecond
  (seconds / 3600, seconds / 60 % 60, seconds % 60, micros % microsPerSecond)

/-- Hour, minute, second and microsecond on the local clock. -/
def clock (m : Moment) : Nat × Nat × Nat × Nat := clockParts (m.wall % microsPerDay)

end Moment

end Turnstile
