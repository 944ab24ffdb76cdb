import DateLayout.Calendar.DayNumber
import DateLayout.Calendar.TimeOfDay
import DateLayout.Calendar.UtcOffset

/-!
# Local times and moments

A local date and time says what calendar and clock show; with an offset from UTC it is a moment,
which has an instant on the line of seconds since 1970. Local times are counted on a line of
their own, as if they were UTC.
-/

namespace DateLayout.Calendar

/-- A date and a time of day at no particular place. -/
structure LocalDateTime where
  date : Date
  time : TimeOfDay
deriving DecidableEq, Repr

namespace LocalDateTime

def epoch : LocalDateTime :=
  ⟨⟨1970, 1, 1, by decide, by decide⟩, .midnight⟩

def seconds (l : LocalDateTime) : Int :=
  l.date.dayNumber * 86400 + l.time.secondOfDay

/-- The local time `n` seconds later. A leap second keeps its nanoseconds. -/
def addSeconds (l : LocalDateTime) (n : Int) : LocalDateTime where
  date := Date.ofDayNumber ((l.seconds + n) / 86400)
  time := l.time.withSecondOfDay ((l.seconds + n) % 86400).toNat

theorem seconds_addSeconds (l : LocalDateTime) (n : Int) :
    (l.addSeconds n).seconds = l.seconds + n := by
  have nonneg := Int.emod_nonneg (l.seconds + n) (by decide : (86400 : Int) ≠ 0)
  have lt := Int.emod_lt_of_pos (l.seconds + n) (by decide : (0 : Int) < 86400)
  have day := TimeOfDay.secondOfDay_withSecondOfDay
    (t := l.time) (n := ((l.seconds + n) % 86400).toNat) (by simp only [secondsPerDay]; omega)
  rw [seconds, addSeconds, Date.dayNumber_ofDayNumber, day]
  omega

end LocalDateTime

/-- A local time together with its offset from UTC. -/
structure Moment where
  localTime : LocalDateTime
  offset : UtcOffset
deriving DecidableEq, Repr

namespace Moment

/-- The seconds from the start of 1970, UTC, to a moment. -/
def instant (m : Moment) : Int :=
  m.localTime.seconds - m.offset.seconds

/-- What the clocks at another offset show at the same moment. -/
def withOffset (m : Moment) (offset : UtcOffset) : Moment :=
  ⟨m.localTime.addSeconds (offset.seconds - m.offset.seconds), offset⟩

theorem instant_withOffset (m : Moment) (offset : UtcOffset) :
    (m.withOffset offset).instant = m.instant := by
  simp only [instant, withOffset, LocalDateTime.seconds_addSeconds]
  omega

end Moment

/-! ## The years that can be read

Reading a date accepts the years from -262143 to 262142, and reading a moment those whose UTC
date lies in them. -/

def firstYear : Int := -262143

def lastYear : Int := 262142

def Date.inRange (d : Date) : Bool :=
  firstYear ≤ d.year && d.year ≤ lastYear

/-- Whether an instant lies in a year that can be read, in UTC. -/
def instantInRange (instant : Int) : Bool :=
  (daysBeforeYear firstYear - 719162) * 86400 ≤ instant &&
    instant < (daysBeforeYear (lastYear + 1) - 719162) * 86400

end DateLayout.Calendar
