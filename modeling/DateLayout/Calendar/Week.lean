import DateLayout.Calendar.DayNumber

/-!
# Weeks and quarters

Weeks are counted in three ways. Those of the ISO rule run from Monday to Sunday and belong to the
year of their Thursday, so the first and last days of a year can belong to a week of another one.
The other two count the weeks that have begun in a year, on its Sundays or on its Mondays; the
days before the first of them are in week 0.
-/

namespace DateLayout.Calendar

/-- How the days of a week are numbered: from 0 for Sunday, or from 1 for Monday. -/
inductive WeekdayCount where
  | fromSunday
  | fromMonday
deriving DecidableEq, Repr

def WeekdayCount.number (count : WeekdayCount) (w : Weekday) : Nat :=
  match count with
  | .fromSunday => (w.index + 1) % 7
  | .fromMonday => w.index + 1

/-- The day of the week with a number, if there is one. -/
def WeekdayCount.weekday? (count : WeekdayCount) (n : Nat) : Option Weekday :=
  match count with
  | .fromSunday => if n ≤ 6 then some (Weekday.ofMonday (n + 6)) else none
  | .fromMonday => if 1 ≤ n ∧ n ≤ 7 then some (Weekday.ofMonday (n - 1)) else none

theorem WeekdayCount.weekday?_number (count : WeekdayCount) (w : Weekday) :
    count.weekday? (count.number w) = some w := by
  cases count <;> cases w <;> rfl

namespace Date

def quarter (d : Date) : Nat :=
  (d.month + 2) / 3

/-- The Thursday of the week of a date, weeks beginning on Mondays. -/
def thursday (d : Date) : Date :=
  ofDayNumber (d.dayNumber - d.weekday.index + 3)

/-- The year that the week of a date belongs to. -/
def isoYear (d : Date) : Int :=
  d.thursday.year

def isoWeek (d : Date) : Nat :=
  (d.thursday.dayOfYear + 6) / 7

/-- How many weeks of the year have begun up to a date, on the first day that is counted. -/
def weeksFrom (count : WeekdayCount) (d : Date) : Nat :=
  match count with
  | .fromSunday => (d.dayOfYear + 6 - (d.weekday.index + 1) % 7) / 7
  | .fromMonday => (d.dayOfYear + 6 - d.weekday.index) / 7

end Date

/-- The last Sunday of 2020 is in week 52 of the ISO rule, and the Friday after it in week 53 of the
same year, though it is a day of the next one. -/
example :
    (Date.isoWeek ⟨2020, 12, 27, by decide, by decide⟩,
      Date.isoWeek ⟨2021, 1, 1, by decide, by decide⟩,
      Date.isoYear ⟨2021, 1, 1, by decide, by decide⟩,
      Date.weeksFrom .fromSunday ⟨2021, 1, 3, by decide, by decide⟩,
      Date.weeksFrom .fromMonday ⟨2021, 1, 3, by decide, by decide⟩) = (52, 53, 2020, 1, 0) := by
  decide +kernel

end DateLayout.Calendar
