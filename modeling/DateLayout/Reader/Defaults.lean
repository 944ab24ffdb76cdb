import DateLayout.Strftime.Fields

/-!
# Defaults for fields that a text leaves open

A layout need not name every field of a date and time. What is open after reading is filled in
with the first day of year 0 and midnight; a clock of twelve hours without am or pm is before
noon, and am or pm alone is the start of its half of the day. The weekday is forgotten, so it is
never checked against the date.
-/

namespace DateLayout.Strftime.Fields

/-- Year 0 if nothing is known about the year. -/
def fillYear (f : Fields) : Except Fault Fields :=
  if f.year.isNone && f.century.isNone && f.yearOfCentury.isNone then f.setYear 0 else .ok f

/-- January, unless the day of the year is known. -/
def fillMonth (f : Fields) : Except Fault Fields :=
  if f.dayOfYear.isNone && f.month.isNone then f.setMonth 1 else .ok f

/-- The first of the month, unless the day of the year is known. -/
def fillDay (f : Fields) : Except Fault Fields :=
  if f.dayOfYear.isNone && f.day.isNone then f.setDay 1 else .ok f

/-- Midnight, or what is missing of the two halves of the hour. -/
def fillHour (f : Fields) : Except Fault Fields :=
  match f.afterNoon, f.hourOfHalfDay with
  | none, none => f.setHour 0
  | none, some _ => f.setAfterNoon false
  | some _, none => f.setDialHour 12
  | some _, some _ => .ok f

def fillMinute (f : Fields) : Except Fault Fields :=
  if f.minute.isNone then f.setMinute 0 else .ok f

/-- Fills in what is open, through the same setters that reading uses. -/
def fillDefaults (f : Fields) : Except Fault Fields := do
  let f ← fillYear { f with weekday := none }
  let f ← f.fillMonth
  let f ← f.fillDay
  let f ← f.fillHour
  f.fillMinute

end DateLayout.Strftime.Fields
