import DateLayout.Strftime.Fault
import DateLayout.Strftime.Item

/-!
# Fields read from a text

A text is read into fields, each of which may stay open. A field is set through a setter, which
refuses a value out of the field's range and a second value that differs from the first. What
one item contributes is an `Entry`; `Fields.enter` sets what the entry says.
-/

namespace DateLayout.Strftime

open DateLayout.Calendar

/-- The fields of a date and time, as far as they are known. The hour has two halves: whether it
is after noon, and the hour of the half day from 0 to 11. -/
structure Fields where
  year : Option Int
  century : Option Int
  yearOfCentury : Option Int
  month : Option Int
  day : Option Int
  dayOfYear : Option Int
  quarter : Option Int
  isoYear : Option Int
  isoYearOfCentury : Option Int
  isoWeek : Option Int
  weekFromSunday : Option Int
  weekFromMonday : Option Int
  weekday : Option Weekday
  afterNoon : Option Bool
  hourOfHalfDay : Option Int
  minute : Option Int
  second : Option Int
  nanosecond : Option Int
  timestamp : Option Int
  offset : Option Int
deriving DecidableEq, Repr

def Fields.empty : Fields :=
  ⟨none, none, none, none, none, none, none, none, none, none, none, none, none, none, none, none,
    none, none, none, none⟩

/-- The value of a field after it is given one: a field keeps its first value and refuses any
other. -/
def settle {α : Type} [DecidableEq α] (old : Option α) (new : α) : Except Fault (Option α) :=
  match old with
  | none => .ok (some new)
  | some present => if present = new then .ok (some present) else .error .impossible

/-- As `settle`, for a number that has to lie between two bounds. -/
def settleWithin (lower upper : Int) (old : Option Int) (new : Int) :
    Except Fault (Option Int) :=
  if lower ≤ new ∧ new ≤ upper then settle old new else .error .outOfRange

namespace Fields

def setYear (f : Fields) (n : Int) : Except Fault Fields := do
  return { f with year := ← settleWithin (-2147483648) 2147483647 f.year n }

def setCentury (f : Fields) (n : Int) : Except Fault Fields := do
  return { f with century := ← settleWithin 0 2147483647 f.century n }

def setYearOfCentury (f : Fields) (n : Int) : Except Fault Fields := do
  return { f with yearOfCentury := ← settleWithin 0 99 f.yearOfCentury n }

def setMonth (f : Fields) (n : Int) : Except Fault Fields := do
  return { f with month := ← settleWithin 1 12 f.month n }

def setDay (f : Fields) (n : Int) : Except Fault Fields := do
  return { f with day := ← settleWithin 1 31 f.day n }

def setDayOfYear (f : Fields) (n : Int) : Except Fault Fields := do
  return { f with dayOfYear := ← settleWithin 1 366 f.dayOfYear n }

def setQuarter (f : Fields) (n : Int) : Except Fault Fields := do
  return { f with quarter := ← settleWithin 1 4 f.quarter n }

def setIsoYear (f : Fields) (n : Int) : Except Fault Fields := do
  return { f with isoYear := ← settleWithin (-2147483648) 2147483647 f.isoYear n }

def setIsoYearOfCentury (f : Fields) (n : Int) : Except Fault Fields := do
  return { f with isoYearOfCentury := ← settleWithin 0 99 f.isoYearOfCentury n }

def setIsoWeek (f : Fields) (n : Int) : Except Fault Fields := do
  return { f with isoWeek := ← settleWithin 1 53 f.isoWeek n }

def setWeekFromSunday (f : Fields) (n : Int) : Except Fault Fields := do
  return { f with weekFromSunday := ← settleWithin 0 53 f.weekFromSunday n }

def setWeekFromMonday (f : Fields) (n : Int) : Except Fault Fields := do
  return { f with weekFromMonday := ← settleWithin 0 53 f.weekFromMonday n }

def setWeekday (f : Fields) (w : Weekday) : Except Fault Fields := do
  return { f with weekday := ← settle f.weekday w }

def setAfterNoon (f : Fields) (b : Bool) : Except Fault Fields := do
  return { f with afterNoon := ← settle f.afterNoon b }

/-- Sets the hour of the half day by a dial of twelve hours, where 12 stands for 0. -/
def setDialHour (f : Fields) (n : Int) : Except Fault Fields :=
  if 1 ≤ n ∧ n ≤ 12 then do
    return { f with hourOfHalfDay := ← settle f.hourOfHalfDay (n % 12) }
  else .error .outOfRange

/-- Sets both halves of the hour, the half of the day first. -/
def setHour (f : Fields) (n : Int) : Except Fault Fields :=
  if 0 ≤ n ∧ n ≤ 23 then do
    let f ← f.setAfterNoon (12 ≤ n)
    return { f with hourOfHalfDay := ← settle f.hourOfHalfDay (n % 12) }
  else .error .outOfRange

def setMinute (f : Fields) (n : Int) : Except Fault Fields := do
  return { f with minute := ← settleWithin 0 59 f.minute n }

/-- Sets the second, which is 60 in a leap second. -/
def setSecond (f : Fields) (n : Int) : Except Fault Fields := do
  return { f with second := ← settleWithin 0 60 f.second n }

def setNanosecond (f : Fields) (n : Int) : Except Fault Fields := do
  return { f with nanosecond := ← settleWithin 0 999999999 f.nanosecond n }

def setTimestamp (f : Fields) (n : Int) : Except Fault Fields := do
  return { f with timestamp := ← settle f.timestamp n }

def setOffset (f : Fields) (n : Int) : Except Fault Fields := do
  return { f with offset := ← settle f.offset n }

def setNumber (f : Fields) (field : NumberField) (n : Int) : Except Fault Fields :=
  match field with
  | .year => f.setYear n
  | .century => f.setCentury n
  | .yearOfCentury => f.setYearOfCentury n
  | .month => f.setMonth n
  | .day => f.setDay n
  | .dayOfYear => f.setDayOfYear n
  | .quarter => f.setQuarter n
  | .isoYear => f.setIsoYear n
  | .isoYearOfCentury => f.setIsoYearOfCentury n
  | .isoWeek => f.setIsoWeek n
  | .weekFromSunday => f.setWeekFromSunday n
  | .weekFromMonday => f.setWeekFromMonday n
  | .hour => f.setHour n
  | .hourOfHalfDay => f.setDialHour n
  | .minute => f.setMinute n
  | .second => f.setSecond n
  | .nanosecond => f.setNanosecond n
  | .timestamp => f.setTimestamp n

end Fields

/-- What one item of a layout reads from a text. -/
inductive Entry where
  | nothing
  | number (field : NumberField) (n : Int)
  | weekday (w : Weekday)
  | meridiem (afterNoon : Bool)
  | offset (seconds : Int)
deriving DecidableEq, Repr

/-- Sets what an entry says. -/
def Fields.enter (f : Fields) (entry : Entry) : Except Fault Fields :=
  match entry with
  | .nothing => .ok f
  | .number field n => f.setNumber field n
  | .weekday w => f.setWeekday w
  | .meridiem afterNoon => f.setAfterNoon afterNoon
  | .offset seconds => f.setOffset seconds

theorem settle_none {α : Type} [DecidableEq α] (new : α) : settle none new = .ok (some new) :=
  rfl

theorem settle_some_self {α : Type} [DecidableEq α] (a : α) :
    settle (some a) a = .ok (some a) := by
  simp [settle]

theorem settle_eq_ok {α : Type} [DecidableEq α] {old r : Option α} {new : α}
    (h : settle old new = .ok r) : r = some new := by
  unfold settle at h
  split at h
  · cases h
    rfl
  · split at h
    · next same =>
        subst same
        cases h
        rfl
    · cases h

theorem settleWithin_eq_ok {lower upper new : Int} {old r : Option Int}
    (h : settleWithin lower upper old new = .ok r) :
    (lower ≤ new ∧ new ≤ upper) ∧ r = some new := by
  unfold settleWithin at h
  split at h
  · next within => exact ⟨within, settle_eq_ok h⟩
  · cases h

end DateLayout.Strftime
