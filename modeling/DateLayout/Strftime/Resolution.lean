import DateLayout.Calendar.Moment
import DateLayout.Strftime.Fields

/-!
# From fields to a local date and time

Fields give a date by year, month and day or by year and day of the year, and a time of day by
the two halves of the hour, the minute and perhaps the second. Everything that was read has to
agree with the outcome. A timestamp is checked in the same way; where the other fields are not
enough it supplies what they leave open.
-/

namespace DateLayout.Strftime

open DateLayout.Calendar

/-- Whether an open field, or the value of a set one, allows a value. -/
def allows {α : Type} [DecidableEq α] (field : Option α) (a : α) : Bool :=
  match field with
  | none => true
  | some present => present = a

namespace Fields

/-- The year that the three year fields give. Two digits alone stand for 1970 to 2069. -/
def resolveYear (f : Fields) : Except Fault Int :=
  match f.year, f.century, f.yearOfCentury with
  | some y, none, none => .ok y
  | some y, century, rest =>
      if 0 ≤ y ∧ allows century (y / 100) ∧ allows rest (y % 100) then .ok y
      else .error .impossible
  | none, some century, some rest => .ok (100 * century + rest)
  | none, none, some rest => .ok (if rest < 70 then 2000 + rest else 1900 + rest)
  | none, _, none => .error .notEnough

def checkDate (date : Option Date) : Except Fault Date :=
  match date with
  | some d => if d.inRange then .ok d else .error .outOfRange
  | none => .error .outOfRange

/-- A year of the ISO rule and its last two digits have to agree before anything else is looked
at. -/
def checkIsoYear (f : Fields) : Except Fault Unit :=
  match f.isoYear, f.isoYearOfCentury with
  | some y, some rest => if 0 ≤ y ∧ y % 100 = rest then .ok () else .error .impossible
  | _, _ => .ok ()

/-- Whether the weeks and the quarter that are known are those of a date. -/
def allowsWeeks (f : Fields) (d : Date) : Bool :=
  allows f.isoYear d.isoYear &&
    f.isoYearOfCentury.all (fun rest => 0 ≤ d.isoYear && d.isoYear % 100 = rest) &&
    allows f.isoWeek d.isoWeek &&
    allows f.weekFromSunday (d.weeksFrom .fromSunday) &&
    allows f.weekFromMonday (d.weeksFrom .fromMonday) && allows f.quarter d.quarter

def confirmDate (f : Fields) (d : Date) : Except Fault Date :=
  if allows f.month d.month ∧ allows f.day d.day ∧ allows f.dayOfYear d.dayOfYear ∧
      f.allowsWeeks d then .ok d
  else .error .impossible

/-- The date that the fields give. Month and day come before the day of the year. Weeks are only
compared with the date, and weekdays are left alone. -/
def resolveDate (f : Fields) : Except Fault Date := do
  let year ← f.resolveYear
  f.checkIsoYear
  match f.month, f.day, f.dayOfYear with
  | some month, some day, _ => do
      let d ← checkDate (Date.ofYmd? year month.toNat day.toNat)
      f.confirmDate d
  | _, _, some n => do
      let d ← checkDate (Date.ofYearDay? year n.toNat)
      f.confirmDate d
  | _, _, none => .error .notEnough

/-- The time of day that the fields give. Second 60 is a leap second, and a fraction needs a
second. -/
def resolveTime (f : Fields) : Except Fault TimeOfDay :=
  match f.afterNoon, f.hourOfHalfDay, f.minute with
  | some afterNoon, some hour, some minute =>
      if f.second.isNone && f.nanosecond.isSome then .error .notEnough
      else
        let second := f.second.getD 0
        let leap := if second = 60 then nanosPerSecond else 0
        let time := TimeOfDay.ofParts? ((if afterNoon then 12 else 0) + hour.toNat) minute.toNat
          (if second = 60 then 59 else second.toNat) (leap + (f.nanosecond.getD 0).toNat)
        match time with
        | some t => .ok t
        | none => .error .outOfRange
  | _, _, _ => .error .notEnough

/-- Whether a timestamp is that of a local time at an offset. In a leap second it may also be
that of the next second. -/
def timestampFits (timestamp offset : Int) (l : LocalDateTime) : Bool :=
  timestamp == l.seconds - offset ||
    (nanosPerSecond ≤ l.time.nanosecond && timestamp == l.seconds - offset + 1)

/-- The whole second that the clocks at an offset show at a timestamp. -/
def localOfTimestamp (timestamp offset : Int) : Except Fault LocalDateTime :=
  if instantInRange (timestamp + offset) then
    .ok (LocalDateTime.epoch.addSeconds (timestamp + offset))
  else .error .outOfRange

/-- The second of the fields and the local time of the timestamp, made to fit each other: second
60 belongs to the second before, and any other second has to be the one of the clock. -/
def fitSecond (f : Fields) (l : LocalDateTime) : Except Fault (Fields × LocalDateTime) :=
  if f.second = some 60 then
    if l.time.second = 59 then .ok (f, l)
    else if l.time.second = 0 then .ok (f, l.addSeconds (-1))
    else .error .impossible
  else do
    let f ← f.setSecond l.time.second
    return (f, l)

/-- Fills in date and time from a timestamp. -/
def resolveByTimestamp (f : Fields) (timestamp offset : Int) : Except Fault LocalDateTime := do
  let l ← localOfTimestamp timestamp offset
  let (f, l) ← f.fitSecond l
  let f ← f.setYear l.date.year
  let f ← f.setDayOfYear l.date.dayOfYear
  let f ← f.setHour l.time.hour
  let f ← f.setMinute l.time.minute
  let date ← f.resolveDate
  let time ← f.resolveTime
  return ⟨date, time⟩

/-- Which of two failures counts where a timestamp could still help: one that no timestamp can
mend. -/
def lastingFault (date : Except Fault Date) (time : Except Fault TimeOfDay) : Option Fault :=
  let faults := (match date with | .error e => [e] | .ok _ => []) ++
    (match time with | .error e => [e] | .ok _ => [])
  [Fault.outOfRange, Fault.impossible].find? fun fault => fault ∈ faults

/-- The local date and time that the fields give at an offset. -/
def resolveLocal (f : Fields) (offset : Int) : Except Fault LocalDateTime :=
  match f.timestamp with
  | none => do
      let date ← f.resolveDate
      let time ← f.resolveTime
      return ⟨date, time⟩
  | some timestamp =>
      match f.resolveDate, f.resolveTime with
      | .ok date, .ok time =>
          if timestampFits timestamp offset ⟨date, time⟩ then .ok ⟨date, time⟩
          else .error .impossible
      | date, time =>
          match lastingFault date time with
          | some fault => .error fault
          | none => f.resolveByTimestamp timestamp offset

/-- The moment that the fields give at an offset from UTC. -/
def resolveMoment (f : Fields) (offset : Int) : Except Fault Moment := do
  let l ← f.resolveLocal offset
  match UtcOffset.ofSeconds? offset with
  | none => .error .outOfRange
  | some o =>
      if instantInRange (Moment.mk l o).instant then .ok ⟨l, o⟩ else .error .impossible

end Fields

end DateLayout.Strftime
