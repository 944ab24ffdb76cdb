import DateLayout.Calendar.Zone
import DateLayout.Strftime.Item

/-!
# Writing with a strftime layout

What each item writes for a date that may come with a time of day and a zone. An item that needs
a part which is missing writes nothing and makes the whole layout fail, and so do `unknown` and
the offset form that only reading knows.
-/

namespace DateLayout.Strftime

open DateLayout.Calendar DateLayout.Text

/-- What there is to write: a date, and perhaps a time of day and the offset and name of a
zone. -/
structure Stamp where
  date : Date
  time : Option TimeOfDay
  zone : Option Period
deriving DecidableEq, Repr

/-- A year is four digits wide; outside of 0 to 9999 it always has a sign, which counts as one
more. -/
def writeYear (padding : Padding) (year : Int) : List Char :=
  if 0 ≤ year ∧ year ≤ 9999 then numeral padding 4 [] year.natAbs
  else numeral padding 5 [if year < 0 then '-' else '+'] year.natAbs

/-- A century is cut to its low byte and written with two characters; the tens of one above 99
are the character that lies so many places after `0`. -/
def writeCentury (padding : Padding) (year : Int) : List Char :=
  let century := (year / 100 % 256).toNat
  if century < 100 then numeral padding 2 [] century
  else [Char.ofNat ('0'.toNat + century / 10), Nat.digitChar (century % 10)]

/-- The seconds since 1970, UTC, a stamp without a zone being taken as UTC. -/
def Stamp.timestamp (s : Stamp) (t : TimeOfDay) : Int :=
  (LocalDateTime.mk s.date t).seconds - (s.zone.elim 0 fun z => z.offset.seconds)

def NumberField.write (field : NumberField) (padding : Padding) (s : Stamp) :
    Option (List Char) :=
  match field with
  | .year => some (writeYear padding s.date.year)
  | .century => some (writeCentury padding s.date.year)
  | .yearOfCentury => some (numeral padding 2 [] (s.date.year % 100).toNat)
  | .month => some (numeral padding 2 [] s.date.month)
  | .day => some (numeral padding 2 [] s.date.day)
  | .dayOfYear => some (numeral padding 3 [] s.date.dayOfYear)
  | .quarter => some (numeral padding 1 [] s.date.quarter)
  | .isoYear => some (writeYear padding s.date.isoYear)
  | .isoYearOfCentury => some (numeral padding 2 [] (s.date.isoYear % 100).toNat)
  | .isoWeek => some (numeral padding 2 [] s.date.isoWeek)
  | .weekFromSunday => some (numeral padding 2 [] (s.date.weeksFrom .fromSunday))
  | .weekFromMonday => some (numeral padding 2 [] (s.date.weeksFrom .fromMonday))
  | .hour => s.time.map fun t => numeral padding 2 [] t.hour
  | .hourOfHalfDay => s.time.map fun t => numeral padding 2 [] t.dialHour
  | .minute => s.time.map fun t => numeral padding 2 [] t.minute
  | .second => s.time.map fun t => numeral padding 2 [] t.shownSecond
  | .nanosecond => s.time.map fun t => numeral padding 9 [] t.fraction
  | .timestamp => s.time.map fun t =>
      let n := s.timestamp t
      numeral padding 9 (if n < 0 then ['-'] else []) n.natAbs

def LetterCase.write (letters : LetterCase) (t : TimeOfDay) : List Char :=
  match letters with
  | .upper => if t.hour < 12 then ['A', 'M'] else ['P', 'M']
  | .lower => if t.hour < 12 then ['a', 'm'] else ['p', 'm']

/-- The first `n` of the nine digits of a fraction of a second. -/
def writeBareFraction (n : Nat) (t : TimeOfDay) : List Char :=
  (numeral .zero 9 [] t.fraction).take n

/-- The first `n` digits of a fraction of a second, after a point. -/
def writeFixedFraction (n : Nat) (t : TimeOfDay) : List Char :=
  '.' :: writeBareFraction n t

/-- The shortest of no, three, six and nine digits that gives a fraction exactly. -/
def writeFraction (t : TimeOfDay) : List Char :=
  if t.fraction = 0 then []
  else if t.fraction % 1000000 = 0 then writeFixedFraction 3 t
  else if t.fraction % 1000 = 0 then writeFixedFraction 6 t
  else writeFixedFraction 9 t

/-- Minutes are rounded to the nearest, unless there are seconds, and hours alone are cut off. The
sign is that of the whole offset. -/
def OffsetForm.write (form : OffsetForm) (o : UtcOffset) : Option (List Char) :=
  let minutes := (o.magnitude + 30) / 60
  match form with
  | .plain => some (o.sign :: twoDigits (minutes / 60) ++ twoDigits (minutes % 60))
  | .colon | .colonOrUtc =>
      some (o.sign :: twoDigits (minutes / 60) ++ ':' :: twoDigits (minutes % 60))
  | .seconds => some (o.sign :: twoDigits (o.magnitude / 3600) ++
      ':' :: twoDigits (o.magnitude / 60 % 60) ++ ':' :: twoDigits (o.magnitude % 60))
  | .hours => some (o.sign :: twoDigits (o.magnitude / 3600))
  | .anyLength => none

def Item.write (item : Item) (s : Stamp) : Option (List Char) :=
  match item with
  | .literal text => some text
  | .blank text => some text
  | .number field padding => field.write padding s
  | .monthName form => some (form.apply (monthNames.getD (s.date.month - 1) []))
  | .weekdayName form => some (form.apply (weekdayNames.getD s.date.weekday.index []))
  | .weekdayNumber count => some (digits (count.number s.date.weekday))
  | .meridiem letters => s.time.map letters.write
  | .fraction => s.time.map writeFraction
  | .fixedFraction n => s.time.map (writeFixedFraction n)
  | .bareFraction n => s.time.map (writeBareFraction n)
  | .timeMark => some ['T']
  | .offset form => s.zone.bind fun z => form.write z.offset
  | .zoneName => s.zone.map fun z => z.name.toList
  | .unknown => none

/-- What items write one after the other, if all of them can be written. -/
def writeItems (is : List Item) (s : Stamp) : Option (List Char) :=
  match is with
  | [] => some []
  | item :: rest => do
      let first ← item.write s
      let others ← writeItems rest s
      return first ++ others

def write (layout : String) (s : Stamp) : Option String :=
  (writeItems (items layout.toList) s).map String.ofList

end DateLayout.Strftime
