import DateLayout.Strftime.Fields
import DateLayout.Text.Ascii

/-!
# Reading with a strftime layout

Each item takes its part off the front of a text and gives an entry for the fields; the text has
to be used up when the items are. How much text is left is counted in bytes where that decides
between a text that is too short and one with a wrong character.
-/

namespace DateLayout.Strftime

open DateLayout.Calendar DateLayout.Text

/-- The largest number that a numeric specifier reads. -/
def largestNumber : Nat := 9223372036854775807

/-- Takes a number of at least `least` digits, and at most `most` where there is a limit, off the
front of a text. -/
def readNumber (least : Nat) (most : Option Nat) (cs : List Char) :
    Except Fault (Nat × List Char) :=
  let ds := leadingDigits most cs
  if byteCount cs < least then .error .tooShort
  else if ds.length < least then .error .invalid
  else if largestNumber < value ds then .error .outOfRange
  else .ok (value ds, cs.drop ds.length)

/-- How many digits a numeric specifier reads at most. -/
def NumberField.width : NumberField → Option Nat
  | .year | .isoYear => some 4
  | .quarter => some 1
  | .dayOfYear => some 3
  | .nanosecond => some 9
  | .timestamp => none
  | _ => some 2

/-- Takes a year off the front of a text. With a sign it may have any number of digits. -/
def readYear (cs : List Char) : Except Fault (Int × List Char) :=
  match cs with
  | '-' :: rest => do
      let (n, rest) ← readNumber 1 none rest
      return (-n, rest)
  | '+' :: rest => do
      let (n, rest) ← readNumber 1 none rest
      return (n, rest)
  | _ => do
      let (n, rest) ← readNumber 1 NumberField.year.width cs
      return (n, rest)

/-- Takes a number off the front of a text, after any white space. -/
def NumberField.read (field : NumberField) (cs : List Char) : Except Fault (Entry × List Char) :=
  let cs := cs.dropWhile isBlank
  match field with
  | .year | .isoYear => do
      let (n, rest) ← readYear cs
      return (.number field n, rest)
  | _ => do
      let (n, rest) ← readNumber 1 field.width cs
      return (.number field n, rest)

/-- Takes one of the names off the front of a text, and gives its place among them. The first
three letters decide; the rest of a long name is taken if it is there. -/
def readName (form : NameForm) (names : List (List Char)) (cs : List Char) :
    Except Fault (Nat × List Char) :=
  if byteCount cs < 3 then .error .tooShort
  else
    match names.findIdx? fun name => startsWith cs (name.take 3) with
    | none => .error .invalid
    | some i =>
        let rest := cs.drop 3
        let ending := (names.getD i []).drop 3
        if form = .long ∧ startsWith rest ending then .ok (i, rest.drop ending.length)
        else .ok (i, rest)

/-- Takes the number of a weekday off the front of a text, after any white space. -/
def readWeekdayNumber (count : WeekdayCount) (cs : List Char) :
    Except Fault (Weekday × List Char) := do
  let (n, rest) ← readNumber 1 (some 1) (cs.dropWhile isBlank)
  match count.weekday? n with
  | some w => .ok (w, rest)
  | none => .error .outOfRange

def readMeridiem (cs : List Char) : Except Fault (Bool × List Char) :=
  if byteCount cs < 2 then .error .tooShort
  else if startsWith cs ['a', 'm'] then .ok (false, cs.drop 2)
  else if startsWith cs ['p', 'm'] then .ok (true, cs.drop 2)
  else .error .invalid

def nanoseconds (ds : List Char) : Nat :=
  value (ds.rightpad 9 '0')

/-- Takes one to nine digits of a fraction off the front of a text, and drops further digits. -/
def readFraction (cs : List Char) : Except Fault (Nat × List Char) := do
  let (_, rest) ← readNumber 1 (some 9) cs
  return (nanoseconds (leadingDigits (some 9) cs), rest.dropWhile Char.isDigit)

def readFixedFraction (digits : Nat) (cs : List Char) : Except Fault (Nat × List Char) := do
  let (_, rest) ← readNumber digits (some digits) cs
  return (nanoseconds (leadingDigits (some digits) cs), rest)

/-- The minus sign of typography counts as one. A sign of `true` is west. -/
def readSign (cs : List Char) : Except Fault (Bool × List Char) :=
  match cs with
  | '+' :: rest => .ok (false, rest)
  | '-' :: rest => .ok (true, rest)
  | '\u2212' :: rest => .ok (true, rest)
  | _ :: _ => .error .invalid
  | [] => .error .tooShort

def readOffsetHours (cs : List Char) : Except Fault (Nat × List Char) :=
  if byteCount cs < 2 then .error .tooShort
  else if (leadingDigits (some 2) cs).length < 2 then .error .invalid
  else .ok (value (leadingDigits (some 2) cs), cs.drop 2)

/-- Takes the two digits of the minutes of an offset off the front of a text. Where they may be
missing, they are so only at the very end. -/
def readOffsetMinutes (optional : Bool) (cs : List Char) : Except Fault (Nat × List Char) :=
  if optional && cs.isEmpty then .ok (0, [])
  else if byteCount cs < 2 then .error .tooShort
  else if (leadingDigits (some 2) cs).length < 2 then .error .invalid
  else if 59 < value (leadingDigits (some 2) cs) then .error .outOfRange
  else .ok (value (leadingDigits (some 2) cs), cs.drop 2)

/-- Takes an offset off the front of a text: a sign, hours, perhaps colons and white space, and
minutes. -/
def readSignedOffset (optionalMinutes : Bool) (cs : List Char) :
    Except Fault (Int × List Char) := do
  let (west, rest) ← readSign cs
  let (hours, rest) ← readOffsetHours rest
  let (minutes, rest) ←
    readOffsetMinutes optionalMinutes (rest.dropWhile fun c => c == ':' || isBlank c)
  let seconds : Int := hours * 3600 + minutes * 60
  return (if west then -seconds else seconds, rest)

/-- The mark between a date and a time. -/
def readTimeMark (cs : List Char) : Except Fault (List Char) :=
  match cs with
  | 'T' :: rest => .ok rest
  | 't' :: rest => .ok rest
  | ' ' :: rest => .ok rest
  | _ :: _ => .error .invalid
  | [] => .error .tooShort

/-- Takes an offset off the front of a text, after any white space. The form makes no difference,
apart from the two that know names of UTC. -/
def OffsetForm.read (form : OffsetForm) (cs : List Char) : Except Fault (Int × List Char) :=
  let cs := cs.dropWhile isBlank
  match form with
  | .anyLength =>
      match cs with
      | 'Z' :: rest => .ok (0, rest)
      | 'z' :: rest => .ok (0, rest)
      | _ => readSignedOffset true cs
  | .colonOrUtc =>
      if startsWith cs ['u', 't', 'c'] then .ok (0, cs.drop 3)
      else
        match cs with
        | 'Z' :: rest => .ok (0, rest)
        | 'z' :: rest => .ok (0, rest)
        | _ => readSignedOffset false cs
  | _ => readSignedOffset false cs

/-- What an item reads at the front of a text, and the rest of the text. -/
def Item.read (item : Item) (cs : List Char) : Except Fault (Entry × List Char) :=
  match item with
  | .literal text =>
      if byteCount cs < byteCount text then .error .tooShort
      else if text.isPrefixOf cs then .ok (.nothing, cs.drop text.length)
      else .error .invalid
  | .blank _ => .ok (.nothing, cs.dropWhile isBlank)
  | .number field _ => field.read cs
  | .monthName form => do
      let (i, rest) ← readName form monthNames cs
      return (.number .month (i + 1), rest)
  | .weekdayName form => do
      let (i, rest) ← readName form weekdayNames cs
      return (.weekday (Weekday.ofMonday i), rest)
  | .weekdayNumber count => do
      let (w, rest) ← readWeekdayNumber count cs
      return (.weekday w, rest)
  | .meridiem _ => do
      let (afterNoon, rest) ← readMeridiem cs
      return (.meridiem afterNoon, rest)
  | .fraction =>
      match cs with
      | '.' :: rest => do
          let (n, rest) ← readFraction rest
          return (.number .nanosecond n, rest)
      | _ => .ok (.nothing, cs)
  | .fixedFraction digits =>
      match cs with
      | '.' :: rest => do
          let (n, rest) ← readFixedFraction digits rest
          return (.number .nanosecond n, rest)
      | _ => .ok (.nothing, cs)
  | .bareFraction digits => do
      let (n, rest) ← readFixedFraction digits cs
      return (.number .nanosecond n, rest)
  | .timeMark => do
      let rest ← readTimeMark cs
      return (.nothing, rest)
  | .offset form => do
      let (seconds, rest) ← form.read cs
      return (.offset seconds, rest)
  | .zoneName => .ok (.nothing, cs.dropWhile fun c => !isBlank c)
  | .unknown => .error .badFormat

section

variable {cs rest : List Char}

theorem Item.read_monthName {form : NameForm} {i : Nat}
    (h : readName form monthNames cs = .ok (i, rest)) :
    (Item.monthName form).read cs = .ok (.number .month (i + 1), rest) := by
  rw [Item.read, h]
  rfl

theorem Item.read_weekdayName {form : NameForm} {i : Nat}
    (h : readName form weekdayNames cs = .ok (i, rest)) :
    (Item.weekdayName form).read cs = .ok (.weekday (Weekday.ofMonday i), rest) := by
  rw [Item.read, h]
  rfl

theorem Item.read_weekdayNumber {count : WeekdayCount} {w : Weekday}
    (h : readWeekdayNumber count cs = .ok (w, rest)) :
    (Item.weekdayNumber count).read cs = .ok (.weekday w, rest) := by
  rw [Item.read, h]
  rfl

theorem Item.read_meridiem {letters : LetterCase} {afterNoon : Bool}
    (h : readMeridiem cs = .ok (afterNoon, rest)) :
    (Item.meridiem letters).read cs = .ok (.meridiem afterNoon, rest) := by
  rw [Item.read, h]
  rfl

theorem Item.read_fraction {n : Nat} (h : readFraction cs = .ok (n, rest)) :
    Item.fraction.read ('.' :: cs) = .ok (.number .nanosecond n, rest) := by
  rw [Item.read, h]
  rfl

theorem Item.read_fixedFraction {digits n : Nat}
    (h : readFixedFraction digits cs = .ok (n, rest)) :
    (Item.fixedFraction digits).read ('.' :: cs) = .ok (.number .nanosecond n, rest) := by
  rw [Item.read, h]
  rfl

theorem Item.read_bareFraction {digits n : Nat} (h : readFixedFraction digits cs = .ok (n, rest)) :
    (Item.bareFraction digits).read cs = .ok (.number .nanosecond n, rest) := by
  rw [Item.read, h]
  rfl

theorem Item.read_offset {form : OffsetForm} {seconds : Int}
    (h : form.read cs = .ok (seconds, rest)) :
    (Item.offset form).read cs = .ok (.offset seconds, rest) := by
  rw [Item.read, h]
  rfl

end

/-- Reads a text item by item into fields. The first failure ends it. -/
def readItems (is : List Item) (f : Fields) (cs : List Char) : Except Fault Fields :=
  match is with
  | [] => if cs.isEmpty then .ok f else .error .tooLong
  | item :: rest => do
      let (entry, cs) ← item.read cs
      let f ← f.enter entry
      readItems rest f cs

def read (layout text : String) : Except Fault Fields :=
  readItems (items layout.toList) .empty text.toList

end DateLayout.Strftime
