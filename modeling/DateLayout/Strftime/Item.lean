import DateLayout.Calendar.Week
import DateLayout.Text.Blank
import DateLayout.Text.Decimal

/-!
# The items of a strftime layout

A native layout is a strftime layout: plain text with specifiers that start with a percent sign.
`items` cuts it into runs of white space, runs of other plain text, and specifiers. A layout that
cannot be understood at some place has the item `unknown` there, with which writing and reading
fail.
-/

namespace DateLayout.Strftime

open DateLayout.Calendar DateLayout.Text

/-- What a numeric specifier writes and reads. -/
inductive NumberField where
  | year
  | century
  | yearOfCentury
  | month
  | day
  | dayOfYear
  | quarter
  /-- The year that the week of a date belongs to by the ISO rule. -/
  | isoYear
  | isoYearOfCentury
  | isoWeek
  | weekFromSunday
  | weekFromMonday
  | hour
  | hourOfHalfDay
  | minute
  | second
  | nanosecond
  | timestamp
deriving DecidableEq, Repr

/-- How an offset from UTC is written: `+hhmm`, `+hh:mm`, `+hh:mm:ss` or `+hh`. The form
`colonOrUtc` is written like `colon`, but `Z` or `UTC` can be read in its place. The last form,
`anyLength`, is for reading alone and takes hours with or without minutes, and `Z`. -/
inductive OffsetForm where
  | plain
  | colon
  | seconds
  | hours
  | colonOrUtc
  | anyLength
deriving DecidableEq, Repr

inductive LetterCase where
  | upper
  | lower
deriving DecidableEq, Repr

/-- A part of a strftime layout. -/
inductive Item where
  /-- Plain text without white space. -/
  | literal (text : List Char)
  | blank (text : List Char)
  /-- A number and what fills it up to its width when it is written. -/
  | number (field : NumberField) (padding : Padding)
  | monthName (form : NameForm)
  | weekdayName (form : NameForm)
  | weekdayNumber (count : WeekdayCount)
  | meridiem (letters : LetterCase)
  /-- A point and the fraction of the second, with as many digits as it needs. -/
  | fraction
  /-- A point and the fraction of the second, with a fixed number of digits. -/
  | fixedFraction (digits : Nat)
  /-- The fraction of the second with a fixed number of digits and no point. -/
  | bareFraction (digits : Nat)
  /-- The letter T between a date and a time. A small one or a space is read in its place. -/
  | timeMark
  | offset (form : OffsetForm)
  | zoneName
  /-- A specifier with no meaning, or one that is cut off. -/
  | unknown
deriving DecidableEq, Repr

/-- Year, month and day with something between them. -/
def yearMonthDay (between : List Item) : List Item :=
  .number .year .zero :: between ++ .number .month .zero :: between ++ [.number .day .zero]

/-- Hour, minute and second with something between them. The hour is that of the day or of a half
day. -/
def hourMinuteSecond (dial : NumberField) (between : List Item) : List Item :=
  .number dial .zero :: between ++ .number .minute .zero :: between ++ [.number .second .zero]

/-- Month, day and two digits of the year. -/
def shortDate : List Item :=
  [.number .month .zero, .literal ['/'], .number .day .zero, .literal ['/'],
    .number .yearOfCentury .zero]

/-- A date, a time and an offset as they are exchanged between machines. White space is skipped in
front of their marks. -/
def exchangeFormat : List Item :=
  yearMonthDay [.blank [], .literal ['-']] ++ .timeMark ::
    hourMinuteSecond .hour [.blank [], .literal [':']] ++
      [.fraction, .blank [], .offset .colonOrUtc]

/-- The items of a specifier with a single letter. -/
def letterItems (c : Char) : List Item :=
  match c with
  | 'Y' => [.number .year .zero]
  | 'C' => [.number .century .zero]
  | 'y' => [.number .yearOfCentury .zero]
  | 'q' => [.number .quarter .none]
  | 'm' => [.number .month .zero]
  | 'b' | 'h' => [.monthName .short]
  | 'B' => [.monthName .long]
  | 'd' => [.number .day .zero]
  | 'e' => [.number .day .space]
  | 'j' => [.number .dayOfYear .zero]
  | 'a' => [.weekdayName .short]
  | 'A' => [.weekdayName .long]
  | 'w' => [.weekdayNumber .fromSunday]
  | 'u' => [.weekdayNumber .fromMonday]
  | 'U' => [.number .weekFromSunday .zero]
  | 'W' => [.number .weekFromMonday .zero]
  | 'G' => [.number .isoYear .zero]
  | 'g' => [.number .isoYearOfCentury .zero]
  | 'V' => [.number .isoWeek .zero]
  | 'H' => [.number .hour .zero]
  | 'k' => [.number .hour .space]
  | 'I' => [.number .hourOfHalfDay .zero]
  | 'l' => [.number .hourOfHalfDay .space]
  | 'M' => [.number .minute .zero]
  | 'S' => [.number .second .zero]
  | 'f' => [.number .nanosecond .zero]
  | 'p' => [.meridiem .upper]
  | 'P' => [.meridiem .lower]
  | 's' => [.number .timestamp .none]
  | 'z' => [.offset .plain]
  | 'Z' => [.zoneName]
  | 'F' => yearMonthDay [.literal ['-']]
  | 'D' | 'x' => shortDate
  | 'v' =>
      [.number .day .space, .literal ['-'], .monthName .short, .literal ['-'], .number .year .zero]
  | 'R' => [.number .hour .zero, .literal [':'], .number .minute .zero]
  | 'T' | 'X' => hourMinuteSecond .hour [.literal [':']]
  | 'r' => hourMinuteSecond .hourOfHalfDay [.literal [':']] ++ [.blank [' '], .meridiem .upper]
  | 'c' =>
      [.weekdayName .short, .blank [' '], .monthName .short, .blank [' '], .number .day .space,
        .blank [' ']] ++ hourMinuteSecond .hour [.literal [':']] ++
        [.blank [' '], .number .year .zero]
  | '+' => exchangeFormat
  | 'n' => [.blank ['\n']]
  | 't' => [.blank ['\t']]
  | '%' => [.literal ['%']]
  | _ => [.unknown]

/-- The items of a letter after a padding flag, which only a single number can have. The number of
a weekday has one digit, so there is nothing to fill up. -/
def paddedItems (padding : Padding) (c : Char) : List Item :=
  match letterItems c with
  | [.number field _] => [.number field padding]
  | [.weekdayNumber count] => [.weekdayNumber count]
  | _ => [.unknown]

/-- The items of the specifier that follows a percent sign, and the rest of the layout. -/
def specifier (cs : List Char) : List Item × List Char :=
  match cs with
  | '-' :: c :: rest => (paddedItems .none c, rest)
  | '_' :: c :: rest => (paddedItems .space c, rest)
  | '0' :: c :: rest => (paddedItems .zero c, rest)
  | '#' :: 'z' :: rest => ([.offset .anyLength], rest)
  | ':' :: 'z' :: rest => ([.offset .colon], rest)
  | ':' :: ':' :: 'z' :: rest => ([.offset .seconds], rest)
  | ':' :: ':' :: ':' :: 'z' :: rest => ([.offset .hours], rest)
  | '.' :: 'f' :: rest => ([.fraction], rest)
  | '.' :: '3' :: 'f' :: rest => ([.fixedFraction 3], rest)
  | '.' :: '6' :: 'f' :: rest => ([.fixedFraction 6], rest)
  | '.' :: '9' :: 'f' :: rest => ([.fixedFraction 9], rest)
  | '3' :: 'f' :: rest => ([.bareFraction 3], rest)
  | '6' :: 'f' :: rest => ([.bareFraction 6], rest)
  | '9' :: 'f' :: rest => ([.bareFraction 9], rest)
  | c :: rest => (letterItems c, rest)
  | [] => ([.unknown], [])

theorem length_specifier_le (cs : List Char) : (specifier cs).2.length ≤ cs.length := by
  unfold specifier
  split <;> simp <;> omega

/-- Whether a character stands for itself in a run of plain text. -/
def isPlain (c : Char) : Bool :=
  c != '%' && !isBlank c

theorem length_dropWhile_le (p : Char → Bool) (cs : List Char) :
    (cs.dropWhile p).length ≤ cs.length :=
  (List.dropWhile_sublist p).length_le

def items (layout : List Char) : List Item :=
  match layout with
  | [] => []
  | c :: rest =>
      if c = '%' then
        (specifier rest).1 ++ items (specifier rest).2
      else if isBlank c then
        .blank (c :: rest.takeWhile isBlank) :: items (rest.dropWhile isBlank)
      else
        .literal (c :: rest.takeWhile isPlain) :: items (rest.dropWhile isPlain)
termination_by layout.length
decreasing_by
  · exact Nat.lt_succ_of_le (length_specifier_le rest)
  · exact Nat.lt_succ_of_le (length_dropWhile_le isBlank rest)
  · exact Nat.lt_succ_of_le (length_dropWhile_le isPlain rest)

end DateLayout.Strftime
