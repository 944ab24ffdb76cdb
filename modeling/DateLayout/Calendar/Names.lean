/-!
# Names of months and days

English month and weekday names. A short name is the first three letters of the long one.
-/

namespace DateLayout.Calendar

inductive Weekday where
  | monday
  | tuesday
  | wednesday
  | thursday
  | friday
  | saturday
  | sunday
deriving DecidableEq, Repr

/-- The day that comes `n` days after a Monday. -/
def Weekday.ofMonday (n : Nat) : Weekday :=
  match n % 7 with
  | 0 => .monday
  | 1 => .tuesday
  | 2 => .wednesday
  | 3 => .thursday
  | 4 => .friday
  | 5 => .saturday
  | _ => .sunday

def Weekday.index : Weekday → Nat
  | .monday => 0
  | .tuesday => 1
  | .wednesday => 2
  | .thursday => 3
  | .friday => 4
  | .saturday => 5
  | .sunday => 6

/-- Whether a name is written in full or cut to three letters. -/
inductive NameForm where
  | short
  | long
deriving DecidableEq, Repr

def monthNames : List (List Char) :=
  ["January", "February", "March", "April", "May", "June", "July", "August", "September",
    "October", "November", "December"].map String.toList

def weekdayNames : List (List Char) :=
  ["Monday", "Tuesday", "Wednesday", "Thursday", "Friday", "Saturday", "Sunday"].map
    String.toList

def NameForm.apply (form : NameForm) (name : List Char) : List Char :=
  match form with
  | .short => name.take 3
  | .long => name

theorem Weekday.ofMonday_index (w : Weekday) : Weekday.ofMonday w.index = w := by
  cases w <;> rfl

end DateLayout.Calendar
