import DateLayout.Calendar.Names

/-!
# Dates

Dates of the proleptic Gregorian calendar, with a year zero. A date always names a day that
exists: the bounds of its day are part of the type. Besides year, month and day a date has its
place in the year (`dayOfYear`, read back by `ofYearDay?`) and its number on the line of all
days (`dayNumber`).
-/

namespace DateLayout.Calendar

/-- Every fourth year is a leap year, of the full centuries only every fourth. -/
def isLeap (year : Int) : Bool :=
  year % 4 == 0 && (year % 100 != 0 || year % 400 == 0)

/-- The length of a month, counted from 1; a number that is no month has no days. -/
def daysInMonth (year : Int) (month : Nat) : Nat :=
  match month with
  | 2 => if isLeap year then 29 else 28
  | 4 | 6 | 9 | 11 => 30
  | 1 | 3 | 5 | 7 | 8 | 10 | 12 => 31
  | _ => 0

def daysInYear (year : Int) : Nat :=
  if isLeap year then 366 else 365

/-- The days of a year that come before a month. -/
def daysBeforeMonth (year : Int) (month : Nat) : Nat :=
  match month with
  | 0 => 0
  | 1 => 0
  | previous + 2 => daysBeforeMonth year (previous + 1) + daysInMonth year (previous + 1)

/-- The days from the first of January of year 1 to the first of January of `year`, negative for
years before. -/
def daysBeforeYear (year : Int) : Int :=
  365 * (year - 1) + (year - 1) / 4 - (year - 1) / 100 + (year - 1) / 400

structure Date where
  year : Int
  month : Nat
  day : Nat
  day_pos : 1 ≤ day
  day_le : day ≤ daysInMonth year month
deriving DecidableEq, Repr

namespace Date

def ofYmd? (year : Int) (month day : Nat) : Option Date :=
  if h : 1 ≤ day ∧ day ≤ daysInMonth year month then some ⟨year, month, day, h.1, h.2⟩ else none

/-- The place of a date in its year, the first of January being 1. -/
def dayOfYear (d : Date) : Nat :=
  daysBeforeMonth d.year d.month + d.day

/-- The date at a place in a year, if the year has it. -/
def ofYearDay? (year : Int) (n : Nat) : Option Date :=
  (List.range' 1 12).findSome? fun month => ofYmd? year month (n - daysBeforeMonth year month)

/-- The number of days from the first of January 1970 to a date, negative before. -/
def dayNumber (d : Date) : Int :=
  daysBeforeYear d.year + d.dayOfYear - 719163

/-- The day of the week of a date. The first of January 1970 was a Thursday. -/
def weekday (d : Date) : Weekday :=
  Weekday.ofMonday ((d.dayNumber + 3) % 7).toNat

theorem month_pos (d : Date) : 1 ≤ d.month := by
  have h := Nat.le_trans d.day_pos d.day_le
  rcases Nat.eq_zero_or_pos d.month with h0 | h0
  · simp [h0, daysInMonth] at h
  · exact h0

theorem month_le (d : Date) : d.month ≤ 12 := by
  have h := Nat.le_trans d.day_pos d.day_le
  rcases Nat.lt_or_ge 12 d.month with h0 | h0
  · have : daysInMonth d.year d.month = 0 := by
      unfold daysInMonth
      split <;> first | rfl | omega
    omega
  · exact h0

theorem ofYmd?_eq_some_iff {year : Int} {month day : Nat} {d : Date} :
    ofYmd? year month day = some d ↔ d.year = year ∧ d.month = month ∧ d.day = day := by
  unfold ofYmd?
  constructor
  · intro h
    split at h
    · cases h
      exact ⟨rfl, rfl, rfl⟩
    · cases h
  · rintro ⟨rfl, rfl, rfl⟩
    simp [d.day_pos, d.day_le]

end Date

/-- A leap day makes the next year start one day later. -/
theorem daysBeforeYear_succ (year : Int) :
    daysBeforeYear (year + 1) = daysBeforeYear year + daysInYear year := by
  simp only [daysBeforeYear, daysInYear, isLeap, Bool.and_eq_true, Bool.or_eq_true, beq_iff_eq,
    bne_iff_ne, ne_eq]
  split <;> omega

/-- A year has a date for each of its days. -/
theorem Date.isSome_ofYearDay? {year : Int} {n : Nat} (pos : 1 ≤ n) (le : n ≤ daysInYear year) :
    (ofYearDay? year n).isSome = true := by
  have months : List.range' 1 12 = [1, 2, 3, 4, 5, 6, 7, 8, 9, 10, 11, 12] := rfl
  rw [ofYearDay?, List.findSome?_isSome_iff, months]
  cases h : isLeap year <;>
    simp only [daysInYear, h, if_true, Bool.false_eq_true, if_false] at le <;>
    simp [ofYmd?, daysBeforeMonth, daysInMonth, h] <;>
    omega

theorem Date.eq_of_ofYearDay? {year : Int} {n : Nat} {d : Date}
    (h : ofYearDay? year n = some d) : d.year = year ∧ d.dayOfYear = n := by
  rw [ofYearDay?] at h
  obtain ⟨month, -, hd⟩ := List.exists_of_findSome?_eq_some h
  obtain ⟨rfl, rfl, hday⟩ := ofYmd?_eq_some_iff.1 hd
  have := d.day_pos
  exact ⟨rfl, by rw [dayOfYear]; omega⟩

end DateLayout.Calendar
