import DateLayout.Calendar.Date

/-!
# Dates from day numbers

Every day number is the number of a date. `ofDayNumber` finds the date: first its year, by a
guess from the mean length of a year that is off by one at most, then the day of that year. The
two inequalities on `yearOfDay` say that the year is the right one, `dayNumber_ofDayNumber` that
the date is.
-/

namespace DateLayout.Calendar

/-- The year of the day that comes `n` days after the first of January of year 1. -/
def yearOfDay (n : Int) : Int :=
  let guess := 400 * n / 146097 + 1
  if n < daysBeforeYear guess then guess - 1
  else if daysBeforeYear (guess + 1) ≤ n then guess + 1
  else guess

theorem daysBeforeYear_yearOfDay_le (n : Int) : daysBeforeYear (yearOfDay n) ≤ n := by
  unfold yearOfDay
  simp only []
  split
  · unfold daysBeforeYear at *
    omega
  · split
    · assumption
    · omega

theorem lt_daysBeforeYear_yearOfDay_succ (n : Int) : n < daysBeforeYear (yearOfDay n + 1) := by
  unfold yearOfDay
  simp only []
  split
  · simpa using ‹_›
  · split
    · unfold daysBeforeYear at *
      omega
    · omega

namespace Date

/-- The place in its year of the day with the given number. -/
def yearDayOfDayNumber (n : Int) : Nat :=
  (n + 719163 - daysBeforeYear (yearOfDay (n + 719162))).toNat

theorem isSome_of_dayNumber (n : Int) :
    (ofYearDay? (yearOfDay (n + 719162)) (yearDayOfDayNumber n)).isSome = true := by
  have below := daysBeforeYear_yearOfDay_le (n + 719162)
  have above := lt_daysBeforeYear_yearOfDay_succ (n + 719162)
  rw [daysBeforeYear_succ] at above
  exact isSome_ofYearDay? (by unfold yearDayOfDayNumber; omega)
    (by unfold yearDayOfDayNumber; omega)

def ofDayNumber (n : Int) : Date :=
  (ofYearDay? (yearOfDay (n + 719162)) (yearDayOfDayNumber n)).get (isSome_of_dayNumber n)

theorem dayNumber_ofDayNumber (n : Int) : (ofDayNumber n).dayNumber = n := by
  have h : ofYearDay? (yearOfDay (n + 719162)) (yearDayOfDayNumber n) = some (ofDayNumber n) :=
    (Option.some_get (isSome_of_dayNumber n)).symm
  obtain ⟨hy, hd⟩ := eq_of_ofYearDay? h
  have below := daysBeforeYear_yearOfDay_le (n + 719162)
  rw [dayNumber, hy, hd, yearDayOfDayNumber]
  omega

end Date

end DateLayout.Calendar
