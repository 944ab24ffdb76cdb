import DateLayout.Calendar.Moment

/-!
# The day of the year

A date is given by its year and its place in the year: the months of a year come one after the
other and do not overlap, so no two dates have the same place (`eq_of_dayOfYear_eq`), and looking
a place up finds the date that has it (`ofYearDay?_dayOfYear`).

The last part bounds the instants of the years that are written with four digits, which lie far
inside of what can be read.
-/

namespace DateLayout.Calendar

theorem daysBeforeMonth_succ (year : Int) {month : Nat} (h : 1 ≤ month) :
    daysBeforeMonth year (month + 1) = daysBeforeMonth year month + daysInMonth year month := by
  cases month with
  | zero => omega
  | succ previous => rfl

theorem daysBeforeMonth_add_le (year : Int) {month later : Nat} (h : 1 ≤ month)
    (before : month < later) :
    daysBeforeMonth year month + daysInMonth year month ≤ daysBeforeMonth year later := by
  induction later with
  | zero => omega
  | succ later ih =>
      rw [daysBeforeMonth_succ year (by omega)]
      by_cases same : month = later
      · subst same
        exact Nat.le_refl _
      · have earlier := ih (by omega)
        omega

theorem daysBeforeMonth_thirteen (year : Int) : daysBeforeMonth year 13 = daysInYear year := by
  cases h : isLeap year <;> simp [daysBeforeMonth, daysInMonth, daysInYear, h]

namespace Date

theorem dayOfYear_pos (d : Date) : 1 ≤ d.dayOfYear := by
  have pos := d.day_pos
  rw [dayOfYear]
  omega

theorem dayOfYear_le (d : Date) : d.dayOfYear ≤ daysInYear d.year := by
  have day := d.day_le
  have month := d.month_le
  have ended := daysBeforeMonth_add_le d.year d.month_pos (by omega : d.month < 13)
  rw [daysBeforeMonth_thirteen] at ended
  rw [dayOfYear]
  omega

theorem dayOfYear_le_366 (d : Date) : d.dayOfYear ≤ 366 := by
  have le := d.dayOfYear_le
  unfold daysInYear at le
  split at le <;> omega

/-- Of two dates of a year the one in the later month comes later in the year. -/
theorem dayOfYear_lt_of_month_lt {d e : Date} (year : d.year = e.year)
    (month : d.month < e.month) : d.dayOfYear < e.dayOfYear := by
  have ended := daysBeforeMonth_add_le d.year d.month_pos month
  have day := d.day_le
  have pos := e.day_pos
  rw [dayOfYear, dayOfYear, ← year]
  omega

theorem eq_of_dayOfYear_eq {d e : Date} (year : d.year = e.year)
    (place : d.dayOfYear = e.dayOfYear) : d = e := by
  have month : d.month = e.month := by
    rcases Nat.lt_trichotomy d.month e.month with lt | same | lt
    · have earlier := dayOfYear_lt_of_month_lt year lt
      omega
    · exact same
    · have earlier := dayOfYear_lt_of_month_lt year.symm lt
      omega
  have day : d.day = e.day := by
    rw [dayOfYear, dayOfYear, year, month] at place
    omega
  have same : ofYmd? e.year e.month e.day = some d := ofYmd?_eq_some_iff.2 ⟨year, month, day⟩
  rw [ofYmd?_eq_some_iff.2 ⟨rfl, rfl, rfl⟩] at same
  exact (Option.some.inj same).symm

theorem ofYearDay?_dayOfYear (d : Date) : ofYearDay? d.year d.dayOfYear = some d := by
  obtain ⟨e, he⟩ := Option.isSome_iff_exists.1 (isSome_ofYearDay? d.dayOfYear_pos d.dayOfYear_le)
  obtain ⟨year, place⟩ := eq_of_ofYearDay? he
  rw [he, eq_of_dayOfYear_eq year place]

theorem ofYmd?_self (d : Date) : ofYmd? d.year d.month d.day = some d :=
  ofYmd?_eq_some_iff.2 ⟨rfl, rfl, rfl⟩

theorem day_le_31 (d : Date) : d.day ≤ 31 := by
  have le := d.day_le
  unfold daysInMonth at le
  split at le
  · split at le <;> omega
  all_goals omega

end Date

theorem inRange_of_four_digits {d : Date} (lower : 0 ≤ d.year) (upper : d.year ≤ 9999) :
    d.inRange = true := by
  have first : firstYear ≤ d.year := by
    unfold firstYear
    omega
  have last : d.year ≤ lastYear := by
    unfold lastYear
    omega
  rw [Date.inRange, decide_eq_true first, decide_eq_true last]
  rfl

/-- Wherever its offset puts it, a moment of a year with four digits can be read. -/
theorem instantInRange_of_four_digits {m : Moment} (lower : 0 ≤ m.localTime.date.year)
    (upper : m.localTime.date.year ≤ 9999) : instantInRange m.instant = true := by
  have day := m.localTime.date.dayOfYear_le_366
  have time : m.localTime.time.secondOfDay < 86400 := m.localTime.time.secondOfDay_lt
  have west := m.offset.lower
  have east := m.offset.upper
  have instant : m.instant = (365 * (m.localTime.date.year - 1) +
      (m.localTime.date.year - 1) / 4 - (m.localTime.date.year - 1) / 100 +
      (m.localTime.date.year - 1) / 400 + m.localTime.date.dayOfYear - 719163) * 86400 +
      m.localTime.time.secondOfDay - m.offset.seconds := rfl
  have first : (daysBeforeYear firstYear - 719162) * 86400 ≤ m.instant := by
    rw [instant, daysBeforeYear, firstYear]
    omega
  have last : m.instant < (daysBeforeYear (lastYear + 1) - 719162) * 86400 := by
    rw [instant, daysBeforeYear, lastYear]
    omega
  rw [instantInRange, decide_eq_true first, decide_eq_true last]
  rfl

end DateLayout.Calendar
