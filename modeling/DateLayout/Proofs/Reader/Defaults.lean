import DateLayout.Proofs.Reader.Completion

/-!
# Defaults only fill gaps

A default goes through the same setter that reading uses, and a setter refuses a field that holds
something else. No default meets such a field: whichever fields are known, filling in succeeds,
and what was known before is known afterwards (`Fields.Extends`). The weekday is the exception,
since it is forgotten first.

There is then enough for a date and for the hour and minute of a day (`Fields.Complete`). Complete
fields are just those that the defaults leave as they are (`Fields.fillDefaults_eq_self_iff`), so
filling in a second time changes nothing.

A text can give one half of the hour alone. An hour without am or pm is then one before noon, and
am or pm without an hour is the start of its half of the day. This is said of the fields and of
the time that they resolve to (`Fields.FilledHour`): fields in range stay in range, so there is
such a time unless a fraction stands without its second.
-/

namespace DateLayout.Strftime

open DateLayout.Calendar

/-! ## What is known stays known -/

section

variable {α : Type} {old : Option α}

/-- A field that is set stays set to the same value; one that is open may be set. -/
def Retains (old new : Option α) : Prop :=
  ∀ a, old = some a → new = some a

theorem Retains.refl (field : Option α) : Retains field field :=
  fun _ known => known

theorem Retains.none (new : Option α) : Retains none new :=
  nofun

theorem Retains.getD (field : Option α) (default : α) :
    Retains field (some (field.getD default)) := by
  intro a known
  rw [known]
  rfl

theorem Retains.ite {p : Prop} [Decidable p] {new other : Option α} (yes : p → Retains old new)
    (no : Retains old other) : Retains old (if p then new else other) := by
  split
  · next h => exact yes h
  · exact no

end

namespace Fields

variable {f : Fields} {t : TimeOfDay}

/-- All that is known in `f` is known in `g`. -/
structure Extends (f g : Fields) : Prop where
  year : Retains f.year g.year
  century : Retains f.century g.century
  yearOfCentury : Retains f.yearOfCentury g.yearOfCentury
  month : Retains f.month g.month
  day : Retains f.day g.day
  dayOfYear : Retains f.dayOfYear g.dayOfYear
  quarter : Retains f.quarter g.quarter
  isoYear : Retains f.isoYear g.isoYear
  isoYearOfCentury : Retains f.isoYearOfCentury g.isoYearOfCentury
  isoWeek : Retains f.isoWeek g.isoWeek
  weekFromSunday : Retains f.weekFromSunday g.weekFromSunday
  weekFromMonday : Retains f.weekFromMonday g.weekFromMonday
  weekday : Retains f.weekday g.weekday
  afterNoon : Retains f.afterNoon g.afterNoon
  hourOfHalfDay : Retains f.hourOfHalfDay g.hourOfHalfDay
  minute : Retains f.minute g.minute
  second : Retains f.second g.second
  nanosecond : Retains f.nanosecond g.nanosecond
  timestamp : Retains f.timestamp g.timestamp
  offset : Retains f.offset g.offset

theorem extends_completed (f : Fields) : Extends { f with weekday := none } f.completed where
  year := by
    -- The condition names all three fields of the year; that this one is open is what counts.
    refine .ite (fun unknown => ?_) (.refl f.year)
    simp only [Bool.and_eq_true, Option.isNone_iff_eq_none] at unknown
    show Retains f.year _
    rw [unknown.1.1]
    exact .none _
  century := .refl _
  yearOfCentury := .refl _
  month := .ite (fun _ => .getD _ _) (.refl _)
  day := .ite (fun _ => .getD _ _) (.refl _)
  dayOfYear := .refl _
  quarter := .refl _
  isoYear := .refl _
  isoYearOfCentury := .refl _
  isoWeek := .refl _
  weekFromSunday := .refl _
  weekFromMonday := .refl _
  weekday := .refl _
  afterNoon := .getD _ _
  hourOfHalfDay := .getD _ _
  minute := .getD _ _
  second := .refl _
  nanosecond := .refl _
  timestamp := .refl _
  offset := .refl _

/-! ## Enough for a date and a time -/

/-- Fields with something of the year, with the month and day or the day of the year, and with both
halves of the hour and the minute. There is no weekday that could contradict the date. -/
structure Complete (f : Fields) : Prop where
  year : f.year ≠ none ∨ f.century ≠ none ∨ f.yearOfCentury ≠ none
  month : f.dayOfYear = none → f.month ≠ none
  day : f.dayOfYear = none → f.day ≠ none
  weekday : f.weekday = none
  afterNoon : f.afterNoon ≠ none
  hourOfHalfDay : f.hourOfHalfDay ≠ none
  minute : f.minute ≠ none

/-- The default of the year is given if and only if nothing is known of it. -/
theorem year_open_iff :
    (f.year.isNone && f.century.isNone && f.yearOfCentury.isNone) = true ↔
      ¬(f.year ≠ none ∨ f.century ≠ none ∨ f.yearOfCentury ≠ none) := by
  simp only [Bool.and_eq_true, Option.isNone_iff_eq_none, not_or, ne_eq, Classical.not_not,
    and_assoc]

theorem complete_completed (f : Fields) : f.completed.Complete where
  year := by
    show (if _ then some 0 else f.year) ≠ none ∨ f.century ≠ none ∨ f.yearOfCentury ≠ none
    split
    · exact .inl (Option.some_ne_none _)
    · next known => exact Classical.not_not.1 (mt year_open_iff.2 known)
  month := by
    intro place
    have place : f.dayOfYear = none := place
    rw [completed, place]
    exact Option.some_ne_none _
  day := by
    intro place
    have place : f.dayOfYear = none := place
    rw [completed, place]
    exact Option.some_ne_none _
  weekday := rfl
  afterNoon := Option.some_ne_none _
  hourOfHalfDay := Option.some_ne_none _
  minute := Option.some_ne_none _

/-- A default makes no difference to a field that is known wherever the default is considered. -/
theorem ite_some_getD {p : Prop} [Decidable p] {field : Option Int} (known : p → field ≠ none)
    (default : Int) : (if p then some (field.getD default) else field) = field := by
  split
  · next h => exact Option.getD_of_ne_none (known h) default
  · rfl

theorem completed_of_complete (h : f.Complete) : f.completed = f := by
  have year : (if f.year.isNone && f.century.isNone && f.yearOfCentury.isNone then some 0
      else f.year) = f.year :=
    if_neg fun unknown => year_open_iff.1 unknown h.year
  have month : (if f.dayOfYear.isNone then some (f.month.getD 1) else f.month) = f.month :=
    ite_some_getD (fun place => h.month (Option.isNone_iff_eq_none.1 place)) 1
  have day : (if f.dayOfYear.isNone then some (f.day.getD 1) else f.day) = f.day :=
    ite_some_getD (fun place => h.day (Option.isNone_iff_eq_none.1 place)) 1
  rw [completed, year, month, day, Option.getD_of_ne_none h.afterNoon,
    Option.getD_of_ne_none h.hourOfHalfDay, Option.getD_of_ne_none h.minute, ← h.weekday]

/-- Complete fields are the ones to which the defaults add nothing. -/
theorem fillDefaults_eq_self_iff : f.fillDefaults = .ok f ↔ f.Complete := by
  rw [fillDefaults_eq]
  constructor
  · intro same
    have same : f.completed = f := Except.ok.inj same
    rw [← same]
    exact f.complete_completed
  · intro complete
    rw [completed_of_complete complete]

/-! ## Fields in range -/

/-- A number between two bounds, if it is known. -/
def Within (lower upper : Int) (field : Option Int) : Prop :=
  ∀ n, field = some n → lower ≤ n ∧ n ≤ upper

theorem within_some {lower upper n : Int} (h : lower ≤ n ∧ n ≤ upper) :
    Within lower upper (some n) := by
  rintro _ ⟨⟩
  exact h

theorem Within.getD {lower upper : Int} {field : Option Int} (h : Within lower upper field)
    (default : Int) (within : lower ≤ default ∧ default ≤ upper) :
    lower ≤ field.getD default ∧ field.getD default ≤ upper := by
  cases known : field with
  | none => exact within
  | some n => exact h n known

theorem Within.ite {p : Prop} [Decidable p] {lower upper n : Int} {field : Option Int}
    (within : lower ≤ n ∧ n ≤ upper) (h : Within lower upper field) :
    Within lower upper (if p then some n else field) := by
  split
  · exact within_some within
  · exact h

/-- Fields whose numbers are within the bounds that the setters keep. -/
structure InRange (f : Fields) : Prop where
  year : Within (-2147483648) 2147483647 f.year
  century : Within 0 2147483647 f.century
  yearOfCentury : Within 0 99 f.yearOfCentury
  month : Within 1 12 f.month
  day : Within 1 31 f.day
  dayOfYear : Within 1 366 f.dayOfYear
  quarter : Within 1 4 f.quarter
  isoYear : Within (-2147483648) 2147483647 f.isoYear
  isoYearOfCentury : Within 0 99 f.isoYearOfCentury
  isoWeek : Within 1 53 f.isoWeek
  weekFromSunday : Within 0 53 f.weekFromSunday
  weekFromMonday : Within 0 53 f.weekFromMonday
  hourOfHalfDay : Within 0 11 f.hourOfHalfDay
  minute : Within 0 59 f.minute
  second : Within 0 60 f.second
  nanosecond : Within 0 999999999 f.nanosecond

/-- Every default is within the bounds of its field. -/
theorem InRange.completed (h : f.InRange) : f.completed.InRange where
  year := .ite (by decide) h.year
  century := h.century
  yearOfCentury := h.yearOfCentury
  month := .ite (h.month.getD 1 (by decide)) h.month
  day := .ite (h.day.getD 1 (by decide)) h.day
  dayOfYear := h.dayOfYear
  quarter := h.quarter
  isoYear := h.isoYear
  isoYearOfCentury := h.isoYearOfCentury
  isoWeek := h.isoWeek
  weekFromSunday := h.weekFromSunday
  weekFromMonday := h.weekFromMonday
  hourOfHalfDay := within_some (h.hourOfHalfDay.getD 0 (by decide))
  minute := within_some (h.minute.getD 0 (by decide))
  second := h.second
  nanosecond := h.nanosecond

/-- With the defaults there is a time of day, unless a fraction stands without its second. -/
theorem exists_resolveTime_completed (h : f.InRange)
    (whole : f.second = none → f.nanosecond = none) :
    ∃ t, f.completed.resolveTime = .ok t ∧
      (t.hour : Int) = (if f.afterNoon.getD false then 12 else 0) + f.hourOfHalfDay.getD 0 ∧
      (t.minute : Int) = f.minute.getD 0 := by
  have hour := h.hourOfHalfDay.getD 0 (by decide)
  have minute := h.minute.getD 0 (by decide)
  have second := h.second.getD 0 (by decide)
  have nanosecond := h.nanosecond.getD 0 (by decide)
  have hour_lt : (if f.afterNoon.getD false then 12 else 0) +
      (f.hourOfHalfDay.getD 0).toNat < 24 := by
    split <;> omega
  have second_lt : (if f.second.getD 0 = 60 then 59 else (f.second.getD 0).toNat) < 60 := by
    split <;> omega
  have nanosecond_lt : (if f.second.getD 0 = 60 then nanosPerSecond else 0) +
      (f.nanosecond.getD 0).toNat < 2 * nanosPerSecond := by
    rw [nanosPerSecond]
    split <;> omega
  have fraction : (f.second.isNone && f.nanosecond.isSome) = false := by
    cases open_ : f.second with
    | some n => rfl
    | none =>
        rw [whole open_]
        rfl
  refine ⟨⟨_, (f.minute.getD 0).toNat, _, _, hour_lt, by omega, second_lt, nanosecond_lt⟩,
    resolveTime_of_parts rfl rfl rfl fraction rfl rfl rfl rfl, ?_, ?_⟩
  · show ((_ + _ : Nat) : Int) = _
    split <;> omega
  · exact Int.toNat_of_nonneg minute.1

/-! ## The defaults -/

/-- A time of day for fields that leave one half of the hour open, or the minute: without am or pm
the hour is the one before noon, and am or pm alone is 0:00 or 12:00. -/
structure FilledHour (f : Fields) (t : TimeOfDay) : Prop where
  beforeNoon : ∀ hour, f.afterNoon = none → f.hourOfHalfDay = some hour →
    t.hour < 12 ∧ (t.hour : Int) = hour
  start : ∀ afterNoon, f.afterNoon = some afterNoon → f.hourOfHalfDay = none →
    t.hour = if afterNoon then 12 else 0
  minute : f.minute = none → t.minute = 0

theorem filledHour_of_eq (h : f.InRange)
    (hour : (t.hour : Int) =
      (if f.afterNoon.getD false then 12 else 0) + f.hourOfHalfDay.getD 0)
    (minute : (t.minute : Int) = f.minute.getD 0) : f.FilledHour t where
  beforeNoon := by
    intro n half dial
    have within := h.hourOfHalfDay n dial
    rw [half, dial] at hour
    have hour : (t.hour : Int) = 0 + n := hour
    omega
  start := by
    intro afterNoon half dial
    rw [half, dial] at hour
    cases afterNoon with
    | false => exact Int.ofNat.inj hour
    | true => exact Int.ofNat.inj hour
  minute := by
    intro open_
    rw [open_] at minute
    exact Int.ofNat.inj minute

/-- Filling in defaults succeeds whatever is known. It keeps what is known apart from the weekday,
has no default for the second, its fraction and the offset, leaves enough for a date and for the
hour and minute, and adds nothing when it is done again. An open half of the hour is filled in as
before noon and as the start of its half of the day; with fields in range a clock shows that. -/
theorem fillDefaults_fills_gaps (f : Fields) :
    ∃ g, f.fillDefaults = .ok g ∧ g.weekday = none ∧ Extends { f with weekday := none } g ∧
      (g.second = f.second ∧ g.nanosecond = f.nanosecond ∧ g.offset = f.offset) ∧
      g.Complete ∧ g.fillDefaults = .ok g ∧
      (f.afterNoon = none → g.afterNoon = some false) ∧
      (f.hourOfHalfDay = none → g.hourOfHalfDay = some 0) ∧
      (f.InRange → g.InRange ∧ ((f.second = none → f.nanosecond = none) →
        ∃ t, g.resolveTime = .ok t ∧ f.FilledHour t)) := by
  have complete := f.complete_completed
  refine ⟨f.completed, f.fillDefaults_eq, rfl, f.extends_completed, ⟨rfl, rfl, rfl⟩, complete,
    fillDefaults_eq_self_iff.2 complete, ?_, ?_, ?_⟩
  · intro open_
    rw [completed, open_]
    rfl
  · intro open_
    rw [completed, open_]
    rfl
  · intro inRange
    refine ⟨inRange.completed, fun whole => ?_⟩
    obtain ⟨t, time, hour, minute⟩ := exists_resolveTime_completed inRange whole
    exact ⟨t, time, filledHour_of_eq inRange hour minute⟩

/-- The afternoon of a leap day by its place in the year, with a weekday that is not its own. -/
def afternoonOfLeapDay : Fields :=
  { empty with
    year := some 2020
    dayOfYear := some 60
    weekday := some .monday
    afterNoon := some true }

theorem inRange_afternoonOfLeapDay : afternoonOfLeapDay.InRange where
  year := within_some (by decide)
  century := nofun
  yearOfCentury := nofun
  month := nofun
  day := nofun
  dayOfYear := within_some (by decide)
  quarter := nofun
  isoYear := nofun
  isoYearOfCentury := nofun
  isoWeek := nofun
  weekFromSunday := nofun
  weekFromMonday := nofun
  hourOfHalfDay := nofun
  minute := nofun
  second := nofun
  nanosecond := nofun

/-- The afternoon begins at noon, and the day of the year is enough for a date. -/
theorem fillDefaults_fills_gaps_afternoon :
    afternoonOfLeapDay.InRange ∧
      (afternoonOfLeapDay.second = none → afternoonOfLeapDay.nanosecond = none) ∧
      ∃ g, afternoonOfLeapDay.fillDefaults = .ok g ∧ g.Complete ∧ g.fillDefaults = .ok g ∧
        g.weekday = none ∧ g.year = some 2020 ∧ g.dayOfYear = some 60 ∧ g.InRange ∧
        ∃ t, g.resolveTime = .ok t ∧ t.hour = 12 ∧ t.minute = 0 := by
  have inRange := inRange_afternoonOfLeapDay
  have whole : afternoonOfLeapDay.second = none → afternoonOfLeapDay.nanosecond = none :=
    fun _ => rfl
  obtain ⟨g, filled, weekday, keeps, -, complete, again, -, -, clock⟩ :=
    fillDefaults_fills_gaps afternoonOfLeapDay
  obtain ⟨within, shows⟩ := clock inRange
  obtain ⟨t, time, hour⟩ := shows whole
  exact ⟨inRange, whole, g, filled, complete, again, weekday, keeps.year 2020 rfl,
    keeps.dayOfYear 60 rfl, within, t, time, hour.start true rfl rfl, hour.minute rfl⟩

end Fields

end DateLayout.Strftime
