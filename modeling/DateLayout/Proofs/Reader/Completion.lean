import DateLayout.Proofs.Strftime.Gathering
import DateLayout.Reader

/-!
# Completing fields

Filling in what a text leaves open cannot fail, and gives the fields that `Fields.completed`
writes down: each default goes where nothing was read, and fits there.

Fields that items tell of a moment are then enough for a date and a time. Where several items
tell of the date they agree with one another, so it is found by whichever of them the resolution
looks at first (`resolveDate_completed`). A day of another year than its own exists in that year
too: the years that stand in for an unknown one are leap years wherever the unknown one may have
been (`daysInMonth_le_pivot`).
-/

namespace DateLayout.Strftime

open DateLayout.Calendar

/-- Fields with a default where nothing is known. -/
def Fields.completed (f : Fields) : Fields :=
  { f with
    year := if f.year.isNone && f.century.isNone && f.yearOfCentury.isNone then some 0 else f.year
    month := if f.dayOfYear.isNone then some (f.month.getD 1) else f.month
    day := if f.dayOfYear.isNone then some (f.day.getD 1) else f.day
    weekday := none
    afterNoon := some (f.afterNoon.getD false)
    hourOfHalfDay := some (f.hourOfHalfDay.getD 0)
    minute := some (f.minute.getD 0) }

namespace Fields

theorem fillYear_eq (f : Fields) :
    f.fillYear = .ok { f with
      year := if f.year.isNone && f.century.isNone && f.yearOfCentury.isNone then some 0
        else f.year } := by
  rw [fillYear]
  split
  · next open_ =>
      simp only [Bool.and_eq_true, Option.isNone_iff_eq_none] at open_
      rw [setYear, open_.1.1]
      rfl
  · rfl

theorem fillMonth_eq (f : Fields) :
    f.fillMonth = .ok { f with
      month := if f.dayOfYear.isNone then some (f.month.getD 1) else f.month } := by
  rw [fillMonth]
  cases hd : f.dayOfYear.isNone with
  | false => rfl
  | true =>
      cases hm : f.month with
      | none =>
          show f.setMonth 1 = _
          rw [setMonth, hm]
          rfl
      | some month =>
          show Except.ok f = _
          rw [if_pos rfl, Option.getD_some, ← hm]

theorem fillDay_eq (f : Fields) :
    f.fillDay = .ok { f with
      day := if f.dayOfYear.isNone then some (f.day.getD 1) else f.day } := by
  rw [fillDay]
  cases hd : f.dayOfYear.isNone with
  | false => rfl
  | true =>
      cases hm : f.day with
      | none =>
          show f.setDay 1 = _
          rw [setDay, hm]
          rfl
      | some month =>
          show Except.ok f = _
          rw [if_pos rfl, Option.getD_some, ← hm]

theorem fillHour_eq (f : Fields) :
    f.fillHour = .ok { f with
      afterNoon := some (f.afterNoon.getD false)
      hourOfHalfDay := some (f.hourOfHalfDay.getD 0) } := by
  rw [fillHour]
  cases half : f.afterNoon with
  | none =>
      cases dial : f.hourOfHalfDay with
      | none =>
          show f.setHour 0 = _
          rw [setHour, if_pos (by decide), setAfterNoon, half]
          show (do return { f with afterNoon := some _, hourOfHalfDay := ← settle _ _ }) = _
          rw [dial]
          rfl
      | some hour =>
          show f.setAfterNoon false = _
          rw [setAfterNoon, half, Option.getD_some, ← dial]
          rfl
  | some afterNoon =>
      cases dial : f.hourOfHalfDay with
      | none =>
          show f.setDialHour 12 = _
          rw [setDialHour, if_pos (by decide), dial, Option.getD_some, ← half]
          rfl
      | some hour =>
          show Except.ok f = _
          rw [Option.getD_some, Option.getD_some, ← half, ← dial]

theorem fillMinute_eq (f : Fields) :
    f.fillMinute = .ok { f with minute := some (f.minute.getD 0) } := by
  rw [fillMinute]
  cases hm : f.minute with
  | none =>
      show f.setMinute 0 = _
      rw [setMinute, hm]
      rfl
  | some minute =>
      show Except.ok f = _
      rw [Option.getD_some, ← hm]

theorem fillDefaults_eq (f : Fields) : f.fillDefaults = .ok f.completed := by
  rw [fillDefaults, fillYear_eq]
  simp only [bind, Except.bind, fillMonth_eq, fillDay_eq, fillHour_eq, fillMinute_eq]
  rfl

end Fields

/-! ## The date -/

/-- The year from 1970 to 2069 that two digits stand for. -/
def pivotYear (n : Int) : Int :=
  if n < 70 then 2000 + n else 1900 + n

example : pivotYear 69 = 2069 ∧ pivotYear 70 = 1970 := by decide

/-- Whether items tell the number of a field. -/
def tells (is : List Item) (field : NumberField) : Bool :=
  is.any (Item.isNumber field)

/-- The year that is left of a moment's: in full, by its last two digits, or year 0. -/
def keptYear (m : Moment) (is : List Item) : Int :=
  if tells is .year then m.localTime.date.year
  else if tells is .yearOfCentury then pivotYear (m.localTime.date.year % 100)
  else 0

def keptMonth (m : Moment) (is : List Item) : Nat :=
  if tells is .month || tells is .dayOfYear then m.localTime.date.month else 1

def keptDay (m : Moment) (is : List Item) : Nat :=
  if tells is .day || tells is .dayOfYear then m.localTime.date.day else 1

/-- Items from which a date can be found again: the day of the year needs the year. -/
structure TellsDate (m : Moment) (is : List Item) : Prop where
  century : tells is .century = false
  year : tells is .dayOfYear = true → tells is .year = true
  lower : 0 ≤ m.localTime.date.year
  upper : m.localTime.date.year ≤ 9999

variable {m : Moment} {is : List Item}

theorem keptYear_within (h : TellsDate m is) : 0 ≤ keptYear m is ∧ keptYear m is ≤ 9999 := by
  have lower := h.lower
  have upper := h.upper
  rw [keptYear, pivotYear]
  split
  · omega
  · split
    · split <;> omega
    · omega

/-- Where the year of a moment is a leap year, the year that is left of it is one too. -/
theorem isLeap_keptYear (leap : isLeap m.localTime.date.year = true) :
    isLeap (keptYear m is) = true := by
  rw [keptYear]
  split
  · exact leap
  · split
    · simp only [isLeap, Bool.and_eq_true, Bool.or_eq_true, beq_iff_eq, bne_iff_ne, ne_eq]
        at leap ⊢
      rw [pivotYear]
      split <;> omega
    · rfl

theorem daysInMonth_mono {year other : Int} (h : isLeap year = true → isLeap other = true)
    (month : Nat) : daysInMonth year month ≤ daysInMonth other month := by
  unfold daysInMonth
  split
  · split
    · next leap => exact Nat.le_of_eq (if_pos (h leap)).symm
    · split <;> omega
  all_goals exact Nat.le_refl _

/-- The day that is left of a moment's exists in the month and year that are left. -/
theorem keptDay_le : keptDay m is ≤ daysInMonth (keptYear m is) (keptMonth m is) := by
  have pos := m.localTime.date.day_pos
  have day := m.localTime.date.day_le
  have enough : daysInMonth m.localTime.date.year m.localTime.date.month ≤
      daysInMonth (keptYear m is) m.localTime.date.month := daysInMonth_mono isLeap_keptYear _
  rw [keptDay, keptMonth]
  split
  · split
    · omega
    · exact m.localTime.date.day_le_31
  · split
    · omega
    · exact (by decide : 1 ≤ 31)

theorem keptDay_pos : 1 ≤ keptDay m is := by
  rw [keptDay]
  split
  · exact m.localTime.date.day_pos
  · exact Nat.le_refl 1

theorem resolveYear_completed (h : TellsDate m is) :
    (Fields.ofItems m is).completed.resolveYear = .ok (keptYear m is) := by
  have century : is.any (Item.isNumber .century) = false := h.century
  have lower := h.lower
  unfold Fields.resolveYear Fields.completed Fields.ofItems keptYear tells
  rw [century]
  cases is.any (Item.isNumber .year) <;> cases is.any (Item.isNumber .yearOfCentury)
  · rfl
  · rfl
  · rfl
  · exact if_pos ⟨lower, rfl, decide_eq_true rfl⟩

theorem allows_given {α : Type} [DecidableEq α] (b : Bool) (a : α) :
    allows (given b a) a = true := by
  cases b with
  | false => rfl
  | true => exact decide_eq_true rfl

/-- Fields without a week or a quarter, which are only compared with a date. -/
structure Weekless (f : Fields) : Prop where
  quarter : f.quarter = none
  isoYear : f.isoYear = none
  isoYearOfCentury : f.isoYearOfCentury = none
  isoWeek : f.isoWeek = none
  weekFromSunday : f.weekFromSunday = none
  weekFromMonday : f.weekFromMonday = none

theorem weekless_ofItems : Weekless (Fields.ofItems m is) :=
  ⟨rfl, rfl, rfl, rfl, rfl, rfl⟩

theorem Weekless.completed {f : Fields} (h : Weekless f) : Weekless f.completed :=
  ⟨h.quarter, h.isoYear, h.isoYearOfCentury, h.isoWeek, h.weekFromSunday, h.weekFromMonday⟩

theorem Weekless.checkIsoYear {f : Fields} (h : Weekless f) : f.checkIsoYear = .ok () := by
  rw [Fields.checkIsoYear, h.isoYear]

theorem Weekless.allowsWeeks {f : Fields} (h : Weekless f) (d : Date) :
    f.allowsWeeks d = true := by
  rw [Fields.allowsWeeks, h.quarter, h.isoYear, h.isoYearOfCentury, h.isoWeek, h.weekFromSunday,
    h.weekFromMonday]
  rfl

/-- Whether the fields of a date that are known are those of `d`, with no week among them. -/
structure Agrees (f : Fields) (d : Date) : Prop where
  month : allows f.month d.month = true
  day : allows f.day d.day = true
  dayOfYear : allows f.dayOfYear d.dayOfYear = true
  weekless : Weekless f

theorem Agrees.confirmDate {f : Fields} {d : Date} (h : Agrees f d) : f.confirmDate d = .ok d :=
  if_pos ⟨h.month, h.day, h.dayOfYear, h.weekless.allowsWeeks d⟩

/-- By month and day a date is found, if it is one of the year and the fields agree with it. -/
theorem resolveDate_of_month {f : Fields} {d : Date} (year : f.resolveYear = .ok d.year)
    (month : f.month = some (d.month : Int)) (day : f.day = some (d.day : Int))
    (agrees : Agrees f d) (inRange : d.inRange = true) : f.resolveDate = .ok d := by
  have found : Date.ofYmd? d.year (d.month : Int).toNat (d.day : Int).toNat = some d :=
    d.ofYmd?_self
  unfold Fields.resolveDate
  simp only [year, agrees.weekless.checkIsoYear, month, day, found, Fields.checkDate, inRange,
    if_true, bind, Except.bind]
  exact agrees.confirmDate

/-- Without month or day a date is found by its place in the year. -/
theorem resolveDate_of_place {f : Fields} {d : Date} (year : f.resolveYear = .ok d.year)
    (open_ : f.month = none ∨ f.day = none) (place : f.dayOfYear = some (d.dayOfYear : Int))
    (agrees : Agrees f d) (inRange : d.inRange = true) : f.resolveDate = .ok d := by
  have found : Date.ofYearDay? d.year (d.dayOfYear : Int).toNat = some d :=
    d.ofYearDay?_dayOfYear
  have checked := agrees.weekless.checkIsoYear
  rw [Fields.resolveDate]
  rcases open_ with month | day
  · simp only [year, checked, month, place, found, Fields.checkDate, inRange, if_true, bind,
      Except.bind]
    exact agrees.confirmDate
  · cases hm : f.month <;>
      simp only [year, checked, day, place, found, Fields.checkDate, inRange, if_true, bind,
        Except.bind] <;>
      exact agrees.confirmDate

theorem resolveDate_open (h : TellsDate m is) (place : tells is .dayOfYear = false) :
    ∃ d, (Fields.ofItems m is).completed.resolveDate = .ok d ∧ d.year = keptYear m is ∧
      d.month = keptMonth m is ∧ d.day = keptDay m is := by
  have within := keptYear_within h
  have unknown : (Fields.ofItems m is).dayOfYear = none := by
    show given (tells is .dayOfYear) _ = _
    rw [place]
    rfl
  have month : (Fields.ofItems m is).completed.month = some (keptMonth m is : Int) := by
    rw [Fields.completed, keptMonth, unknown, place]
    show some ((given (tells is .month) _).getD 1) = _
    cases tells is .month <;> rfl
  have day : (Fields.ofItems m is).completed.day = some (keptDay m is : Int) := by
    rw [Fields.completed, keptDay, unknown, place]
    show some ((given (tells is .day) _).getD 1) = _
    cases tells is .day <;> rfl
  let d : Date := ⟨keptYear m is, keptMonth m is, keptDay m is, keptDay_pos, keptDay_le⟩
  refine ⟨d, resolveDate_of_month (resolveYear_completed h) month day
    ⟨?_, ?_, ?_, weekless_ofItems.completed⟩ (inRange_of_four_digits within.1 within.2), rfl, rfl,
    rfl⟩
  · rw [month]
    exact decide_eq_true rfl
  · rw [day]
    exact decide_eq_true rfl
  · show allows (Fields.ofItems m is).dayOfYear _ = true
    rw [unknown]
    rfl

theorem resolveDate_told (h : TellsDate m is) (place : tells is .dayOfYear = true) :
    (Fields.ofItems m is).completed.resolveDate = .ok m.localTime.date := by
  have known : (Fields.ofItems m is).completed.dayOfYear =
      some (m.localTime.date.dayOfYear : Int) := by
    show given (tells is .dayOfYear) _ = _
    rw [place]
    rfl
  have month : (Fields.ofItems m is).completed.month =
      given (tells is .month) (m.localTime.date.month : Int) := by
    show (if (given (tells is .dayOfYear) _).isNone then _ else _) = _
    rw [place]
    rfl
  have day : (Fields.ofItems m is).completed.day =
      given (tells is .day) (m.localTime.date.day : Int) := by
    show (if (given (tells is .dayOfYear) _).isNone then _ else _) = _
    rw [place]
    rfl
  have year : (Fields.ofItems m is).completed.resolveYear = .ok m.localTime.date.year := by
    rw [resolveYear_completed h, keptYear, if_pos (h.year place)]
  have agrees : Agrees (Fields.ofItems m is).completed m.localTime.date := by
    refine ⟨?_, ?_, ?_, weekless_ofItems.completed⟩
    · rw [month, allows_given]
    · rw [day, allows_given]
    · rw [known]
      exact decide_eq_true rfl
  have inRange := inRange_of_four_digits h.lower h.upper
  cases hm : tells is .month with
  | false =>
      rw [hm] at month
      exact resolveDate_of_place year (.inl month) known agrees inRange
  | true =>
      cases hd : tells is .day with
      | false =>
          rw [hd] at day
          exact resolveDate_of_place year (.inr day) known agrees inRange
      | true =>
          rw [hm] at month
          rw [hd] at day
          exact resolveDate_of_month year month day agrees inRange

theorem resolveDate_completed (h : TellsDate m is) :
    ∃ d, (Fields.ofItems m is).completed.resolveDate = .ok d ∧ d.year = keptYear m is ∧
      d.month = keptMonth m is ∧ d.day = keptDay m is := by
  cases place : tells is .dayOfYear with
  | false => exact resolveDate_open h place
  | true =>
      refine ⟨m.localTime.date, resolveDate_told h place, ?_, ?_, ?_⟩
      · rw [keptYear, if_pos (h.year place)]
      · rw [keptMonth, place, Bool.or_true, if_pos rfl]
      · rw [keptDay, place, Bool.or_true, if_pos rfl]

/-! ## The time of day -/

/-- The hour that is left of a moment's: its place in the half of the day, and the half. -/
def keptHour (m : Moment) (is : List Item) : Nat :=
  (if is.any Item.isDialHour then m.localTime.time.hour % 12 else 0) +
    (if is.any Item.isHalfDay then m.localTime.time.hour / 12 * 12 else 0)

def keptMinute (m : Moment) (is : List Item) : Nat :=
  if tells is .minute then m.localTime.time.minute else 0

/-- The second that is left of a moment's, the one before it for a leap second. -/
def keptSecond (m : Moment) (is : List Item) : Nat :=
  if tells is .second then min m.localTime.time.shownSecond 59 else 0

def keptFraction (m : Moment) (is : List Item) : Nat :=
  ((is.findSome? (Item.toldFraction m)).getD 0).toNat

/-- The nanoseconds that are left of a moment's, with those of a leap second. -/
def keptNanosecond (m : Moment) (is : List Item) : Nat :=
  if tells is .second then
    (if m.localTime.time.shownSecond = 60 then nanosPerSecond else 0) + keptFraction m is
  else 0

theorem any_isFraction_of_told {n : Int} (h : is.findSome? (Item.toldFraction m) = some n) :
    is.any Item.isFraction = true ∧ 0 ≤ n ∧ n < 1000000000 := by
  obtain ⟨i, mem, told⟩ := List.exists_of_findSome?_eq_some h
  obtain ⟨fraction, within⟩ := fraction_of_toldFraction told
  exact ⟨List.any_eq_true.2 ⟨i, mem, fraction⟩, within⟩

theorem keptFraction_lt : keptFraction m is < nanosPerSecond := by
  rw [keptFraction]
  cases h : is.findSome? (Item.toldFraction m) with
  | none => exact (by decide)
  | some n =>
      have within := any_isFraction_of_told h
      show n.toNat < 1000000000
      omega

theorem half_add_dial :
    (if (given (is.any Item.isHalfDay) (decide (12 ≤ m.localTime.time.hour))).getD false then 12
      else 0) +
      ((given (is.any Item.isDialHour) ((m.localTime.time.hour % 12 : Nat) : Int)).getD 0).toNat =
        keptHour m is := by
  have hour := m.localTime.time.hour_lt
  rw [keptHour]
  cases is.any Item.isHalfDay <;> cases is.any Item.isDialHour <;>
    by_cases late : 12 ≤ m.localTime.time.hour <;> simp [given, late] <;> omega

theorem resolveTime_of_parts {f : Fields} {t : TimeOfDay} {afterNoon : Bool} {hour minute : Int}
    (half : f.afterNoon = some afterNoon) (dial : f.hourOfHalfDay = some hour)
    (minutes : f.minute = some minute) (whole : (f.second.isNone && f.nanosecond.isSome) = false)
    (hours : (if afterNoon then 12 else 0) + hour.toNat = t.hour)
    (same : minute.toNat = t.minute)
    (second : (if f.second.getD 0 = 60 then 59 else (f.second.getD 0).toNat) = t.second)
    (nanos : (if f.second.getD 0 = 60 then nanosPerSecond else 0) + (f.nanosecond.getD 0).toNat =
      t.nanosecond) : f.resolveTime = .ok t := by
  have parts : TimeOfDay.ofParts? t.hour t.minute t.second t.nanosecond = some t :=
    dif_pos ⟨t.hour_lt, t.minute_lt, t.second_lt, t.nanosecond_lt⟩
  unfold Fields.resolveTime
  simp only [half, dial, minutes, whole, hours, same, second, nanos, parts, Bool.false_eq_true,
    if_false]

theorem keptHour_lt : keptHour m is < 24 := by
  have lt := m.localTime.time.hour_lt
  rw [keptHour]
  split <;> split <;> omega

theorem keptMinute_lt : keptMinute m is < 60 := by
  have lt := m.localTime.time.minute_lt
  rw [keptMinute]
  split <;> omega

theorem keptSecond_lt : keptSecond m is < 60 := by
  rw [keptSecond]
  split <;> omega

theorem keptNanosecond_lt : keptNanosecond m is < 2 * nanosPerSecond := by
  have fraction : keptFraction m is < nanosPerSecond := keptFraction_lt
  rw [keptNanosecond]
  split
  · split <;> omega
  · exact (by decide)

/-- Where nothing tells the second, nothing tells a fraction of it. -/
theorem toldFraction_eq_none (h : is.any Item.isFraction = true → tells is .second = true)
    (open_ : tells is .second = false) : is.findSome? (Item.toldFraction m) = none := by
  cases told : is.findSome? (Item.toldFraction m) with
  | none => rfl
  | some n =>
      have shown := h (any_isFraction_of_told told).1
      rw [open_] at shown
      cases shown

theorem resolveTime_completed (h : is.any Item.isFraction = true → tells is .second = true) :
    ∃ t, (Fields.ofItems m is).completed.resolveTime = .ok t ∧ t.hour = keptHour m is ∧
      t.minute = keptMinute m is ∧ t.second = keptSecond m is ∧
      t.nanosecond = keptNanosecond m is := by
  have shown : (Fields.ofItems m is).completed.second =
      given (tells is .second) (m.localTime.time.shownSecond : Int) := rfl
  have told : (Fields.ofItems m is).completed.nanosecond =
      is.findSome? (Item.toldFraction m) := rfl
  have le := shownSecond_within m.localTime.time
  refine ⟨⟨keptHour m is, keptMinute m is, keptSecond m is, keptNanosecond m is, keptHour_lt,
    keptMinute_lt, keptSecond_lt, keptNanosecond_lt⟩,
    resolveTime_of_parts rfl rfl rfl ?_ half_add_dial ?_ ?_ ?_, rfl, rfl, rfl, rfl⟩
  · rw [shown, told]
    cases hs : tells is .second with
    | false =>
        rw [toldFraction_eq_none h hs]
        rfl
    | true => rfl
  · show ((given (tells is .minute) (m.localTime.time.minute : Int)).getD 0).toNat = _
    show _ = keptMinute m is
    rw [keptMinute]
    cases tells is .minute <;> rfl
  · rw [shown]
    show _ = keptSecond m is
    rw [keptSecond]
    cases tells is .second with
    | false => rfl
    | true =>
        show (if (m.localTime.time.shownSecond : Int) = 60 then 59
          else m.localTime.time.shownSecond) = min m.localTime.time.shownSecond 59
        by_cases leap : (m.localTime.time.shownSecond : Int) = 60
        · rw [if_pos leap]
          omega
        · rw [if_neg leap]
          omega
  · rw [shown, told]
    show _ = keptNanosecond m is
    rw [keptNanosecond, keptFraction]
    cases hs : tells is .second with
    | false =>
        rw [toldFraction_eq_none h hs]
        rfl
    | true =>
        simp only [given_true, Option.getD_some, if_true]
        have leap : (m.localTime.time.shownSecond : Int) = 60 ↔
            m.localTime.time.shownSecond = 60 := by omega
        simp only [leap]

/-! ## The moment -/

def keptOffset (m : Moment) (is : List Item) : Int :=
  if is.any Item.isOffset then m.offset.seconds else 0

/-- What is left of a moment that was written with items. -/
structure Kept (m : Moment) (is : List Item) (r : Moment) : Prop where
  year : r.localTime.date.year = keptYear m is
  month : r.localTime.date.month = keptMonth m is
  day : r.localTime.date.day = keptDay m is
  hour : r.localTime.time.hour = keptHour m is
  minute : r.localTime.time.minute = keptMinute m is
  second : r.localTime.time.second = keptSecond m is
  nanosecond : r.localTime.time.nanosecond = keptNanosecond m is
  offset : r.offset.seconds = keptOffset m is

theorem resolveMoment_completed (h : TellsDate m is)
    (fraction : is.any Item.isFraction = true → tells is .second = true) :
    ∃ r, (Fields.ofItems m is).completed.resolveMoment
      ((Fields.ofItems m is).completed.offset.getD 0) = .ok r ∧ Kept m is r := by
  obtain ⟨d, date, year, month, day⟩ := resolveDate_completed h
  obtain ⟨t, time, hour, minute, second, nanos⟩ := resolveTime_completed fraction
  have within := keptYear_within h
  have shown : (Fields.ofItems m is).completed.offset.getD 0 = keptOffset m is := by
    show (given (is.any Item.isOffset) m.offset.seconds).getD 0 = _
    rw [keptOffset]
    cases is.any Item.isOffset <;> rfl
  have offset : ∃ o : UtcOffset, o.seconds = keptOffset m is := by
    rw [keptOffset]
    split
    · exact ⟨m.offset, rfl⟩
    · exact ⟨.zero, rfl⟩
  obtain ⟨o, seconds⟩ := offset
  rw [← year] at within
  have inRange : instantInRange (Moment.mk ⟨d, t⟩ o).instant = true :=
    instantInRange_of_four_digits within.1 within.2
  have local_ : (Fields.ofItems m is).completed.resolveLocal o.seconds = .ok ⟨d, t⟩ := by
    rw [Fields.resolveLocal, date, time]
    rfl
  refine ⟨⟨⟨d, t⟩, o⟩, ?_, year, month, day, hour, minute, second, nanos, seconds⟩
  rw [Fields.resolveMoment, shown, ← seconds, local_, UtcOffset.ofSeconds?_seconds]
  exact if_pos inRange

/-- A text that tells what items tell of a moment is read as what is left of it. -/
theorem readMoment_of_ofItems {native text : String}
    (read : Strftime.read native text = .ok (Fields.ofItems m is)) (h : TellsDate m is)
    (fraction : is.any Item.isFraction = true → tells is .second = true) :
    ∃ r, Reader.readMoment native text = .ok r ∧ Kept m is r := by
  obtain ⟨r, resolved, kept⟩ := resolveMoment_completed h fraction
  refine ⟨r, ?_, kept⟩
  rw [Reader.readMoment, Reader.readFields, read]
  simp only [bind, Except.bind, Fields.fillDefaults_eq, resolved]

end DateLayout.Strftime
