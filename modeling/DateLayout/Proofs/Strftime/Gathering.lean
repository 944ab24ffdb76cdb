import DateLayout.Proofs.Strftime.ReadBack

/-!
# What is known after reading

The fields after reading what some items wrote of a moment, said without any reading: a field is
set if one of the items tells it, and then to what the moment has (`Fields.ofItems`). The order
of the items does not matter, nor how often they tell the same thing, since they tell it of the
same moment. Fractions are the exception: they tell as many digits as they have, so there may be
only one of them.

One step is `enter_ofItems`: an item that is read on top of others sets what it tells and leaves
the rest.
-/

namespace DateLayout.Strftime

open DateLayout.Calendar

@[simp] def Item.isNumber (field : NumberField) : Item → Bool
  | .number other _ => other = field
  | .monthName _ => field = .month
  | _ => false

@[simp] def Item.isWeekday : Item → Bool
  | .weekdayName _ | .weekdayNumber _ => true
  | _ => false

@[simp] def Item.isHalfDay : Item → Bool
  | .number .hour _ | .meridiem _ => true
  | _ => false

@[simp] def Item.isDialHour : Item → Bool
  | .number .hour _ | .number .hourOfHalfDay _ => true
  | _ => false

@[simp] def Item.isOffset : Item → Bool
  | .offset _ => true
  | _ => false

@[simp] def Item.isFraction : Item → Bool
  | .number .nanosecond _ | .fraction | .fixedFraction _ | .bareFraction _ => true
  | _ => false

/-- The fraction that an item tells. One that needs no digits is not told at all. -/
@[simp] def Item.toldFraction (m : Moment) : Item → Option Int
  | .number .nanosecond _ => some m.localTime.time.fraction
  | .fraction =>
      if m.localTime.time.fraction = 0 then none else some m.localTime.time.fraction
  | .fixedFraction digits | .bareFraction digits =>
      some (cutFraction digits m.localTime.time.fraction)
  | _ => none

/-- A value that is there if something is so. -/
def given {α : Type} (b : Bool) (a : α) : Option α :=
  if b then some a else none

/-- What items tell of a moment, which is neither a quarter nor a week nor a timestamp with items
that are kept. -/
def Fields.ofItems (m : Moment) (is : List Item) : Fields where
  year := given (is.any (Item.isNumber .year)) m.localTime.date.year
  century := given (is.any (Item.isNumber .century)) (m.localTime.date.year / 100)
  yearOfCentury := given (is.any (Item.isNumber .yearOfCentury)) (m.localTime.date.year % 100)
  month := given (is.any (Item.isNumber .month)) m.localTime.date.month
  day := given (is.any (Item.isNumber .day)) m.localTime.date.day
  dayOfYear := given (is.any (Item.isNumber .dayOfYear)) m.localTime.date.dayOfYear
  quarter := none
  isoYear := none
  isoYearOfCentury := none
  isoWeek := none
  weekFromSunday := none
  weekFromMonday := none
  weekday := given (is.any Item.isWeekday) m.localTime.date.weekday
  afterNoon := given (is.any Item.isHalfDay) (12 ≤ m.localTime.time.hour)
  hourOfHalfDay := given (is.any Item.isDialHour) (m.localTime.time.hour % 12 : Nat)
  minute := given (is.any (Item.isNumber .minute)) m.localTime.time.minute
  second := given (is.any (Item.isNumber .second)) m.localTime.time.shownSecond
  nanosecond := is.findSome? (Item.toldFraction m)
  timestamp := none
  offset := given (is.any Item.isOffset) m.offset.seconds

variable {α : Type} {m : Moment} {seen : List Item} {i : Item}

@[simp] theorem given_true (a : α) : given true a = some a := rfl

@[simp] theorem given_false (a : α) : given false a = none := rfl

theorem settle_given [DecidableEq α] (b : Bool) (a : α) :
    settle (given b a) a = .ok (some a) := by
  cases b with
  | false => exact settle_none a
  | true => exact settle_some_self a

theorem settleWithin_given {lower upper n : Int} (h : lower ≤ n ∧ n ≤ upper) (b : Bool) :
    settleWithin lower upper (given b n) n = .ok (some n) := by
  rw [settleWithin, if_pos h, settle_given]

theorem ofItems_nil (m : Moment) : Fields.ofItems m [] = .empty := rfl

theorem dialHour_mod (t : TimeOfDay) : (t.dialHour : Int) % 12 = (t.hour % 12 : Nat) := by
  rw [TimeOfDay.dialHour]
  split <;> omega

theorem dialHour_within (t : TimeOfDay) : 1 ≤ (t.dialHour : Int) ∧ (t.dialHour : Int) ≤ 12 := by
  rw [TimeOfDay.dialHour]
  split <;> omega

theorem shownSecond_within (t : TimeOfDay) :
    0 ≤ (t.shownSecond : Int) ∧ (t.shownSecond : Int) ≤ 60 := by
  have second := t.second_lt
  have nanos := t.nanosecond_lt
  rw [nanosPerSecond] at nanos
  unfold TimeOfDay.shownSecond nanosPerSecond
  omega

/-- What an item adds to what others tell. -/
theorem ofItems_concat (m : Moment) (seen : List Item) (i : Item) :
    Fields.ofItems m (seen ++ [i]) =
      { year := given (seen.any (Item.isNumber .year) || i.isNumber .year) m.localTime.date.year
        century := given (seen.any (Item.isNumber .century) || i.isNumber .century)
          (m.localTime.date.year / 100)
        yearOfCentury :=
          given (seen.any (Item.isNumber .yearOfCentury) || i.isNumber .yearOfCentury)
            (m.localTime.date.year % 100)
        month := given (seen.any (Item.isNumber .month) || i.isNumber .month)
          m.localTime.date.month
        day := given (seen.any (Item.isNumber .day) || i.isNumber .day) m.localTime.date.day
        dayOfYear := given (seen.any (Item.isNumber .dayOfYear) || i.isNumber .dayOfYear)
          m.localTime.date.dayOfYear
        quarter := none
        isoYear := none
        isoYearOfCentury := none
        isoWeek := none
        weekFromSunday := none
        weekFromMonday := none
        weekday := given (seen.any Item.isWeekday || i.isWeekday) m.localTime.date.weekday
        afterNoon := given (seen.any Item.isHalfDay || i.isHalfDay)
          (12 ≤ m.localTime.time.hour)
        hourOfHalfDay := given (seen.any Item.isDialHour || i.isDialHour)
          (m.localTime.time.hour % 12 : Nat)
        minute := given (seen.any (Item.isNumber .minute) || i.isNumber .minute)
          m.localTime.time.minute
        second := given (seen.any (Item.isNumber .second) || i.isNumber .second)
          m.localTime.time.shownSecond
        nanosecond := (seen.findSome? (Item.toldFraction m)).or (i.toldFraction m)
        timestamp := none
        offset := given (seen.any Item.isOffset || i.isOffset) m.offset.seconds } := by
  simp only [Fields.ofItems, List.any_append, List.any_cons, List.any_nil, Bool.or_false,
    List.findSome?_append, List.findSome?_cons, List.findSome?_nil]
  cases i.toldFraction m <;> rfl

/-- A year can be set if it is one of 32 bits. -/
theorem setYear_ofItems {padding : Text.Padding} (lower : -2147483648 ≤ m.localTime.date.year)
    (upper : m.localTime.date.year ≤ 2147483647) :
    (Fields.ofItems m seen).setYear m.localTime.date.year =
      .ok (Fields.ofItems m (seen ++ [.number .year padding])) := by
  rw [ofItems_concat, Fields.setYear, Fields.ofItems, settleWithin_given ⟨lower, upper⟩]
  exact congrArg Except.ok (by simp)

theorem setNumber_ofItems {field : NumberField} {padding : Text.Padding}
    (h : (Item.number field padding).Keeps m)
    (new : field = .nanosecond → seen.findSome? (Item.toldFraction m) = none) :
    (Fields.ofItems m seen).setNumber field (field.shown m) =
      .ok (Fields.ofItems m (seen ++ [.number field padding])) := by
  have monthPos := m.localTime.date.month_pos
  have month := m.localTime.date.month_le
  have dayPos := m.localTime.date.day_pos
  have day := m.localTime.date.day_le_31
  have placePos := m.localTime.date.dayOfYear_pos
  have place := m.localTime.date.dayOfYear_le_366
  have hour := m.localTime.time.hour_lt
  have minute := m.localTime.time.minute_lt
  have fraction : m.localTime.time.fraction < 1000000000 := fraction_lt m.localTime.time
  rw [ofItems_concat]
  cases field with
  | quarter | isoYear | isoYearOfCentury | isoWeek | weekFromSunday | weekFromMonday | timestamp =>
      exact h.elim
  | year =>
      have years : 0 ≤ m.localTime.date.year ∧ m.localTime.date.year ≤ 9999 := h
      rw [← ofItems_concat]
      exact setYear_ofItems (by omega) (by omega)
  | century =>
      have years : 0 ≤ m.localTime.date.year ∧ m.localTime.date.year ≤ 9999 := h
      rw [NumberField.shown, Fields.setNumber, Fields.setCentury, Fields.ofItems,
        settleWithin_given (by omega)]
      exact congrArg Except.ok (by simp)
  | yearOfCentury =>
      rw [NumberField.shown, Fields.setNumber, Fields.setYearOfCentury, Fields.ofItems,
        settleWithin_given (by omega)]
      exact congrArg Except.ok (by simp)
  | month =>
      rw [NumberField.shown, Fields.setNumber, Fields.setMonth, Fields.ofItems,
        settleWithin_given (by omega)]
      exact congrArg Except.ok (by simp)
  | day =>
      rw [NumberField.shown, Fields.setNumber, Fields.setDay, Fields.ofItems,
        settleWithin_given (by omega)]
      exact congrArg Except.ok (by simp)
  | dayOfYear =>
      rw [NumberField.shown, Fields.setNumber, Fields.setDayOfYear, Fields.ofItems,
        settleWithin_given (by omega)]
      exact congrArg Except.ok (by simp)
  | minute =>
      rw [NumberField.shown, Fields.setNumber, Fields.setMinute, Fields.ofItems,
        settleWithin_given (by omega)]
      exact congrArg Except.ok (by simp)
  | second =>
      rw [NumberField.shown, Fields.setNumber, Fields.setSecond, Fields.ofItems,
        settleWithin_given (shownSecond_within m.localTime.time)]
      exact congrArg Except.ok (by simp)
  | nanosecond =>
      rw [NumberField.shown, Fields.setNumber, Fields.setNanosecond, Fields.ofItems, new rfl,
        settleWithin, if_pos (by omega), settle_none]
      exact congrArg Except.ok (by simp)
  | hourOfHalfDay =>
      rw [NumberField.shown, Fields.setNumber, Fields.setDialHour,
        if_pos (dialHour_within m.localTime.time), Fields.ofItems, dialHour_mod, settle_given]
      exact congrArg Except.ok (by simp)
  | hour =>
      have half : decide (12 ≤ (m.localTime.time.hour : Int)) =
          decide (12 ≤ m.localTime.time.hour) :=
        decide_eq_decide.2 (by omega)
      have dial : (m.localTime.time.hour : Int) % 12 = (m.localTime.time.hour % 12 : Nat) := by
        omega
      rw [NumberField.shown, Fields.setNumber, Fields.setHour, if_pos (by omega),
        Fields.setAfterNoon, Fields.ofItems, half, dial, settle_given]
      show (do
        return { Fields.ofItems m seen with
          afterNoon := some (decide (12 ≤ m.localTime.time.hour))
          hourOfHalfDay := ← settle (given _ _) _ }) = _
      rw [settle_given]
      exact congrArg Except.ok (by simp [Fields.ofItems])

theorem fraction_of_toldFraction {n : Int} (h : i.toldFraction m = some n) :
    i.isFraction = true ∧ 0 ≤ n ∧ n < 1000000000 := by
  have small : m.localTime.time.fraction < 1000000000 := fraction_lt m.localTime.time
  cases i with
  | number field padding =>
      cases field with
      | nanosecond =>
          cases h
          exact ⟨rfl, by omega, by omega⟩
      | _ => cases h
  | fraction =>
      rw [Item.toldFraction] at h
      split at h
      · cases h
      · cases h
        exact ⟨rfl, by omega, by omega⟩
  | fixedFraction digits | bareFraction digits =>
      have cut : cutFraction digits m.localTime.time.fraction ≤ m.localTime.time.fraction :=
        Nat.div_mul_le_self _ _
      cases h
      exact ⟨rfl, by omega, by omega⟩
  | _ => cases h

/-- Of items with one fraction at most, those before it tell none. -/
theorem findSome?_of_count {rest : List Item}
    (h : (seen ++ i :: rest).countP Item.isFraction ≤ 1) (fraction : i.isFraction = true) :
    seen.findSome? (Item.toldFraction m) = none := by
  rw [List.countP_append, List.countP_cons_of_pos fraction] at h
  have none : seen.countP Item.isFraction = 0 := by omega
  rw [List.countP_eq_zero] at none
  rw [List.findSome?_eq_none_iff]
  intro j hj
  cases told : j.toldFraction m with
  | none => rfl
  | some n => exact absurd (fraction_of_toldFraction told).1 (none j hj)

theorem setNanosecond_ofItems {n : Nat} (small : n < 1000000000)
    (new : seen.findSome? (Item.toldFraction m) = none) :
    (Fields.ofItems m seen).setNanosecond n =
      .ok { Fields.ofItems m seen with nanosecond := some (n : Int) } := by
  rw [Fields.setNanosecond, Fields.ofItems, new, settleWithin, if_pos (by omega), settle_none]
  rfl

theorem ofItems_concat_nothing (number : ∀ field, i.isNumber field = false)
    (weekday : i.isWeekday = false) (half : i.isHalfDay = false) (dial : i.isDialHour = false)
    (offset : i.isOffset = false) (fraction : i.toldFraction m = none) :
    Fields.ofItems m (seen ++ [i]) = Fields.ofItems m seen := by
  rw [ofItems_concat, weekday, half, dial, offset, fraction]
  simp only [number, Bool.or_false, Option.or_none]
  rfl

/-- An item that is read on top of others adds what it tells, as long as it is not a second
fraction. -/
theorem enter_ofItems (h : i.Keeps m)
    (new : i.isFraction = true → seen.findSome? (Item.toldFraction m) = none) :
    (Fields.ofItems m seen).enter (i.told m) = .ok (Fields.ofItems m (seen ++ [i])) := by
  have fraction : m.localTime.time.fraction < 1000000000 := fraction_lt m.localTime.time
  cases i with
  | number field padding =>
      refine setNumber_ofItems h fun nano => new ?_
      subst nano
      rfl
  | monthName form =>
      have number : (Item.number .month .zero).Keeps m := trivial
      have set : (Fields.ofItems m seen).enter ((Item.monthName form).told m) = _ :=
        setNumber_ofItems number nofun
      rw [set, ofItems_concat, ofItems_concat]
      rfl
  | weekdayName | weekdayNumber =>
      rw [Item.told, Fields.enter, Fields.setWeekday, Fields.ofItems, settle_given,
        ofItems_concat]
      exact congrArg Except.ok (by simp)
  | meridiem letters =>
      rw [Item.told, Fields.enter, Fields.setAfterNoon, Fields.ofItems, settle_given,
        ofItems_concat]
      exact congrArg Except.ok (by simp)
  | offset form =>
      rw [Item.told, Fields.enter, Fields.setOffset, Fields.ofItems, settle_given,
        ofItems_concat]
      exact congrArg Except.ok (by simp)
  | fixedFraction digits | bareFraction digits =>
      have cut : cutFraction digits m.localTime.time.fraction < 1000000000 :=
        Nat.lt_of_le_of_lt (Nat.div_mul_le_self _ _) fraction
      rw [Item.told, Fields.enter, Fields.setNumber, setNanosecond_ofItems cut (new rfl),
        ofItems_concat, new rfl]
      exact congrArg Except.ok (by simp [Fields.ofItems])
  | fraction =>
      by_cases zero : m.localTime.time.fraction = 0
      · have none : Item.fraction.toldFraction m = none := if_pos zero
        rw [Item.told, if_pos zero, ofItems_concat_nothing (fun _ => rfl) rfl rfl rfl rfl none]
        rfl
      · rw [Item.told, if_neg zero, Fields.enter, Fields.setNumber,
          setNanosecond_ofItems fraction (new rfl), ofItems_concat, new rfl]
        exact congrArg Except.ok (by simp [Fields.ofItems, zero])
  | literal | blank | timeMark | zoneName =>
      rw [ofItems_concat_nothing (fun _ => rfl) rfl rfl rfl rfl rfl]
      rfl
  | unknown => exact h.elim

end DateLayout.Strftime
