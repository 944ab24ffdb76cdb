import Mathlib.Data.List.Infix
import Mathlib.Tactic.MkIffOfInductiveProp
import DateLayout.Proofs.RoundTrip.Layouts
import DateLayout.Proofs.Strftime.Fluent
import DateLayout.Proofs.WellKnown.Items

/-!
# Well known layouts read back what they write

A well known layout has no shape that could be relied on: names stand next to numbers, days are
filled up with spaces, a fraction is followed by an offset, and am or pm by nothing at all. What
all of them have is that their items are fluent, so that `exists_flows` gives the text and the
fields that come of it.

What is left of a moment is said by the specifiers as they are spelled in the layout (`Leaves`),
without looking at items. That the items tell just so much of the moment is decided over the table
(`tabled_of_mem`), together with what reading them back asks of them.
-/

namespace DateLayout

open DateLayout.Calendar DateLayout.Strftime DateLayout.Text

namespace Strftime

/-- How many digits of a fraction an item tells. -/
def Item.digits : Item → Nat
  | .fixedFraction digits | .bareFraction digits => digits
  | _ => 9

/-- How many digits of a fraction items tell. -/
def fractionDigits (is : List Item) : Nat :=
  (is.find? Item.isFraction).elim 0 Item.digits

variable {m : Moment} {is : List Item}

/-- What is left of a fraction is cut to the digits of its item, and without an item to none. -/
theorem keptFraction_eq_cut (one : is.countP Item.isFraction ≤ 1) :
    keptFraction m is = cutFraction (fractionDigits is) m.localTime.time.fraction := by
  have small : m.localTime.time.fraction < 1000000000 := fraction_lt m.localTime.time
  rw [keptFraction, fractionDigits]
  cases found : is.find? Item.isFraction with
  | none =>
      have nothing : is.findSome? (Item.toldFraction m) = none := by
        rw [List.findSome?_eq_none_iff]
        intro i mem
        cases told : i.toldFraction m with
        | none => rfl
        | some n =>
            exact absurd (fraction_of_toldFraction told).1 (List.find?_eq_none.1 found i mem)
      rw [nothing]
      show 0 = m.localTime.time.fraction / 1000000000 * 1000000000
      omega
  | some i =>
      have fraction := List.find?_some found
      rw [findSome?_of_mem (List.mem_of_find?_eq_some found) fraction one, Option.elim_some]
      cases i with
      | number field padding =>
          cases field with
          | nanosecond => exact (cutFraction_nine _).symm
          | _ => cases fraction
      | fraction =>
          show _ = cutFraction 9 _
          rw [cutFraction_nine, Item.toldFraction]
          split
          · next zero => rw [zero]; rfl
          · rfl
      | fixedFraction | bareFraction => rfl
      | literal | blank | monthName | weekdayName | weekdayNumber | meridiem | timeMark | offset
      | zoneName | unknown => cases fraction

end Strftime

namespace WellKnown

/-- Whether a specifier is spelled in a well known layout. -/
def spells (known : WellKnown) (specifier : String) : Bool :=
  decide (specifier.toList <:+: known.native.toList)

/-- How many digits of a fraction a well known layout has. One specifier has as many as are
needed. -/
def digits (known : WellKnown) : Nat :=
  if known.spells "%.f" || known.spells "%.9f" then 9
  else if known.spells "%.6f" then 6
  else if known.spells "%.3f" then 3
  else 0

/-- What a well known layout leaves of a moment. What it has no specifier for is the start of year
0 in UTC; the name of a zone is no offset. Two digits of a year stand for 1970 to 2069, and a
fraction is cut to its digits. -/
structure Leaves (known : WellKnown) (m r : Moment) : Prop where
  year : r.localTime.date.year =
    if known.spells "%Y" then m.localTime.date.year
    else if known.spells "%y" then pivotYear (m.localTime.date.year % 100)
    else 0
  month : r.localTime.date.month =
    if known.spells "%m" || known.spells "%b" then m.localTime.date.month else 1
  day : r.localTime.date.day =
    if known.spells "%d" || known.spells "%e" then m.localTime.date.day else 1
  hour : r.localTime.time.hour =
    if known.spells "%H" || known.spells "%-I" && known.spells "%p" then
      m.localTime.time.hour
    else 0
  minute : r.localTime.time.minute =
    if known.spells "%M" then m.localTime.time.minute else 0
  second : r.localTime.time.second =
    if known.spells "%S" then m.localTime.time.second else 0
  nanosecond : r.localTime.time.nanosecond =
    if known.spells "%S" then
      m.localTime.time.nanosecond / nanosPerSecond * nanosPerSecond +
        cutFraction known.digits m.localTime.time.fraction
    else 0
  offset : r.offset.seconds =
    if known.spells "%z" || known.spells "%:z" then m.offset.seconds else 0

/-! ## The table -/

variable {known : WellKnown} {m r : Moment} {t : Translator}

/-- The items of a well known layout. -/
def nativeItems (known : WellKnown) : List Item :=
  Strftime.items known.native.toList

/-- What is to be seen of a well known layout in its items: that they can be read back, one after
the other, and that they tell of a moment what specifiers are spelled for. -/
@[mk_iff]
structure Tabled (known : WellKnown) (is : List Item) : Prop where
  fluent : isFluent is = true
  common : ∀ i ∈ is, i.isCommon = true
  oneFraction : is.countP Item.isFraction ≤ 1
  second_of_fraction : is.any Item.isFraction = true → tells is .second = true
  century : tells is .century = false
  dayOfYear : tells is .dayOfYear = false
  year : tells is .year = known.spells "%Y"
  yearOfCentury : tells is .yearOfCentury = known.spells "%y"
  month : tells is .month = (known.spells "%m" || known.spells "%b")
  day : tells is .day = (known.spells "%d" || known.spells "%e")
  dialHour : is.any Item.isDialHour =
    (known.spells "%H" || known.spells "%-I" && known.spells "%p")
  halfDay : is.any Item.isHalfDay =
    (known.spells "%H" || known.spells "%-I" && known.spells "%p")
  minute : tells is .minute = known.spells "%M"
  second : tells is .second = known.spells "%S"
  digits : fractionDigits is = known.digits
  offset : is.any Item.isOffset = (known.spells "%z" || known.spells "%:z")

instance (known : WellKnown) (is : List Item) : Decidable (Tabled known is) :=
  decidable_of_iff' _ (tabled_iff known is)

theorem tabled_of_mem (h : known ∈ all) : known.Tabled known.nativeItems := by
  rw [nativeItems, ← itemsWithin_eq (Nat.le_refl _)]
  revert known
  decide +kernel

/-- What is left by the items of a well known layout is what its specifiers leave of the shown
moment. -/
theorem leaves_of_kept (h : known ∈ all) (kept : Kept m known.nativeItems r) :
    known.Leaves m.asShown r := by
  have table := tabled_of_mem h
  refine ⟨?_, ?_, ?_, ?_, ?_, ?_, ?_, ?_⟩
  · rw [kept.year, keptYear, table.year, table.yearOfCentury]
    rfl
  · rw [kept.month, keptMonth, table.month, table.dayOfYear, Bool.or_false]
    rfl
  · rw [kept.day, keptDay, table.day, table.dayOfYear, Bool.or_false]
    rfl
  · rw [kept.hour, keptHour, table.dialHour, table.halfDay, ← TimeOfDay.hour_asShown]
    show _ = if _ then m.localTime.time.asShown.hour else 0
    split <;> omega
  · rw [kept.minute, keptMinute, table.minute, ← TimeOfDay.minute_asShown]
    rfl
  · rw [kept.second, keptSecond, table.second, ← TimeOfDay.second_asShown]
    rfl
  · rw [kept.nanosecond, keptNanosecond, table.second, ← TimeOfDay.leap_asShown,
      keptFraction_eq_cut table.oneFraction, table.digits, ← TimeOfDay.fraction_asShown]
    rfl
  · rw [kept.offset, keptOffset, table.offset]
    rfl

/-! ## Writing and reading -/

/-- A well known layout is taken as it stands, by every translator whose tier it belongs to. -/
theorem runOn_translate_known (h : known ∈ all) (tier : known.tier ≤ t.tier) (mode : Mode)
    (j : Journal) :
    (t.translate known.native mode).runOn j = (.ok (.literal known.native), j) := by
  rw [Translator.runOn_translate]
  cases found : find? known.native t.tier with
  | some other =>
      simp only []
      rw [native_of_find? found]
  | none =>
      have missed := List.find?_eq_none.1 found known h
      rw [decide_eq_true rfl, decide_eq_true tier] at missed
      exact absurd rfl missed

theorem exists_read (h : known ∈ all) (lower : 0 ≤ m.localTime.date.year)
    (upper : m.localTime.date.year ≤ 9999) (minutes : 60 ∣ m.offset.seconds) :
    ∃ text r, renderNative known.native m = .ok text ∧
      Reader.readMoment known.native text = .ok r ∧ known.Leaves m.asShown r := by
  have table := tabled_of_mem h
  obtain ⟨text, flows⟩ := exists_flows table.fluent fun i mem =>
    Item.keeps_of_isCommon (table.common i mem) lower upper minutes
  have read : Strftime.read known.native (String.ofList text) =
      .ok (.ofItems m known.nativeItems) := by
    rw [Strftime.read, String.toList_ofList, ← ofItems_nil m]
    exact flows.read [] table.oneFraction
  have date : TellsDate m known.nativeItems := by
    refine ⟨table.century, ?_, lower, upper⟩
    intro place
    rw [table.dayOfYear] at place
    cases place
  obtain ⟨r, moment, kept⟩ := readMoment_of_ofItems read date table.second_of_fraction
  exact ⟨String.ofList text, r, renderNative_eq flows.written, moment, leaves_of_kept h kept⟩

/-- Every well known layout reads back the time that a clock shows at a moment, with any grammar and
whatever the cache keeps. -/
theorem parse_format_native_asShown (h : known ∈ all) (tier : known.tier ≤ t.tier)
    (lower : 0 ≤ m.localTime.date.year) (upper : m.localTime.date.year ≤ 9999)
    (minutes : 60 ∣ m.offset.seconds) (j : Journal) :
    ∃ text r, (t.format m known.native).runOn j = (.ok text, j) ∧
      (t.parse known.native text).runOn j = (.ok r, j) ∧ known.Leaves m.asShown r := by
  obtain ⟨text, r, written, read, leaves⟩ := exists_read h lower upper minutes
  refine ⟨text, r, ?_, ?_, leaves⟩
  · rw [Translator.format, Operation.runOn_bind, runOn_translate_known h tier]
    show (renderNative known.native m, j) = _
    rw [written]
  · rw [Translator.parse, Translator.nativeForParsing, Operation.runOn_bind, Operation.runOn_bind,
      runOn_translate_known h tier]
    show ((Reader.readMoment known.native text).mapError _, j) = _
    rw [read]
    rfl

/-- Every well known layout reads back what it writes. The moment may have any date of a year with
four digits, any time of day, and any offset of whole minutes; a leap second that follows second 59
is read back as one. -/
theorem parse_format_native (t : Translator) (known : WellKnown) (h : known ∈ all)
    (tier : known.tier ≤ t.tier) (m : Moment) (lower : 0 ≤ m.localTime.date.year)
    (upper : m.localTime.date.year ≤ 9999) (minutes : 60 ∣ m.offset.seconds)
    (leap : nanosPerSecond ≤ m.localTime.time.nanosecond → m.localTime.time.second = 59)
    (j : Journal) :
    ∃ text r, (t.format m known.native).runOn j = (.ok text, j) ∧
      (t.parse known.native text).runOn j = (.ok r, j) ∧ known.Leaves m r := by
  obtain ⟨text, r, written, read, leaves⟩ :=
    parse_format_native_asShown h tier lower upper minutes j
  rw [Moment.asShown_eq_self leap] at leaves
  exact ⟨text, r, written, read, leaves⟩

/-- The leap second at the end of 2016, five hours west of Greenwich, with milliseconds. -/
theorem parse_format_native_leapSecond :
    ⟨"StampMilli", "%b %e %H:%M:%S%.3f", 1⟩ ∈ all ∧
      (nanosPerSecond ≤ leapSecond.localTime.time.nanosecond →
        leapSecond.localTime.time.second = 59) ∧
      ∃ text r,
        (Translator.standard.format leapSecond "%b %e %H:%M:%S%.3f").runOn (.start .enabled) =
          (.ok text, .start .enabled) ∧
        (Translator.standard.parse "%b %e %H:%M:%S%.3f" text).runOn (.start .enabled) =
          (.ok r, .start .enabled) ∧
        Leaves ⟨"StampMilli", "%b %e %H:%M:%S%.3f", 1⟩ leapSecond r := by
  have listed : ⟨"StampMilli", "%b %e %H:%M:%S%.3f", 1⟩ ∈ all := by decide
  exact ⟨listed, fun _ => rfl, parse_format_native .standard _ listed (by decide) leapSecond
    (by decide) (by decide) (by decide) (fun _ => rfl) (.start .enabled)⟩

theorem items_nano : items "%Y-%m-%dT%H:%M:%S%.f%:z".toList =
    [.number .year .zero, .literal ['-'], .number .month .zero, .literal ['-'], .number .day .zero,
      .literal ['T'], .number .hour .zero, .literal [':'], .number .minute .zero, .literal [':'],
      .number .second .zero, .fraction, .offset .colon] := by
  rw [← itemsWithin_eq (Nat.le_refl _)]
  decide +kernel

/-- A leap second in the middle of a minute is written and read back as the second behind it, by a
layout that has every field and needs no default. -/
theorem parse_format_native_midMinuteLeap :
    ⟨"RFC3339Nano", "%Y-%m-%dT%H:%M:%S%.f%:z", 0⟩ ∈ all ∧
      0 ≤ midMinuteLeap.localTime.date.year ∧ midMinuteLeap.localTime.date.year ≤ 9999 ∧
      60 ∣ midMinuteLeap.offset.seconds ∧
      (Translator.standard.format midMinuteLeap "%Y-%m-%dT%H:%M:%S%.f%:z").runOn
        (.start .enabled) = (.ok "2020-01-02T00:00:31.500+00:00", .start .enabled) ∧
      (Translator.standard.parse "%Y-%m-%dT%H:%M:%S%.f%:z" "2020-01-02T00:00:31.500+00:00").runOn
        (.start .enabled) = (.ok ⟨⟨⟨2020, 1, 2, by decide, by decide⟩,
          ⟨0, 0, 31, 500000000, by decide, by decide, by decide, by decide⟩⟩, .zero⟩,
            .start .enabled) ∧
      ¬ Leaves ⟨"RFC3339Nano", "%Y-%m-%dT%H:%M:%S%.f%:z", 0⟩ midMinuteLeap
        ⟨⟨⟨2020, 1, 2, by decide, by decide⟩,
          ⟨0, 0, 31, 500000000, by decide, by decide, by decide, by decide⟩⟩, .zero⟩ := by
  have listed : ⟨"RFC3339Nano", "%Y-%m-%dT%H:%M:%S%.f%:z", 0⟩ ∈ all := by decide
  have translated := @runOn_translate_known _ .standard listed (by decide)
  refine ⟨listed, by decide, by decide, by decide, ?_, ?_, ?_⟩
  · have text : writeItems (items "%Y-%m-%dT%H:%M:%S%.f%:z".toList) midMinuteLeap.stamp =
        some "2020-01-02T00:00:31.500+00:00".toList := by
      rw [items_nano]
      decide +kernel
    have rendered := renderNative_eq text
    rw [String.ofList_toList] at rendered
    rw [Translator.format, Operation.runOn_bind, translated]
    exact congrArg (·, Journal.start .enabled) rendered
  · rw [Translator.parse, Translator.nativeForParsing, Operation.runOn_bind, Operation.runOn_bind,
      translated]
    show ((Reader.readMoment _ _).mapError _, _) = _
    rw [Reader.readMoment, Reader.readFields, Strftime.read, items_nano]
    rfl
  · intro leaves
    exact absurd leaves.second (by decide)

end WellKnown

end DateLayout
