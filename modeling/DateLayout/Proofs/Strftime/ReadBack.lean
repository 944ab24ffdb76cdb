import DateLayout.Proofs.Strftime.Parts

/-!
# Items read back

Each item of a native layout that writes a part of a moment reads this part back. Three things
are to be said about an item. `Item.Keeps` is what the moment must be for the item to write it
without loss that reading could not make good. `Item.Ends` is what may follow the written text:
a number has to end before the next digit, the name of a zone before the next white space, and
hours alone at the end of the text. `Item.told` is what the reader then learns.

`Item.read_back` puts them together. An item is not always read by itself: the hours of an offset
are read by the form that takes any length (`Item.reader`).
-/

namespace DateLayout.Strftime

open DateLayout.Calendar DateLayout.Text

/-- The number that a numeric specifier shows of a moment. -/
def NumberField.shown (field : NumberField) (m : Moment) : Int :=
  match field with
  | .year => m.localTime.date.year
  | .century => m.localTime.date.year / 100
  | .yearOfCentury => m.localTime.date.year % 100
  | .month => m.localTime.date.month
  | .day => m.localTime.date.day
  | .dayOfYear => m.localTime.date.dayOfYear
  | .quarter => m.localTime.date.quarter
  | .isoYear => m.localTime.date.isoYear
  | .isoYearOfCentury => m.localTime.date.isoYear % 100
  | .isoWeek => m.localTime.date.isoWeek
  | .weekFromSunday => m.localTime.date.weeksFrom .fromSunday
  | .weekFromMonday => m.localTime.date.weeksFrom .fromMonday
  | .hour => m.localTime.time.hour
  | .hourOfHalfDay => m.localTime.time.dialHour
  | .minute => m.localTime.time.minute
  | .second => m.localTime.time.shownSecond
  | .nanosecond => m.localTime.time.fraction
  | .timestamp => m.instant

/-- What reading learns from the text that an item wrote of a moment. -/
def Item.told (m : Moment) : Item → Entry
  | .number field _ => .number field (field.shown m)
  | .monthName _ => .number .month m.localTime.date.month
  | .weekdayName _ | .weekdayNumber _ => .weekday m.localTime.date.weekday
  | .meridiem _ => .meridiem (12 ≤ m.localTime.time.hour)
  | .fraction =>
      if m.localTime.time.fraction = 0 then .nothing
      else .number .nanosecond m.localTime.time.fraction
  | .fixedFraction digits | .bareFraction digits =>
      .number .nanosecond (cutFraction digits m.localTime.time.fraction)
  | .offset _ => .offset m.offset.seconds
  | .literal _ | .blank _ | .timeMark | .zoneName | .unknown => .nothing

/-- The item that reads what an item wrote. -/
def Item.reader : Item → Item
  | .offset .hours => .offset .anyLength
  | i => i

/-- A kind of items that does not tell the forms of an offset apart is kept. -/
theorem Item.kind_reader {kind : Item → Bool}
    (same : kind (.offset .anyLength) = kind (.offset .hours)) (i : Item) :
    kind i.reader = kind i := by
  unfold reader
  split
  · exact same
  · rfl

/-- Whether an item can write a moment so that it is read back. Quarters, weeks and timestamps are
left out: they are checked against a date of which the text may not tell all. The seconds of an
offset are written but never read. -/
def Item.Keeps (m : Moment) : Item → Prop
  | .number .year _ | .number .century _ =>
      0 ≤ m.localTime.date.year ∧ m.localTime.date.year ≤ 9999
  | .number .quarter _ | .number .isoYear _ | .number .isoYearOfCentury _ | .number .isoWeek _
  | .number .weekFromSunday _ | .number .weekFromMonday _ | .number .timestamp _ => False
  | .number _ _ => True
  | .blank text => ∀ c ∈ text, isBlank c = true
  | .fixedFraction digits | .bareFraction digits => digits ≤ 9
  | .offset .plain | .offset .colon | .offset .colonOrUtc => 60 ∣ m.offset.seconds
  | .offset .hours => 3600 ∣ m.offset.seconds
  | .offset .seconds | .offset .anyLength | .unknown => False
  | .literal _ | .monthName _ | .weekdayName _ | .weekdayNumber _ | .meridiem _ | .fraction
  | .timeMark | .zoneName => True

/-- Items that keep every moment of a year with four digits and an offset of whole minutes. -/
def Item.isCommon : Item → Bool
  | .number .quarter _ | .number .isoYear _ | .number .isoYearOfCentury _ | .number .isoWeek _
  | .number .weekFromSunday _ | .number .weekFromMonday _ | .number .timestamp _ => false
  | .blank text => text.all isBlank
  | .fixedFraction digits | .bareFraction digits => digits ≤ 9
  | .offset .seconds | .offset .hours | .offset .anyLength | .unknown => false
  | _ => true

/-- Whether a text may follow what an item wrote. -/
def Item.Ends (rest : List Char) : Item → Prop
  | .number _ _ => NoDigitAhead rest
  | .fraction => NoDigitAhead rest ∧ rest.head? ≠ some '.'
  | .zoneName => ∀ c, rest.head? = some c → isBlank c = true
  | .blank _ => ∀ c, rest.head? = some c → isBlank c = false
  | .offset .hours => rest = []
  | _ => True

/-- The item wrote `cs`, and its reader takes just this off the front of a text again. -/
def Item.ReadsBack (i : Item) (m : Moment) (cs : List Char) : Prop :=
  i.write m.stamp = some cs ∧
    ∀ rest, i.Ends rest → i.reader.read (cs ++ rest) = .ok (i.told m, rest)

variable {m : Moment} {i : Item} {rest : List Char}

theorem Item.keeps_of_isCommon (h : i.isCommon = true) (lower : 0 ≤ m.localTime.date.year)
    (upper : m.localTime.date.year ≤ 9999) (minutes : 60 ∣ m.offset.seconds) : i.Keeps m := by
  cases i with
  | number field padding =>
      cases field with
      | quarter | isoYear | isoYearOfCentury | isoWeek | weekFromSunday | weekFromMonday
      | timestamp => cases h
      | year | century => exact ⟨lower, upper⟩
      | _ => trivial
  | blank text => exact List.all_eq_true.1 h
  | fixedFraction digits | bareFraction digits =>
      show digits ≤ 9
      exact of_decide_eq_true h
  | offset form =>
      cases form with
      | plain | colon | colonOrUtc => exact minutes
      | seconds | hours | anyLength => cases h
  | unknown => cases h
  | _ => trivial

theorem NumberField.exists_numeral {field : NumberField} {padding : Padding}
    (h : (Item.number field padding).Keeps m) :
    ∃ width n, field.width = some width ∧ 0 < width ∧ width ≤ 9 ∧ n < 10 ^ width ∧
      field.shown m = (n : Nat) ∧
      field.write padding m.stamp = some (numeral padding width [] n) := by
  have month := m.localTime.date.month_le
  have day := m.localTime.date.day_le_31
  have place := m.localTime.date.dayOfYear_le_366
  have hour := m.localTime.time.hour_lt
  have minute := m.localTime.time.minute_lt
  have second := m.localTime.time.second_lt
  have nanos := m.localTime.time.nanosecond_lt
  cases field with
  | quarter | isoYear | isoYearOfCentury | isoWeek | weekFromSunday | weekFromMonday | timestamp =>
      exact h.elim
  | year =>
      have years : 0 ≤ m.localTime.date.year ∧ m.localTime.date.year ≤ 9999 := h
      have written : writeYear padding m.localTime.date.year =
          numeral padding 4 [] m.localTime.date.year.natAbs := if_pos h
      exact ⟨4, m.localTime.date.year.natAbs, rfl, by decide, by decide, by omega,
        by rw [shown]; omega, congrArg some written⟩
  | century =>
      have years : 0 ≤ m.localTime.date.year ∧ m.localTime.date.year ≤ 9999 := h
      refine ⟨2, (m.localTime.date.year / 100).toNat, rfl, by decide, by decide, by omega,
        by rw [shown]; omega, congrArg some ?_⟩
      have low : (m.localTime.date.year / 100 % 256).toNat =
          (m.localTime.date.year / 100).toNat := by omega
      show writeCentury padding m.localTime.date.year = _
      simp only [writeCentury, low]
      exact if_pos (by omega)
  | yearOfCentury =>
      exact ⟨2, (m.localTime.date.year % 100).toNat, rfl, by decide, by decide, by omega,
        by rw [shown]; omega, rfl⟩
  | month => exact ⟨2, m.localTime.date.month, rfl, by decide, by decide, by omega, rfl, rfl⟩
  | day => exact ⟨2, m.localTime.date.day, rfl, by decide, by decide, by omega, rfl, rfl⟩
  | dayOfYear =>
      exact ⟨3, m.localTime.date.dayOfYear, rfl, by decide, by decide, by omega, rfl, rfl⟩
  | hour => exact ⟨2, m.localTime.time.hour, rfl, by decide, by decide, by omega, rfl, rfl⟩
  | hourOfHalfDay =>
      refine ⟨2, m.localTime.time.dialHour, rfl, by decide, by decide, ?_, rfl, rfl⟩
      rw [TimeOfDay.dialHour]
      split <;> omega
  | minute => exact ⟨2, m.localTime.time.minute, rfl, by decide, by decide, by omega, rfl, rfl⟩
  | second =>
      refine ⟨2, m.localTime.time.shownSecond, rfl, by decide, by decide, ?_, rfl, rfl⟩
      rw [nanosPerSecond] at nanos
      unfold TimeOfDay.shownSecond nanosPerSecond
      omega
  | nanosecond =>
      exact ⟨9, m.localTime.time.fraction, rfl, by decide, by decide,
        fraction_lt m.localTime.time, rfl, rfl⟩

theorem readsBack_number {field : NumberField} {padding : Padding}
    (h : (Item.number field padding).Keeps m) :
    ∃ cs, (Item.number field padding).ReadsBack m cs := by
  obtain ⟨width, n, sized, pos, narrow, small, shown, written⟩ := NumberField.exists_numeral h
  refine ⟨numeral padding width [] n, written, ?_⟩
  intro rest stop
  have pow : 10 ^ width ≤ 10 ^ 9 := Nat.pow_le_pow_right (by decide) narrow
  have bounded : n ≤ largestNumber := by
    unfold largestNumber
    omega
  show field.read (numeral padding width [] n ++ rest) = _
  rw [read_numeral field padding sized pos small bounded stop, Item.told, shown]

theorem readsBack_fraction : ∃ cs, Item.fraction.ReadsBack m cs := by
  by_cases zero : m.localTime.time.fraction = 0
  · refine ⟨[], congrArg some (if_pos zero), ?_⟩
    intro rest stop
    rw [Item.told, if_pos zero, List.nil_append]
    show Item.read .fraction rest = _
    unfold Item.read
    simp only []
    split
    · exact absurd rfl stop.2
    · rfl
  · obtain ⟨digits, pos, le, written, exact_⟩ := exists_digits_of_fraction zero
    obtain ⟨ds, text, all, length, nanos⟩ := exists_digits_of_fixedFraction le m.localTime.time
    refine ⟨'.' :: ds, ?_, ?_⟩
    · show some (writeFraction m.localTime.time) = _
      rw [written, text]
    · intro rest stop
      have digits := readFraction_append all (by omega) (by omega) stop.1
      rw [Item.told, if_neg zero, ← exact_, ← nanos]
      exact Item.read_fraction digits

theorem readsBack_fixedFraction {digits : Nat} (h : digits ≤ 9) :
    ∃ cs, (Item.fixedFraction digits).ReadsBack m cs := by
  obtain ⟨ds, text, all, rfl, nanos⟩ := exists_digits_of_fixedFraction h m.localTime.time
  refine ⟨'.' :: ds, congrArg some text, ?_⟩
  intro rest _
  rw [Item.told, ← nanos]
  exact Item.read_fixedFraction (readFixedFraction_append all h rest)

theorem readsBack_bareFraction {digits : Nat} (h : digits ≤ 9) :
    ∃ cs, (Item.bareFraction digits).ReadsBack m cs := by
  have length := length_writeBareFraction h m.localTime.time
  have nanos : nanoseconds (writeBareFraction digits m.localTime.time) =
      cutFraction digits m.localTime.time.fraction :=
    nanoseconds_take h (fraction_lt m.localTime.time)
  refine ⟨writeBareFraction digits m.localTime.time, rfl, ?_⟩
  intro rest _
  have read := readFixedFraction_append (fun _ hc => isDigit_of_mem_bareFraction hc)
    (by rw [length]; exact h) rest
  rw [length, nanos] at read
  exact Item.read_bareFraction read

theorem month_lt_length (d : Date) : d.month - 1 < monthNames.length := by
  have pos := d.month_pos
  have le := d.month_le
  have length : monthNames.length = 12 := rfl
  omega

theorem weekday_lt_length (w : Weekday) : w.index < weekdayNames.length := by
  cases w <;> decide

theorem readsBack_monthName (form : NameForm) : ∃ cs, (Item.monthName form).ReadsBack m cs := by
  have pos := m.localTime.date.month_pos
  have lt := month_lt_length m.localTime.date
  have name : monthNames[m.localTime.date.month - 1]? =
      some (monthNames.getD (m.localTime.date.month - 1) []) := by
    rw [List.getD_eq_getElem?_getD, List.getElem?_eq_getElem lt, Option.getD_some]
  refine ⟨_, rfl, ?_⟩
  intro rest _
  have same : ((m.localTime.date.month - 1 : Nat) : Int) + 1 = m.localTime.date.month := by omega
  rw [Item.told, ← same]
  exact Item.read_monthName (readName_apply distinct_monthNames form name rest)

theorem readsBack_weekdayName (form : NameForm) :
    ∃ cs, (Item.weekdayName form).ReadsBack m cs := by
  have lt := weekday_lt_length m.localTime.date.weekday
  have name : weekdayNames[m.localTime.date.weekday.index]? =
      some (weekdayNames.getD m.localTime.date.weekday.index []) := by
    rw [List.getD_eq_getElem?_getD, List.getElem?_eq_getElem lt, Option.getD_some]
  refine ⟨_, rfl, ?_⟩
  intro rest _
  rw [Item.told, ← Weekday.ofMonday_index m.localTime.date.weekday]
  exact Item.read_weekdayName (readName_apply distinct_weekdayNames form name rest)

/-- A weekday is written with one digit. -/
theorem exists_digit_of_weekday (count : WeekdayCount) (w : Weekday) :
    ∃ c, digits (count.number w) = [c] ∧ c.isDigit = true ∧ value [c] = count.number w := by
  cases count <;> cases w <;> exact ⟨_, rfl, rfl, rfl⟩

theorem readWeekdayNumber_append (count : WeekdayCount) (w : Weekday) (rest : List Char) :
    readWeekdayNumber count (digits (count.number w) ++ rest) = .ok (w, rest) := by
  obtain ⟨c, written, digit, number⟩ := exists_digit_of_weekday count w
  have leading : leadingDigits (some 1) ([c] ++ rest) = [c] :=
    leadingDigits_of_length (fun _ hd => List.mem_singleton.1 hd ▸ digit) rfl rest
  have bounded : value [c] ≤ largestNumber := by
    rw [number]
    cases count <;> cases w <;> decide
  have here : ([c] ++ rest).dropWhile isBlank = [c] ++ rest := by
    rw [List.singleton_append, List.dropWhile_cons, isBlank_of_isDigit digit]
    rfl
  rw [written, readWeekdayNumber, here, readNumber_of_leading leading (Nat.le_refl 1) bounded,
    number]
  simp only [bind, Except.bind, count.weekday?_number]

theorem readsBack_weekdayNumber (count : WeekdayCount) :
    ∃ cs, (Item.weekdayNumber count).ReadsBack m cs := by
  refine ⟨_, rfl, ?_⟩
  intro rest _
  exact Item.read_weekdayNumber (readWeekdayNumber_append count m.localTime.date.weekday rest)

theorem readsBack_meridiem (letters : LetterCase) :
    ∃ cs, (Item.meridiem letters).ReadsBack m cs := by
  refine ⟨_, rfl, ?_⟩
  intro rest _
  exact Item.read_meridiem (readMeridiem_write letters m.localTime.time rest)

theorem OffsetForm.exists_write {form : OffsetForm}
    (h : form = .plain ∨ form = .colon ∨ form = .colonOrUtc) (o : UtcOffset) :
    ∃ colons, (∀ c ∈ colons, c = ':') ∧ form.write o =
      some (o.sign :: (twoDigits ((o.magnitude + 30) / 60 / 60) ++
        (colons ++ twoDigits ((o.magnitude + 30) / 60 % 60)))) := by
  rcases h with rfl | rfl | rfl
  · exact ⟨[], nofun, rfl⟩
  · exact ⟨[':'], fun c hc => List.mem_singleton.1 hc, rfl⟩
  · exact ⟨[':'], fun c hc => List.mem_singleton.1 hc, rfl⟩

theorem readsBack_minutes {form : OffsetForm}
    (h : form = .plain ∨ form = .colon ∨ form = .colonOrUtc) (whole : 60 ∣ m.offset.seconds) :
    ∃ cs, (Item.offset form).ReadsBack m cs := by
  have west := m.offset.lower
  have east := m.offset.upper
  have magnitude : m.offset.magnitude = m.offset.seconds.natAbs := rfl
  obtain ⟨colons, only, written⟩ := OffsetForm.exists_write h m.offset
  refine ⟨_, written, ?_⟩
  intro rest _
  have itself : (Item.offset form).reader = .offset form := by
    rcases h with rfl | rfl | rfl <;> rfl
  have other : form ≠ .anyLength := by
    rcases h with rfl | rfl | rfl <;> decide
  rw [itself]
  refine Item.read_offset ?_
  rw [List.cons_append, OffsetForm.read_eq other, List.append_assoc, List.append_assoc,
    readSignedOffset_append (by omega) (by omega) (by omega) only]

theorem readsBack_hours (whole : 3600 ∣ m.offset.seconds) :
    ∃ cs, (Item.offset .hours).ReadsBack m cs := by
  have west := m.offset.lower
  have east := m.offset.upper
  have magnitude : m.offset.magnitude = m.offset.seconds.natAbs := rfl
  refine ⟨m.offset.sign :: twoDigits (m.offset.magnitude / 3600), rfl, ?_⟩
  intro rest last
  have nothing : rest = [] := last
  rw [nothing, List.append_nil]
  refine Item.read_offset ?_
  rw [OffsetForm.read_anyLength, readSignedOffset_hours (by omega) (by omega)]

theorem readsBack_zoneName : ∃ cs, Item.zoneName.ReadsBack m cs := by
  refine ⟨m.offset.name, congrArg some (String.toList_ofList (l := m.offset.name)), ?_⟩
  intro rest ends
  show Except.ok (Entry.nothing, (m.offset.name ++ rest).dropWhile fun c => !isBlank c) = _
  have name : ∀ c ∈ m.offset.name, (!isBlank c) = true := by
    intro c hc
    rw [isBlank_of_mem_name hc]
    rfl
  rw [List.dropWhile_append_of_pos name]
  cases rest with
  | nil => rfl
  | cons c rest =>
      rw [List.dropWhile_cons, ends c rfl]
      rfl

theorem readsBack_timeMark : ∃ cs, Item.timeMark.ReadsBack m cs :=
  ⟨['T'], rfl, fun _ _ => rfl⟩

theorem readsBack_literal (text : List Char) : ∃ cs, (Item.literal text).ReadsBack m cs := by
  refine ⟨text, rfl, ?_⟩
  intro rest _
  show Item.read (.literal text) (text ++ rest) = _
  have here : text.isPrefixOf (text ++ rest) = true :=
    List.isPrefixOf_iff_prefix.2 (List.prefix_append text rest)
  unfold Item.read
  simp only [here, byteCount_append, List.drop_left, if_true]
  rw [if_neg (by omega)]
  rfl

theorem readsBack_blank {text : List Char} (h : ∀ c ∈ text, isBlank c = true) :
    ∃ cs, (Item.blank text).ReadsBack m cs := by
  refine ⟨text, rfl, ?_⟩
  intro rest ends
  show Except.ok (Entry.nothing, (text ++ rest).dropWhile isBlank) = _
  rw [List.dropWhile_append_of_pos h]
  cases rest with
  | nil => rfl
  | cons c rest =>
      rw [List.dropWhile_cons, ends c rfl]
      rfl

/-- What an item writes is read back, with whatever may follow it behind it. -/
theorem Item.read_back (h : i.Keeps m) : ∃ cs, i.ReadsBack m cs := by
  cases i with
  | literal text => exact readsBack_literal text
  | blank text => exact readsBack_blank h
  | number field padding => exact readsBack_number h
  | monthName form => exact readsBack_monthName form
  | weekdayName form => exact readsBack_weekdayName form
  | weekdayNumber count => exact readsBack_weekdayNumber count
  | meridiem letters => exact readsBack_meridiem letters
  | fraction => exact readsBack_fraction
  | fixedFraction digits => exact readsBack_fixedFraction h
  | bareFraction digits => exact readsBack_bareFraction h
  | timeMark => exact readsBack_timeMark
  | offset form =>
      cases form with
      | plain => exact readsBack_minutes (.inl rfl) h
      | colon => exact readsBack_minutes (.inr (.inl rfl)) h
      | colonOrUtc => exact readsBack_minutes (.inr (.inr rfl)) h
      | hours => exact readsBack_hours h
      | seconds | anyLength => exact h.elim
  | zoneName => exact readsBack_zoneName
  | unknown => exact h.elim

/-! ## What a written text begins with -/

/-- Whether an item writes a text that begins with no white space, whatever the moment. -/
def Item.isSolid : Item → Bool
  | .number _ padding => padding ≠ .space
  | .monthName _ | .weekdayName _ | .weekdayNumber _ | .meridiem _ | .timeMark | .offset _
  | .zoneName => true
  | _ => false

def Solid (cs : List Char) : Prop :=
  ∃ c, cs.head? = some c ∧ isBlank c = false

theorem Solid.append {cs : List Char} (h : Solid cs) (rest : List Char) : Solid (cs ++ rest) := by
  obtain ⟨c, head, solid⟩ := h
  cases cs with
  | nil => cases head
  | cons d cs =>
      cases head
      exact ⟨c, rfl, solid⟩

theorem solid_of_digits {ds : List Char} (digits : ∀ c ∈ ds, c.isDigit = true)
    (pos : 0 < ds.length) : Solid ds := by
  cases ds with
  | nil => exact absurd pos (Nat.lt_irrefl 0)
  | cons c ds => exact ⟨c, rfl, isBlank_of_isDigit (digits c (List.mem_cons_self ..))⟩

theorem solid_sign (o : UtcOffset) (cs : List Char) : Solid (o.sign :: cs) :=
  ⟨o.sign, rfl, isBlank_sign o⟩

/-- The first character of a name is there in either form. -/
theorem head_name {names : List (List Char)} {kind : Char → Bool}
    (h : ∀ name ∈ names, name.head?.any kind = true) (form : NameForm) {i : Nat}
    (lt : i < names.length) :
    ∃ c, (form.apply (names.getD i [])).head? = some c ∧ kind c = true := by
  have mem : names.getD i [] ∈ names := by
    rw [List.getD_eq_getElem?_getD, List.getElem?_eq_getElem lt, Option.getD_some]
    exact List.getElem_mem lt
  obtain ⟨c, head, first⟩ := Option.any_eq_true _ _ |>.1 (h _ mem)
  refine ⟨c, ?_, first⟩
  cases hn : names.getD i [] with
  | nil =>
      rw [hn] at head
      cases head
  | cons d letters =>
      rw [hn] at head
      cases form <;> exact head

theorem solid_name {names : List (List Char)}
    (h : ∀ name ∈ names, name.head?.any (fun c => !isBlank c) = true) (form : NameForm) {i : Nat}
    (lt : i < names.length) : Solid (form.apply (names.getD i [])) := by
  obtain ⟨c, head, other⟩ := head_name h form lt
  rw [Bool.not_eq_true'] at other
  exact ⟨c, head, other⟩

theorem Item.solid_of_write (h : i.Keeps m) (solid : i.isSolid = true) {cs : List Char}
    (written : i.write m.stamp = some cs) : Solid cs := by
  cases i with
  | number field padding =>
      obtain ⟨width, n, -, -, -, -, -, text⟩ := NumberField.exists_numeral h
      have other : padding ≠ .space := of_decide_eq_true solid
      cases text.symm.trans written
      exact solid_of_digits (fun c hc => isDigit_of_mem_numeral other hc)
        (length_numeral_pos padding)
  | monthName form =>
      cases written
      exact solid_name (by decide) form (month_lt_length m.localTime.date)
  | weekdayName form =>
      cases written
      exact solid_name (by decide) form (weekday_lt_length m.localTime.date.weekday)
  | weekdayNumber count =>
      obtain ⟨c, single, digit, -⟩ := exists_digit_of_weekday count m.localTime.date.weekday
      cases (congrArg some single).symm.trans written
      exact ⟨c, rfl, isBlank_of_isDigit digit⟩
  | meridiem letters =>
      cases written
      unfold LetterCase.write
      split <;> split <;> exact ⟨_, rfl, by decide⟩
  | timeMark =>
      cases written
      exact ⟨'T', rfl, by decide⟩
  | offset form =>
      cases form with
      | seconds | anyLength => exact h.elim
      | plain | colon | colonOrUtc | hours =>
          cases written
          exact solid_sign m.offset _
  | zoneName =>
      cases written
      show Solid (String.ofList m.offset.name).toList
      rw [String.toList_ofList]
      exact solid_sign m.offset _
  | literal | blank | fraction | fixedFraction | bareFraction | unknown => cases solid

theorem Item.point_of_write (fraction : i = .fraction ∨ ∃ n, i = .fixedFraction n)
    {cs : List Char} (written : i.write m.stamp = some cs) : cs = [] ∨ ∃ ds, cs = '.' :: ds := by
  rcases fraction with rfl | ⟨n, rfl⟩
  · cases written
    show writeFraction m.localTime.time = [] ∨ _
    rw [writeFraction]
    split
    · exact .inl rfl
    · split
      · exact .inr ⟨_, rfl⟩
      · split <;> exact .inr ⟨_, rfl⟩
  · cases written
    exact .inr ⟨_, rfl⟩

end DateLayout.Strftime
