import DateLayout.Proofs.Reader.Attainable
import DateLayout.Proofs.RoundTrip.Gaps
import DateLayout.Proofs.Strftime.Chains
import DateLayout.Proofs.WellKnown.Items

/-!
# Hours in front of a date

An offset may be written with its hours alone, and the reader then has to decide whether minutes
follow. It leaves them out only at the very end of a text; anywhere else it skips colons and white
space and takes the next two digits, whatever they belong to. So an offset in hours cannot stand
in front of anything that begins with a digit.

What comes of this is told for a date and a time behind the offset. With a separator that is more
than white space the text is refused. Behind white space the first two digits of the year are
taken for minutes, and the year is its last two digits; where the first two are no minutes the
text is refused as well. So it is read back only if both mistakes cancel out, which takes white
space and a year below 100 (`parse_format_hours_iff`). A leap second has to follow second 59 too,
or the clock would show another time.
-/

namespace DateLayout

open DateLayout.Calendar DateLayout.Strftime DateLayout.Text

namespace Strftime

/-! ## A date and a time behind an offset -/

/-- What comes behind the year of a date and a time. -/
def clockItems : List Item :=
  [.literal ['-'], .number .month .zero, .literal ['-'], .number .day .zero, .blank [' '],
    .number .hour .zero, .literal [':'], .number .minute .zero, .literal [':'],
    .number .second .zero]

theorem exists_chained_clock (m : Moment) :
    ∃ text, Chained m clockItems ('-' :: text) := by
  have digit : '-'.isDigit = false ∧ ':'.isDigit = false ∧ ' '.isDigit = false := by decide
  obtain ⟨second, chained, -⟩ :=
    exists_chained_number .second (m := m) trivial noDigitAhead_nil .nil
  obtain ⟨minute, chained, -⟩ := exists_chained_separated .minute (m := m) trivial digit.2.1 chained
  obtain ⟨hour, chained, solid⟩ := exists_chained_separated .hour (m := m) trivial digit.2.1 chained
  have blank := chained.blank solid (by decide : isBlank ' ' = true)
  obtain ⟨day, chained, -⟩ :=
    exists_chained_number .day (m := m) trivial (noDigitAhead_cons digit.2.2) blank
  obtain ⟨month, chained, -⟩ := exists_chained_separated .month (m := m) trivial digit.1 chained
  exact ⟨month, chained.literal '-'⟩

end Strftime

/-! ## What the digits of the year are taken for -/

theorem Calendar.isLeap_mod_hundred {year : Int} (leap : isLeap year = true) :
    isLeap (year % 100) = true := by
  simp only [isLeap, Bool.and_eq_true, Bool.or_eq_true, beq_iff_eq, bne_iff_ne, ne_eq] at leap ⊢
  omega

/-- The same day of the year that the last two digits of a year are. -/
def Calendar.Date.lastTwo (d : Date) : Date where
  year := d.year % 100
  month := d.month
  day := d.day
  day_pos := d.day_pos
  day_le := Nat.le_trans d.day_le (daysInMonth_mono isLeap_mod_hundred d.month)

theorem Calendar.Date.lastTwo_eq_self {d : Date} (lower : 0 ≤ d.year) (small : d.year < 100) :
    d.lastTwo = d := by
  cases d
  simp only [lastTwo, Date.mk.injEq, and_true]
  exact Int.emod_eq_of_lt lower small

/-- The seconds of an offset with minutes behind its hours. -/
def Calendar.UtcOffset.withMinutes (o : UtcOffset) (minutes : Int) : Int :=
  if o.seconds < 0 then o.seconds - minutes * 60 else o.seconds + minutes * 60

theorem Calendar.UtcOffset.eq_of_seconds_eq {o o' : UtcOffset} (h : o.seconds = o'.seconds) :
    o = o' := by
  cases o
  cases o'
  cases h
  rfl

/-- A moment whose year was read in two halves, the first one as minutes of the offset. The time is
the one that the clock showed. -/
structure Misread (v r : Moment) : Prop where
  date : r.localTime.date = v.localTime.date.lastTwo
  time : r.localTime.time = v.localTime.time.asShown
  offset : r.offset.seconds = v.offset.withMinutes (v.localTime.date.year / 100)

variable {v r : Moment}

/-- Minutes below 60 behind whole hours are an offset. -/
theorem exists_misread (whole : 3600 ∣ v.offset.seconds) (lower : 0 ≤ v.localTime.date.year)
    (minutes : v.localTime.date.year / 100 < 60) : ∃ r, Misread v r := by
  have west := v.offset.lower
  have east := v.offset.upper
  have within : -86400 < v.offset.withMinutes (v.localTime.date.year / 100) ∧
      v.offset.withMinutes (v.localTime.date.year / 100) < 86400 := by
    unfold UtcOffset.withMinutes
    split <;> omega
  exact ⟨⟨⟨v.localTime.date.lastTwo, v.localTime.time.asShown⟩, ⟨_, within.1, within.2⟩⟩, rfl, rfl,
    rfl⟩

/-- The mistakes cancel out for years below 100. -/
theorem Misread.eq_iff (h : Misread v r) (lower : 0 ≤ v.localTime.date.year) :
    r = v ↔ v.localTime.date.year < 100 ∧ v.localTime.time.asShown = v.localTime.time := by
  constructor
  · rintro rfl
    have same : r.localTime.date.year = r.localTime.date.year % 100 := congrArg Date.year h.date
    exact ⟨by omega, h.time.symm⟩
  · rintro ⟨small, shown⟩
    have hours : v.localTime.date.year / 100 = 0 := Int.ediv_eq_zero_of_lt lower small
    have offset : r.offset = v.offset := by
      refine UtcOffset.eq_of_seconds_eq ?_
      rw [h.offset, hours]
      unfold UtcOffset.withMinutes
      split <;> omega
    have date : r.localTime.date = v.localTime.date := by
      rw [h.date, Date.lastTwo_eq_self lower small]
    rw [Moment.mk.injEq, LocalDateTime.mk.injEq]
    exact ⟨⟨date, h.time.trans shown⟩, offset⟩

/-! ## The layouts -/

def piecesOfClock : List Piece :=
  ["yyyy", "-", "mm", "-", "dd", " ", "hhh", ":", "ii", ":", "ss"].flatMap piecesOfWord

theorem spaced_piecesOfClock : Spaced piecesOfClock :=
  spaced_of_isSpaced (by decide)

theorem items_clock (mode : Mode) :
    items (nativeOf mode piecesOfClock).toList = .number .year .zero :: clockItems := by
  have native : nativeOf mode piecesOfClock = "%Y-%m-%d %H:%M:%S" := by
    cases mode <;> rfl
  rw [native, ← itemsWithin_eq (Nat.le_refl _)]
  decide

/-- What is written of a moment, in front of what is written behind its year. -/
def hoursText (v : Moment) (cs clock : List Char) : List Char :=
  v.offset.sign :: (twoDigits (v.offset.magnitude / 3600) ++ (cs ++
    (twoDigits (v.localTime.date.year.natAbs / 100) ++
      (twoDigits (v.localTime.date.year.natAbs % 100) ++ clock))))

variable {t : Token} {spelling cs clock text : List Char} {is : List Item}

theorem write_year (lower : 0 ≤ v.localTime.date.year) (upper : v.localTime.date.year ≤ 9999) :
    (Item.number .year .zero).write v.stamp =
      some (twoDigits (v.localTime.date.year.natAbs / 100) ++
        twoDigits (v.localTime.date.year.natAbs % 100)) := by
  rw [← numeral_four (by omega)]
  exact congrArg some (if_pos ⟨lower, upper⟩)

theorem writeItems_hours (item : t.item? .formatting = some (.offset .hours))
    (lower : 0 ≤ v.localTime.date.year) (upper : v.localTime.date.year ≤ 9999)
    (written : writeItems clockItems v.stamp = some clock) :
    writeItems (items (nativeOf .formatting
        (.token t spelling :: (cs.map .plain ++ piecesOfClock))).toList) v.stamp =
      some (hoursText v cs clock) := by
  have offset : (Item.offset .hours).write v.stamp =
      some (v.offset.sign :: twoDigits (v.offset.magnitude / 3600)) := rfl
  rw [nativeOf_toList_cons, items_of_item? item, writeItems_cons offset, writeItems_separators,
    items_clock, writeItems_cons (write_year lower upper), written]
  simp only [hoursText, Option.map_some, List.append_assoc, List.cons_append]

/-! ## Reading them back -/

theorem hours_lt (o : UtcOffset) : o.magnitude / 3600 < 100 := by
  have west := o.lower
  have east := o.upper
  have magnitude : o.magnitude = o.seconds.natAbs := rfl
  omega

/-- A separator that is more than white space is missed behind the digits taken for minutes, if
not before. -/
theorem exists_error_of_solid (apart : ∀ c ∈ cs, Separator c)
    (solid : ∃ c ∈ cs, isBlank c = false) (upper : v.localTime.date.year.natAbs < 10000) :
    ∃ fault, readItems (.offset .anyLength ::
        items (nativeOf .parsing (cs.map .plain ++ piecesOfClock)).toList) .empty
      (hoursText v cs clock) = .error fault := by
  have hh := hours_lt v.offset
  rw [hoursText]
  by_cases gap : ∀ c ∈ cs, isGap c = true
  · have skipped := dropWhile_isGap gap (v.localTime.date.year.natAbs / 100)
      (twoDigits (v.localTime.date.year.natAbs % 100) ++ clock)
    by_cases minutes : v.localTime.date.year.natAbs / 100 < 60
    · rw [readItems_offset_taken hh (by rw [skipped, readOffsetMinutes_append minutes])]
      obtain ⟨d, ds, digits, digit⟩ :=
        exists_twoDigits_eq_cons (v.localTime.date.year.natAbs % 100)
      rw [digits]
      exact exists_error_of_separators (fun c mem => (apart c mem).notDigit) solid digit _ _ _
    · refine ⟨.outOfRange, readItems_offset_refused hh ?_ _⟩
      rw [skipped, readOffsetMinutes_twoDigits (by omega), if_pos (by omega)]
  · have other : ∃ c ∈ cs, isGap c = false := by
      simpa using gap
    obtain ⟨c, mem, back, found⟩ := exists_dropWhile_isGap other
      (twoDigits (v.localTime.date.year.natAbs / 100) ++
        (twoDigits (v.localTime.date.year.natAbs % 100) ++ clock))
    obtain ⟨fault, refused⟩ := exists_error_of_readOffsetMinutes (apart c mem).notDigit true back
    exact ⟨fault, readItems_offset_refused hh (by rw [found, refused]) _⟩

/-- Behind white space the year has to begin with digits that can be minutes. -/
theorem readItems_hours_large (blank : ∀ c ∈ cs, isBlank c = true)
    (upper : v.localTime.date.year.natAbs < 10000)
    (large : 60 ≤ v.localTime.date.year.natAbs / 100) :
    readItems (.offset .anyLength :: is) .empty (hoursText v cs clock) = .error .outOfRange := by
  refine readItems_offset_refused (hours_lt v.offset) ?_ _
  rw [dropWhile_isGap (isGap_of_isBlank blank), readOffsetMinutes_twoDigits (by omega),
    if_pos (by omega)]

/-- The items that tell all of a misread moment. -/
def misreadItems : List Item :=
  .offset .plain :: .number .year .zero :: clockItems

theorem Misread.seconds_eq (h : Misread v r) (whole : 3600 ∣ v.offset.seconds)
    (lower : 0 ≤ v.localTime.date.year) :
    (if decide (v.offset.seconds < 0) then
        -((v.offset.magnitude / 3600 : Nat) * 3600 +
          (v.localTime.date.year.natAbs / 100 : Nat) * 60 : Int)
      else (v.offset.magnitude / 3600 : Nat) * 3600 +
        (v.localTime.date.year.natAbs / 100 : Nat) * 60) = r.offset.seconds := by
  have magnitude : v.offset.magnitude = v.offset.seconds.natAbs := rfl
  rw [h.offset]
  unfold UtcOffset.withMinutes
  simp only [decide_eq_true_eq]
  split <;> omega

theorem read_year_twoDigits {n : Nat} (h : n < 100) {rest : List Char}
    (stop : NoDigitAhead rest) :
    NumberField.year.read (twoDigits n ++ rest) = .ok (.number .year n, rest) := by
  have two : (twoDigits n).length = 2 := length_twoDigits h
  have bounded : value (twoDigits n) ≤ largestNumber := by
    rw [value_twoDigits, largestNumber]
    omega
  have read := read_digits .year rfl (fun _ => isDigit_of_mem_twoDigits)
    (by rw [two]; decide) (by rw [two]; decide) bounded stop
  rwa [value_twoDigits] at read

/-- Behind white space whose digits can be minutes the year is read in two halves. -/
theorem readItems_misread (h : Misread v r) (whole : 3600 ∣ v.offset.seconds)
    (blank : ∀ c ∈ cs, isBlank c = true) (lower : 0 ≤ v.localTime.date.year)
    (minutes : v.localTime.date.year.natAbs / 100 < 60)
    (chained : Chained r clockItems ('-' :: text)) :
    readItems (.offset .anyLength ::
        items (nativeOf .parsing (cs.map .plain ++ piecesOfClock)).toList) .empty
      (hoursText v cs ('-' :: text)) = .ok (.ofItems r misreadItems) := by
  have year : r.localTime.date.year = (v.localTime.date.year.natAbs % 100 : Nat) := by
    have same : r.localTime.date.year = v.localTime.date.year % 100 := congrArg Date.year h.date
    omega
  obtain ⟨d, ds, digits, digit⟩ := exists_twoDigits_eq_cons (v.localTime.date.year.natAbs % 100)
  have solid : (twoDigits (v.localTime.date.year.natAbs % 100) ++ '-' :: text).dropWhile isBlank =
      twoDigits (v.localTime.date.year.natAbs % 100) ++ '-' :: text := by
    rw [digits, List.cons_append, List.dropWhile_cons, isBlank_of_isDigit digit]
    rfl
  have number : (Item.number .year .zero).read
      (twoDigits (v.localTime.date.year.natAbs % 100) ++ '-' :: text) =
        .ok ((Item.number .year .zero).told r, '-' :: text) := by
    rw [Item.told, NumberField.shown, year]
    exact read_year_twoDigits (Nat.mod_lt _ (by decide)) (noDigitAhead_cons (by decide))
  have keeps : (Item.number .year .zero).Keeps r := by
    show 0 ≤ r.localTime.date.year ∧ r.localTime.date.year ≤ 9999
    omega
  rw [hoursText, readItems_offset_taken (hours_lt v.offset)
      (by rw [dropWhile_isGap (isGap_of_isBlank blank), readOffsetMinutes_append minutes]),
    h.seconds_eq whole lower, readItems_separators_skipped blank solid, items_clock,
    readItems_cons number]
  show (do
    let f ← (Fields.ofItems r [.offset .plain]).enter ((Item.number .year .zero).told r)
    readItems clockItems f ('-' :: text)) = _
  rw [enter_ofItems keeps fun fraction => absurd fraction Bool.false_ne_true]
  exact chained.read [.offset .plain, .number .year .zero] (by decide)

theorem Misread.tellsAll (h : Misread v r) (whole : v.localTime.time.fraction = 0) :
    TellsAll r misreadItems := by
  have fraction : keptFraction r misreadItems = r.localTime.time.fraction := by
    rw [h.time, TimeOfDay.fraction_asShown, whole]
    rfl
  exact ⟨rfl, rfl, rfl, rfl, rfl, rfl, rfl, rfl, rfl, fraction, rfl⟩

theorem Misread.attainable (h : Misread v r) (whole : 3600 ∣ v.offset.seconds) :
    Attainable r := by
  have year : r.localTime.date.year = v.localTime.date.year % 100 := congrArg Date.year h.date
  have lower : 0 ≤ r.localTime.date.year := by omega
  have upper : r.localTime.date.year ≤ 9999 := by omega
  refine ⟨inRange_of_four_digits lower upper, ?_, ?_, instantInRange_of_four_digits lower upper⟩
  · rw [h.time]
    exact TimeOfDay.second_of_leap_asShown v.localTime.time
  · rw [h.offset]
    unfold UtcOffset.withMinutes
    split <;> omega

/-! ## The layout -/

theorem exists_hoursToken {word : String} (short : word = "zh" ∨ word = "zhh") :
    ∃ t ∈ Grammar.standard.tokens, t.SpelledBy word.toList ∧ t.ordinal? = none ∧
      t.item? .formatting = some (.offset .hours) ∧
      t.item? .parsing = some (.offset .anyLength) := by
  rcases short with rfl | rfl
  · decide
  · decide

theorem spaced_separators {ps : List Piece} (apart : ∀ c ∈ cs, Separator c) (h : Spaced ps) :
    Spaced (cs.map .plain ++ ps) := by
  induction cs with
  | nil => exact h
  | cons c cs ih =>
      exact .separator (apart c (List.mem_cons_self ..))
        (ih fun d mem => apart d (List.mem_cons_of_mem c mem))

theorem sourceOf_separators (cs : List Char) (ps : List Piece) :
    sourceOf (cs.map .plain ++ ps) = cs ++ sourceOf ps := by
  induction cs with
  | nil => rfl
  | cons c cs ih => exact congrArg (c :: ·) ih

/-- A token for hours, separators, a date and a time are the pieces of their layout. -/
theorem reads_hours {word s : String} (known : t ∈ Grammar.standard.tokens)
    (spelled : t.SpelledBy word.toList) (nonempty : s ≠ "")
    (apart : ∀ c ∈ s.toList, Separator c) :
    Grammar.standard.Reads (word ++ s ++ "yyyy-mm-dd hhh:ii:ss").toList
      (.token t word.toList :: (s.toList.map .plain ++ piecesOfClock)) := by
  have clock : sourceOf piecesOfClock = "yyyy-mm-dd hhh:ii:ss".toList := by decide
  have tail := (spaced_separators apart spaced_piecesOfClock).reads
  rw [sourceOf_separators, clock] at tail
  rw [String.toList_append, String.toList_append, List.append_assoc]
  obtain ⟨cls, hc, ht⟩ := List.mem_flatMap.1 known
  refine Grammar.Reads.cons_token tail hc ht spelled ?_
  intro d head u hu
  cases chars : s.toList with
  | nil => exact absurd (String.toList_eq_nil_iff.1 chars) nonempty
  | cons c cs =>
      rw [chars] at head
      cases head
      refine Grammar.separator_stops (apart d ?_) hc hu
      rw [chars]
      exact List.mem_cons_self ..

/-- Behind the year nothing is written of it, and a clock shows the same time. -/
theorem Misread.writeItems_clock (h : Misread v r) :
    writeItems clockItems r.stamp = writeItems clockItems v.stamp := by
  show writeItems clockItems ⟨r.localTime.date, some r.localTime.time, _⟩ =
    writeItems clockItems ⟨v.localTime.date, some v.localTime.time, _⟩
  rw [h.date, h.time]
  simp only [clockItems, writeItems, Item.write, NumberField.write, Option.map_some,
    TimeOfDay.hour_asShown, TimeOfDay.minute_asShown, TimeOfDay.shownSecond_asShown]
  rfl

/-- What reading the text of a moment gives: the moment with its year read in two halves, or an
error. -/
theorem readMoment_hours {native : String}
    (cut : items native.toList = .offset .anyLength ::
      items (DateLayout.nativeOf .parsing (cs.map .plain ++ piecesOfClock)).toList)
    (apart : ∀ c ∈ cs, Separator c) (lower : 0 ≤ v.localTime.date.year)
    (upper : v.localTime.date.year ≤ 9999) (seconds : v.localTime.time.fraction = 0)
    (whole : 3600 ∣ v.offset.seconds)
    (written : writeItems clockItems v.stamp = some clock) :
    ((∀ c ∈ cs, isBlank c = true) ∧ ∃ r, Misread v r ∧
        Reader.readMoment native (String.ofList (hoursText v cs clock)) = .ok r) ∨
      ((∃ c ∈ cs, isBlank c = false) ∨ 60 ≤ v.localTime.date.year / 100) ∧
        ∃ fault, Reader.readMoment native (String.ofList (hoursText v cs clock)) =
          .error fault := by
  have four : v.localTime.date.year.natAbs < 10000 := by omega
  rw [Reader.readMoment, Reader.readFields, Strftime.read, cut, String.toList_ofList]
  by_cases blank : ∀ c ∈ cs, isBlank c = true
  · by_cases minutes : v.localTime.date.year / 100 < 60
    · obtain ⟨r, misread⟩ := exists_misread whole lower minutes
      obtain ⟨text, chained⟩ := exists_chained_clock r
      rw [← misread.writeItems_clock, chained.written] at written
      cases written
      have read : Strftime.read native (String.ofList (hoursText v cs ('-' :: text))) =
          .ok (.ofItems r misreadItems) := by
        rw [Strftime.read, cut, String.toList_ofList]
        exact readItems_misread misread whole blank lower (by omega) chained
      have done := (misread.tellsAll seconds).readMoment (misread.attainable whole) read
      rw [Reader.readMoment, Reader.readFields, Strftime.read, cut, String.toList_ofList] at done
      exact .inl ⟨blank, r, misread, done⟩
    · rw [readItems_hours_large blank four (by omega)]
      exact .inr ⟨.inr (by omega), .outOfRange, rfl⟩
  · have solid : ∃ c ∈ cs, isBlank c = false := by
      simpa using blank
    obtain ⟨fault, failed⟩ := @exists_error_of_solid v cs clock apart solid four
    rw [failed]
    exact .inr ⟨.inl solid, fault, rfl⟩

/-- The layout is translated to what its pieces say, in both modes. -/
theorem formOf_hours {translator : Translator} (standard : translator.grammar = .standard)
    {word s : String} (short : word = "zh" ∨ word = "zhh") (nonempty : s ≠ "")
    (apart : ∀ c ∈ s.toList, Separator c) :
    ∃ t, t.item? .formatting = some (.offset .hours) ∧
      t.item? .parsing = some (.offset .anyLength) ∧
      ∀ mode, translator.formOf (word ++ s ++ "yyyy-mm-dd hhh:ii:ss") mode =
        .ok (.literal (DateLayout.nativeOf mode
          (.token t word.toList :: (s.toList.map .plain ++ piecesOfClock)))) := by
  obtain ⟨t, known, spelled, native, writer, reader⟩ := exists_hoursToken short
  refine ⟨t, writer, reader, fun mode => ?_⟩
  have unknown : WellKnown.find? (word ++ s ++ "yyyy-mm-dd hhh:ii:ss") translator.tier = none := by
    refine WellKnown.find?_eq_none_of_head ?_
    rw [String.toList_append, String.toList_append, List.append_assoc]
    rcases short with rfl | rfl
    · exact nofun
    · exact nofun
  have first : (Piece.token t word.toList).ordinal? = none := native
  have plain :
      ordinalsOf (.token t word.toList :: (s.toList.map .plain ++ piecesOfClock)) = [] := by
    rw [ordinalsOf_cons_none first]
    exact (spaced_separators apart spaced_piecesOfClock).ordinalsOf_eq_nil
  rw [Translator.formOf, unknown, standard]
  exact Grammar.translate_literal (reads_hours known spelled nonempty apart) plain

/-- What stands in front of a date in hours alone is read back only where two mistakes cancel
out. The text is always written. Read again it gives the very moment if and only if the separator
is white space, the year is below 100 and a clock shows the time; whatever else it is read as has
the first two digits of the year among the minutes of the offset. -/
theorem parse_format_hours_iff (t : Translator) (standard : t.grammar = .standard) (word s : String)
    (short : word = "zh" ∨ word = "zhh") (nonempty : s ≠ "")
    (apart : ∀ c ∈ s.toList, Separator c) (v : Moment) (lower : 0 ≤ v.localTime.date.year)
    (upper : v.localTime.date.year ≤ 9999) (seconds : v.localTime.time.fraction = 0)
    (whole : 3600 ∣ v.offset.seconds) (j : Journal) (faithful : j.cache.Faithful t) :
    ∃ text j', (t.format v (word ++ s ++ "yyyy-mm-dd hhh:ii:ss")).runOn j = (.ok text, j') ∧
      (((t.parse (word ++ s ++ "yyyy-mm-dd hhh:ii:ss") text).runOn j').1 = .ok v ↔
        (∀ c ∈ s.toList, isBlank c = true) ∧ v.localTime.date.year < 100 ∧
          v.localTime.time.asShown = v.localTime.time) ∧
      ∀ r, ((t.parse (word ++ s ++ "yyyy-mm-dd hhh:ii:ss") text).runOn j').1 = .ok r →
        Misread v r := by
  obtain ⟨token, writer, reader, form⟩ := formOf_hours standard short nonempty apart
  obtain ⟨clock, chained⟩ := exists_chained_clock v
  obtain ⟨written, kept⟩ := t.settles_format v (word ++ s ++ "yyyy-mm-dd hhh:ii:ss") j faithful
  have formatted : t.formatted v (word ++ s ++ "yyyy-mm-dd hhh:ii:ss") =
      .ok (String.ofList (hoursText v s.toList ('-' :: clock))) := by
    rw [Translator.formatted, form]
    exact renderNative_eq (writeItems_hours writer lower upper chained.written)
  refine ⟨String.ofList (hoursText v s.toList ('-' :: clock)),
    ((t.format v (word ++ s ++ "yyyy-mm-dd hhh:ii:ss")).runOn j).2, ?_, ?_⟩
  · rw [← formatted, ← written]
  · have cut := items_of_item? reader word.toList
      (DateLayout.nativeOf .parsing (s.toList.map .plain ++ piecesOfClock)).toList
    rw [← nativeOf_toList_cons] at cut
    rw [(t.settles_parse _ _ _ kept).1, Translator.parsed, Translator.nativeOf, form]
    simp only [bind, Except.bind]
    rcases readMoment_hours cut apart lower upper seconds whole chained.written with
      ⟨blank, r, misread, done⟩ | ⟨reason, fault, failed⟩
    · rw [done]
      refine ⟨?_, ?_⟩
      · rw [← misread.eq_iff lower]
        constructor
        · rintro ⟨⟩
          exact ⟨blank, rfl⟩
        · rintro ⟨-, rfl⟩
          rfl
      · rintro r' ⟨⟩
        exact misread
    · rw [failed]
      refine ⟨iff_of_false ?_ ?_, ?_⟩
      · rintro ⟨⟩
      · rintro ⟨blank, small, -⟩
        rcases reason with ⟨c, mem, solid⟩ | large
        · rw [blank c mem] at solid
          cases solid
        · omega
      · rintro r ⟨⟩

/-- The end of the year 42, three hours west of Greenwich. -/
def earlyYear : Moment :=
  ⟨⟨(Date.ofYmd? 42 12 31).get (by decide), (TimeOfDay.ofParts? 23 59 58 0).get (by decide)⟩,
    (UtcOffset.ofSeconds? (-10800)).get (by decide)⟩

theorem separator_blank_tab : ∀ c ∈ " \t".toList, Separator c := by
  have all : (" \t".toList.all fun c => decide (Separator c)) = true := by decide
  intro c mem
  exact of_decide_eq_true (List.all_eq_true.1 all c mem)

/-- White space and a year below 100. -/
theorem parse_format_hours_iff_earlyYear :
    Translator.standard.grammar = .standard ∧ ("zhh" = "zh" ∨ "zhh" = "zhh") ∧ " \t" ≠ "" ∧
      (∀ c ∈ " \t".toList, Separator c) ∧ 0 ≤ earlyYear.localTime.date.year ∧
      earlyYear.localTime.date.year ≤ 9999 ∧ earlyYear.localTime.time.fraction = 0 ∧
      3600 ∣ earlyYear.offset.seconds ∧
      (Journal.start .enabled).cache.Faithful .standard ∧
      ∃ text j', (Translator.standard.format earlyYear
          ("zhh" ++ " \t" ++ "yyyy-mm-dd hhh:ii:ss")).runOn (.start .enabled) = (.ok text, j') ∧
        (((Translator.standard.parse ("zhh" ++ " \t" ++ "yyyy-mm-dd hhh:ii:ss") text).runOn j').1 =
            .ok earlyYear ↔
          (∀ c ∈ " \t".toList, isBlank c = true) ∧ earlyYear.localTime.date.year < 100 ∧
            earlyYear.localTime.time.asShown = earlyYear.localTime.time) ∧
        ∀ r, ((Translator.standard.parse
          ("zhh" ++ " \t" ++ "yyyy-mm-dd hhh:ii:ss") text).runOn j').1 = .ok r →
            Misread earlyYear r :=
  ⟨rfl, .inr rfl, by decide, separator_blank_tab, by decide, by decide, rfl, by decide,
    faithful_enabled .standard,
    parse_format_hours_iff .standard rfl "zhh" " \t" (.inr rfl) (by decide) separator_blank_tab
      earlyYear (by decide) (by decide) rfl (by decide) (.start .enabled)
      (faithful_enabled .standard)⟩

/-- The second of January 2020, seven hours east of Greenwich. -/
def eastOfGreenwich : Moment :=
  ⟨⟨(Date.ofYmd? 2020 1 2).get (by decide), (TimeOfDay.ofParts? 3 4 5 0).get (by decide)⟩,
    (UtcOffset.ofSeconds? 25200).get (by decide)⟩

/-- A year of four digits behind hours is not read back: it becomes the year 20, and twenty
minutes are added to the offset. -/
theorem parse_format_hours_eastOfGreenwich :
    ((Translator.standard.format eastOfGreenwich "zh yyyy-mm-dd hhh:ii:ss").runOn
        (.start .enabled)).1 = .ok "+07 2020-01-02 03:04:05" ∧
      ((Translator.standard.parse "zh yyyy-mm-dd hhh:ii:ss" "+07 2020-01-02 03:04:05").runOn
        (.start .enabled)).1 = .ok ⟨⟨⟨20, 1, 2, by decide, by decide⟩,
          ⟨3, 4, 5, 0, by decide, by decide, by decide, by decide⟩⟩,
          ⟨26400, by decide, by decide⟩⟩ ∧
      ((Translator.standard.parse "zh yyyy-mm-dd hhh:ii:ss" "+07 2020-01-02 03:04:05").runOn
        (.start .enabled)).1 ≠ .ok eastOfGreenwich := by
  have faithful := faithful_enabled .standard
  have writer : Translator.standard.formOf "zh yyyy-mm-dd hhh:ii:ss" .formatting =
      .ok (.literal "%:::z %Y-%m-%d %H:%M:%S") := eq_ok_of_toOption (by decide +kernel)
  have reader : Translator.standard.nativeOf "zh yyyy-mm-dd hhh:ii:ss" =
      .ok "%#z %Y-%m-%d %H:%M:%S" := eq_ok_of_toOption (by decide +kernel)
  have written : items "%:::z %Y-%m-%d %H:%M:%S".toList =
      .offset .hours :: .blank [' '] :: .number .year .zero :: clockItems := by
    rw [← itemsWithin_eq (Nat.le_refl _)]
    decide +kernel
  have read : items "%#z %Y-%m-%d %H:%M:%S".toList =
      .offset .anyLength :: .blank [' '] :: .number .year .zero :: clockItems := by
    rw [← itemsWithin_eq (Nat.le_refl _)]
    decide +kernel
  rw [(Translator.settles_format .standard _ _ (.start .enabled) faithful).1,
    Translator.formatted, writer,
    (Translator.settles_parse .standard _ _ (.start .enabled) faithful).1, Translator.parsed,
    reader]
  refine ⟨?_, ?_, ?_⟩
  · have text : writeItems (items "%:::z %Y-%m-%d %H:%M:%S".toList) eastOfGreenwich.stamp =
        some "+07 2020-01-02 03:04:05".toList := by
      rw [written]
      decide +kernel
    have rendered := renderNative_eq text
    rw [String.ofList_toList] at rendered
    exact rendered
  · simp only [bind, Except.bind, Reader.readMoment, Reader.readFields, Strftime.read, read]
    rfl
  · simp only [bind, Except.bind, Reader.readMoment, Reader.readFields, Strftime.read, read]
    rintro ⟨⟩

end DateLayout
