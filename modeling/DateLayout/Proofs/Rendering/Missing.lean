import DateLayout.Proofs.Rendering.Layouts
import DateLayout.Proofs.WellKnown.Items

/-!
# What formatting fails for

A date has no time of day, and neither a date nor a local time has an offset. These are the only
reasons for which a value cannot be written with a layout of the standard language: every item of
its native layouts has a meaning and can be written, so that an item writes nothing only where the
value is without the part that the item takes its text from (`Item.isNone_write`).

Which parts a native layout asks for is seen in its tokens. Since native layouts are written from
left to right, the error names the first one with such a token
(`Translator.settles_failsWithout`).
-/

namespace DateLayout

open DateLayout.Calendar DateLayout.Strftime DateLayout.Text

namespace Strftime

/-- A part of a stamp that may be missing. -/
inductive StampPart where
  | time
  | zone
deriving DecidableEq, Repr

def Stamp.lacks (s : Stamp) : StampPart → Bool
  | .time => s.time.isNone
  | .zone => s.zone.isNone

def NumberField.part? : NumberField → Option StampPart
  | .hour | .hourOfHalfDay | .minute | .second | .nanosecond | .timestamp => some .time
  | .year | .century | .yearOfCentury | .month | .day | .dayOfYear | .quarter | .isoYear
  | .isoYearOfCentury | .isoWeek | .weekFromSunday | .weekFromMonday => none

/-- The part that an item takes its text from, other than the date. -/
def Item.part? : Item → Option StampPart
  | .number field _ => field.part?
  | .meridiem _ | .fraction | .fixedFraction _ | .bareFraction _ => some .time
  | .offset _ | .zoneName => some .zone
  | .literal _ | .blank _ | .monthName _ | .weekdayName _ | .weekdayNumber _ | .timeMark
  | .unknown => none

variable {i : Item} {is : List Item} {native : String}

/-- Items that have a meaning, and one for writing. -/
def Writable (is : List Item) : Prop :=
  ∀ i ∈ is, i ≠ .unknown ∧ i ≠ .offset .anyLength

theorem part?_of_isText (text : i.isText = true) : i.part? = none := by
  obtain ⟨cs, rfl⟩ | ⟨cs, rfl⟩ := exists_of_isText text
  · rfl
  · rfl

theorem Item.isNone_write (known : i ≠ .unknown) (written : i ≠ .offset .anyLength) (s : Stamp) :
    (i.write s).isNone = i.part?.any s.lacks := by
  cases i with
  | literal | blank | monthName | weekdayName | weekdayNumber | timeMark => rfl
  | number field padding =>
      cases field with
      | hour | hourOfHalfDay | minute | second | nanosecond | timestamp => exact Option.isNone_map
      | _ => rfl
  | meridiem | fraction | fixedFraction | bareFraction => exact Option.isNone_map
  | zoneName => exact Option.isNone_map
  | offset form =>
      cases form with
      | plain | colon | seconds | hours | colonOrUtc =>
          cases hz : s.zone <;> simp [Item.write, part?, Stamp.lacks, hz, OffsetForm.write]
      | anyLength => exact absurd rfl written
  | unknown => exact absurd rfl known

theorem isNone_writeItems (is : List Item) (s : Stamp) :
    (writeItems is s).isNone = is.any fun i => (i.write s).isNone := by
  induction is with
  | nil => rfl
  | cons i is ih =>
      rw [List.any_cons, ← ih, writeItems]
      cases i.write s with
      | none => rfl
      | some first =>
          cases writeItems is s with
          | none => rfl
          | some others => rfl

/-- A layout that can be written at all is not written if and only if it asks for a part that is
missing. -/
theorem isNone_write (h : Writable (items native.toList)) (s : Stamp) :
    (Strftime.write native s).isNone = true ↔
      ∃ part, s.lacks part = true ∧ ∃ i ∈ items native.toList, i.part? = some part := by
  rw [Strftime.write, Option.isNone_map, isNone_writeItems, List.any_eq_true]
  constructor
  · rintro ⟨i, mem, fails⟩
    rw [Item.isNone_write (h i mem).1 (h i mem).2, Option.any_eq_true] at fails
    obtain ⟨part, asks, missing⟩ := fails
    exact ⟨part, missing, i, mem, asks⟩
  · rintro ⟨part, missing, i, mem, asks⟩
    refine ⟨i, mem, ?_⟩
    rw [Item.isNone_write (h i mem).1 (h i mem).2, asks]
    exact missing

end Strftime

/-! ## The tokens that ask for a part -/

/-- The tokens for the time of day and for the zone. -/
def Strftime.StampPart.names : StampPart → List String
  | .time => ["hhh", "hh", "h", "aa", "a", "ii", "i", "ss", "s"] ++ fractionNames
  | .zone => ["zzzz", "zzz", "zz", "z", "zhh", "zh"]

theorem table_part : ∀ part : StampPart, Table part.names fun i => i.part? = some part := by
  intro part
  cases part <;> decide

theorem table_anyLength : Table [] fun i => i = .offset .anyLength := by decide

/-- An ordinal asks for nothing but the date. -/
theorem ordinal?_of_named : ∀ t ∈ Grammar.standard.tokens, ∀ part : StampPart,
    part.names.contains t.text = true → t.ordinal? = none := by
  intro t mem part
  cases part <;> revert t <;> decide

variable {ps : List Piece}

theorem writable_nativeOf (known : Known ps) (native : ∀ p ∈ ps, p.ordinal? = none) :
    Writable (items (nativeOf .formatting ps).toList) := by
  have any := any_items_eq_shows .formatting table_anyLength nofun (ne_of_isText rfl) known native
  rw [shows_nil, List.any_eq_false] at any
  intro i mem
  refine ⟨?_, ?_⟩
  · rintro rfl
    exact unknown_not_mem_items known .formatting mem
  · rintro rfl
    exact any _ mem (decide_eq_true rfl)

theorem exists_part_iff_shows (known : Known ps) (native : ∀ p ∈ ps, p.ordinal? = none)
    (part : StampPart) :
    (∃ i ∈ items (nativeOf .formatting ps).toList, i.part? = some part) ↔
      shows part.names ps = true := by
  have date : ∀ i : Item, i.isText = true → decide (i.part? = some part) = false := by
    intro i text
    rw [part?_of_isText text]
    rfl
  rw [← any_items_eq_shows .formatting (table_part part) nofun date known native, List.any_eq_true]
  simp only [decide_eq_true_eq]

/-- Tokens for a part stand between ordinals. -/
theorem shows_iff_exists_group (known : Known ps) (part : StampPart) :
    shows part.names ps = true ↔ ∃ group ∈ groupsOf ps, shows part.names group = true := by
  simp only [shows, List.any_eq_true]
  constructor
  · rintro ⟨p, mem, named⟩
    have native : p.ordinal? = none := by
      cases p with
      | token t spelling => exact ordinal?_of_named t (known t spelling mem) part named
      | escaped | lastEscape | plain => cases named
    obtain ⟨group, among, here⟩ := exists_mem_groupsOf_iff.2 ⟨mem, native⟩
    exact ⟨group, among, p, here, named⟩
  · rintro ⟨group, among, p, here, named⟩
    exact ⟨p, (exists_mem_groupsOf_iff.1 ⟨group, among, here⟩).1, named⟩

/-! ## Failures -/

namespace Translator

/-- Whether a layout asks for a part: with a specifier of a well known layout, or with a token. -/
def Asks (t : Translator) (layout : String) (part : StampPart) : Prop :=
  match WellKnown.find? layout t.tier with
  | some known => ∃ i ∈ items known.native.toList, i.part? = some part
  | none => ∃ ps, t.grammar.Reads layout.toList ps ∧ shows part.names ps = true

/-- The first native layout of a layout that asks for one of some parts. A well known layout is
the only one; else it is the one in the place of the first pieces between ordinals that have a
token for such a part. -/
def AsksFirst (t : Translator) (layout : String) (parts : List StampPart) (native : String) :
    Prop :=
  match WellKnown.find? layout t.tier with
  | some known => native = known.native
  | none =>
      ∃ ps form before group after, t.grammar.Reads layout.toList ps ∧
        t.grammar.translate layout .formatting = .ok form ∧
        groupsOf ps = before ++ group :: after ∧
        (∀ earlier ∈ before, ∀ part ∈ parts, shows part.names earlier = false) ∧
        (∃ part ∈ parts, shows part.names group = true) ∧
        form.natives[before.length]? = some native

/-- Formatting a value without the given parts fails for those layouts that ask for one of them,
and at the first place where they do. -/
structure FailsWithout (t : Translator) (layout : String) (parts : List StampPart)
    (result : Except LayoutError String) : Prop where
  error_iff : (∃ e, result = .error e) ↔ ∃ part ∈ parts, t.Asks layout part
  native : ∀ e, result = .error e →
    ∃ native, e = .notWritable native ∧ t.AsksFirst layout parts native

variable {t : Translator} {layout : String} {parts : List StampPart}
variable {α : Type} [Timestamp α] [Stamped α]

theorem failsWithout_known {known : WellKnown} (found : WellKnown.find? layout t.tier = some known)
    (v : α) (lacks : ∀ part, (Stamped.stamp v).lacks part = true ↔ part ∈ parts) :
    t.FailsWithout layout parts (t.formatted v layout) := by
  have rendered : t.formatted v layout = renderNative known.native v := by
    rw [formatted, formOf, found]
    rfl
  have asks := isNone_write (WellKnown.writable_of_mem (WellKnown.mem_of_find? found))
    (Stamped.stamp v)
  rw [← writtenText?_eq] at asks
  have here : (∃ part ∈ parts, t.Asks layout part) ↔
      (writtenText? v known.native).isNone = true := by
    simp only [asks, Asks, found, lacks]
  rw [rendered]
  cases written : writtenText? v known.native with
  | none =>
      rw [renderNative_of_not_written written]
      rw [written] at here
      refine ⟨⟨fun _ => here.2 rfl, fun _ => ⟨_, rfl⟩⟩, ?_⟩
      rintro e ⟨⟩
      refine ⟨known.native, rfl, ?_⟩
      simp only [AsksFirst, found]
  | some text =>
      rw [renderNative_of_written written]
      rw [written] at here
      refine ⟨⟨?_, ?_⟩, ?_⟩
      · rintro ⟨e, ⟨⟩⟩
      · intro missing
        cases here.1 missing
      · rintro e ⟨⟩

/-- The native layout of pieces between ordinals is not written if and only if they have a token
for a part that is missing. -/
theorem isNone_writtenText?_group (known : Known ps) {group : List Piece}
    (mem : group ∈ groupsOf ps) (v : α)
    (lacks : ∀ part, (Stamped.stamp v).lacks part = true ↔ part ∈ parts) :
    (writtenText? v (DateLayout.nativeOf .formatting group)).isNone = true ↔
      ∃ part ∈ parts, shows part.names group = true := by
  have native := native_of_mem_groupsOf mem
  have among := known.group mem
  rw [writtenText?_eq, isNone_write (writable_nativeOf among native)]
  simp only [lacks, exists_part_iff_shows among native]

theorem failsWithout_pieces (reads : t.grammar.Reads layout.toList ps) (known : Known ps)
    (unknown : WellKnown.find? layout t.tier = none) (v : α)
    (lacks : ∀ part, (Stamped.stamp v).lacks part = true ↔ part ∈ parts) :
    t.FailsWithout layout parts (t.formatted v layout) := by
  have asks : (∃ part ∈ parts, t.Asks layout part) ↔
      ∃ group ∈ groupsOf ps, ∃ part ∈ parts, shows part.names group = true := by
    simp only [Asks, unknown]
    constructor
    · rintro ⟨part, missing, qs, reads', here⟩
      obtain rfl := reads'.unique reads
      obtain ⟨group, among, named⟩ := (shows_iff_exists_group known part).1 here
      exact ⟨group, among, part, missing, named⟩
    · rintro ⟨group, among, part, missing, named⟩
      exact ⟨part, missing, ps, reads, (shows_iff_exists_group known part).2 ⟨group, among, named⟩⟩
  obtain ⟨fails, writes⟩ := rendered_of_find? v ps
  rw [formatted_eq_rendered v reads unknown]
  rw [nativesOf, List.find?_map] at fails writes
  cases found : (groupsOf ps).find?
      ((fun native => (writtenText? v native).isNone) ∘ DateLayout.nativeOf .formatting) with
  | none =>
      rw [found] at writes
      obtain ⟨text, done⟩ := writes rfl
      rw [done]
      refine ⟨⟨?_, ?_⟩, ?_⟩
      · rintro ⟨e, ⟨⟩⟩
      · intro missing
        obtain ⟨group, among, named⟩ := asks.1 missing
        exact absurd ((isNone_writtenText?_group known among v lacks).2 named)
          (List.find?_eq_none.1 found group among)
      · rintro e ⟨⟩
  | some group =>
      rw [found] at fails
      rw [fails _ rfl]
      obtain ⟨first, before, after, whole, earlier⟩ := List.find?_eq_some_iff_append.1 found
      have among : group ∈ groupsOf ps := by
        rw [whole]
        exact List.mem_append_right before (List.mem_cons_self ..)
      have named := (isNone_writtenText?_group known among v lacks).1 first
      refine ⟨⟨fun _ => asks.2 ⟨group, among, named⟩, fun _ => ⟨_, rfl⟩⟩, ?_⟩
      rintro e ⟨⟩
      refine ⟨_, rfl, ?_⟩
      obtain ⟨form, translated⟩ := t.grammar.exists_translate_formatting layout
      simp only [AsksFirst, unknown]
      refine ⟨ps, form, before, group, after, reads, translated, whole, ?_, named, ?_⟩
      · intro other mem part missing
        have among' : other ∈ groupsOf ps := by
          rw [whole]
          exact List.mem_append_left _ mem
        have written := earlier other mem
        rw [Bool.not_eq_true'] at written
        rw [← Bool.not_eq_true]
        intro named'
        have none := (isNone_writtenText?_group known among' v lacks).2 ⟨part, missing, named'⟩
        rw [Function.comp_apply, none] at written
        cases written
      · have made : t.formOf layout .formatting = .ok form := by
          rw [formOf, unknown]
          exact translated
        have natives := natives_of_formOf reads unknown made
        rw [natives, whole, List.map_append, List.map_cons,
          List.getElem?_append_right (Nat.le_of_eq (List.length_map _)), List.length_map,
          Nat.sub_self]
        rfl

/-- The parts that a value lacks decide for which layouts formatting fails, and where. -/
theorem settles_failsWithout (standard : t.grammar = .standard) {j : Journal}
    (faithful : j.cache.Faithful t) (layout : String) (v : α)
    (lacks : ∀ part, (Stamped.stamp v).lacks part = true ↔ part ∈ parts) :
    t.FailsWithout layout parts ((t.format v layout).runOn j).1 := by
  rw [(t.settles_format v layout j faithful).1]
  cases found : WellKnown.find? layout t.tier with
  | some known => exact failsWithout_known found v lacks
  | none =>
      obtain ⟨ps, reads⟩ := Grammar.standard.exists_reads layout.toList
      exact failsWithout_pieces (by rwa [standard]) reads.known found v lacks

theorem exists_text_of_failsWithout {result : Except LayoutError String}
    (h : t.FailsWithout layout [] result) : ∃ text, result = .ok text := by
  cases result with
  | ok text => exact ⟨text, rfl⟩
  | error e =>
      obtain ⟨part, none, -⟩ := h.error_iff.1 ⟨e, rfl⟩
      cases none

theorem exists_formatted_moment (t : Translator) (standard : t.grammar = .standard)
    (layout : String) (m : Moment) : ∃ text, t.formatted m layout = .ok text := by
  have lacks : ∀ part, (Stamped.stamp m).lacks part = true ↔ part ∈ [] := by
    intro part
    cases part <;> exact iff_of_false Bool.false_ne_true nofun
  have settled := t.settles_format m layout (.start .disabled) (faithful_disabled t)
  rw [← settled.1]
  exact exists_text_of_failsWithout <|
    settles_failsWithout standard (faithful_disabled t) layout m lacks

end Translator

/-- Formatting fails exactly where data is missing: never for a moment, for a local time if the
layout asks for a zone, and for a date if it asks for a zone or a time of day. The error names the
first native layout that does so. -/
theorem format_fails_iff_missing (t : Translator) (standard : t.grammar = .standard)
    (layout : String) (j : Journal) (faithful : j.cache.Faithful t) :
    (∀ m : ZonedMoment, ∃ text, ((t.format m layout).runOn j).1 = .ok text) ∧
      (∀ m : Moment, ∃ text, ((t.format m layout).runOn j).1 = .ok text) ∧
      (∀ l : LocalDateTime, t.FailsWithout layout [.zone] ((t.format l layout).runOn j).1) ∧
      ∀ d : Date, t.FailsWithout layout [.time, .zone] ((t.format d layout).runOn j).1 := by
  refine ⟨?_, ?_, ?_, ?_⟩
  · intro m
    refine Translator.exists_text_of_failsWithout <|
      Translator.settles_failsWithout standard faithful layout m ?_
    intro part
    cases part <;> exact iff_of_false Bool.false_ne_true nofun
  · intro m
    refine Translator.exists_text_of_failsWithout <|
      Translator.settles_failsWithout standard faithful layout m ?_
    intro part
    cases part <;> exact iff_of_false Bool.false_ne_true nofun
  · intro l
    refine Translator.settles_failsWithout standard faithful layout l ?_
    intro part
    cases part with
    | time => exact iff_of_false Bool.false_ne_true (by decide)
    | zone => exact iff_of_true rfl (by decide)
  · intro d
    refine Translator.settles_failsWithout standard faithful layout d ?_
    intro part
    cases part <;> exact iff_of_true rfl (by decide)

/-- Two ordinals, an escaped letter and a zone. -/
theorem format_fails_iff_missing_ordinal :
    Translator.standard.grammar = .standard ∧
      (Journal.start .enabled).cache.Faithful .standard ∧
      (∀ m : ZonedMoment, ∃ text,
        ((Translator.standard.format m "mt hhh\\z dt zz").runOn (.start .enabled)).1 =
          .ok text) ∧
      (∀ m : Moment, ∃ text,
        ((Translator.standard.format m "mt hhh\\z dt zz").runOn (.start .enabled)).1 =
          .ok text) ∧
      (∀ l : LocalDateTime, Translator.standard.FailsWithout "mt hhh\\z dt zz" [.zone]
        ((Translator.standard.format l "mt hhh\\z dt zz").runOn (.start .enabled)).1) ∧
      ∀ d : Date, Translator.standard.FailsWithout "mt hhh\\z dt zz" [.time, .zone]
        ((Translator.standard.format d "mt hhh\\z dt zz").runOn (.start .enabled)).1 :=
  ⟨rfl, faithful_enabled .standard,
    format_fails_iff_missing .standard rfl _ (.start .enabled) (faithful_enabled .standard)⟩

end DateLayout
