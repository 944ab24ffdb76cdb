import DateLayout.Proofs.Reader.Settings
import DateLayout.Translator

/-!
# Reading in a zone

Reading in a zone resolves the fields of a text in its own way: without an offset it looks for the
periods of the zone that the local time fits. It is the same reader all the same. Whether the
fields have an offset can be told from the layout alone (`isSome_offset_of_readFields`): each item
for an offset sets it or fails, and no other item or default touches it. Six specifiers have such
an item (`isOffset_specifier_iff`). With an offset the zone only decides how the moment is shown.
Without one UTC has a single period, and a local time that was resolved is never outside of the
instants that can be read (`instantInRange_of_inRange`), so the second attempt that a zone gets
never happens.
-/

namespace DateLayout

open DateLayout.Calendar DateLayout.Strftime

namespace Strftime

/-- Whether a native layout has a specifier that reads an offset. -/
def readsOffset (native : String) : Bool :=
  (items native.toList).any Item.isOffset

/-! ## The specifiers for an offset -/

/-- The specifiers that read an offset. The last one is a whole date and time. -/
def offsetSpecifiers : List String :=
  ["%z", "%:z", "%::z", "%:::z", "%#z", "%+"]

theorem letter_of_isOffset {c : Char} (h : (letterItems c).any Item.isOffset = true) :
    c = 'z' ∨ c = '+' := by
  unfold letterItems at h
  split at h <;> first | exact .inl rfl | exact .inr rfl | cases h

theorem isOffset_paddedItems (padding : Text.Padding) (c : Char) :
    (paddedItems padding c).any Item.isOffset = false := by
  unfold paddedItems
  split <;> rfl

/-- A percent sign begins an item for an offset if and only if it begins one of these specifiers. -/
theorem isOffset_specifier_iff (cs : List Char) :
    (specifier cs).1.any Item.isOffset = true ↔
      ∃ s ∈ offsetSpecifiers, s.toList <+: '%' :: cs := by
  constructor
  · intro h
    unfold specifier at h
    split at h
    case h_1 | h_2 | h_3 =>
      rw [isOffset_paddedItems] at h
      cases h
    case h_4 rest => exact ⟨"%#z", by decide, rest, rfl⟩
    case h_5 rest => exact ⟨"%:z", by decide, rest, rfl⟩
    case h_6 rest => exact ⟨"%::z", by decide, rest, rfl⟩
    case h_7 rest => exact ⟨"%:::z", by decide, rest, rfl⟩
    case h_15 c rest _ _ _ _ _ _ _ _ _ _ _ _ _ _ =>
      rcases letter_of_isOffset h with rfl | rfl
      · exact ⟨"%z", by decide, rest, rfl⟩
      · exact ⟨"%+", by decide, rest, rfl⟩
    all_goals cases h
  · rintro ⟨s, mem, rest, whole⟩
    simp only [offsetSpecifiers, List.mem_cons, List.not_mem_nil, or_false] at mem
    rcases mem with rfl | rfl | rfl | rfl | rfl | rfl
    all_goals
      obtain rfl := List.tail_eq_of_cons_eq whole
      rfl

/-! ## Offsets among the fields -/

def Entry.isOffset : Entry → Bool
  | .offset _ => true
  | _ => false

variable {f g : Fields} {i : Item} {entry : Entry} {cs : List Char} {native text : String}

/-- An item for an offset comes to nothing else, and no other item does. -/
theorem Item.Gives.isOffset_eq (h : i.Gives entry) : entry.isOffset = i.isOffset := by
  cases i with
  | literal | blank | timeMark | zoneName =>
      obtain rfl := h
      rfl
  | number | monthName | weekdayName | weekdayNumber | meridiem | bareFraction =>
      obtain ⟨_, rfl⟩ := h
      rfl
  | fraction | fixedFraction =>
      obtain rfl | ⟨n, rfl⟩ := h
      · rfl
      · rfl
  | offset form =>
      obtain ⟨seconds, rfl, -⟩ := h
      rfl
  | unknown => exact h.elim

/-- Entering an entry leaves the offset alone, or sets it. -/
theorem Fields.isSome_offset_enter (done : f.enter entry = .ok g) :
    g.offset.isSome = (f.offset.isSome || entry.isOffset) := by
  cases entry with
  | nothing =>
      cases done
      exact (Bool.or_false _).symm
  | number field n =>
      rw [(setNumber_keeps done).1]
      exact (Bool.or_false _).symm
  | weekday | meridiem =>
      obtain ⟨value, -, done⟩ := exists_of_bind_ok done
      cases done
      exact (Bool.or_false _).symm
  | offset seconds =>
      obtain ⟨offset, set, done⟩ := exists_of_bind_ok done
      obtain rfl := settle_eq_ok set
      cases done
      exact (Bool.or_true _).symm

theorem Fields.isSome_offset_readItems {is : List Item} (done : readItems is f cs = .ok g) :
    g.offset.isSome = (f.offset.isSome || is.any Item.isOffset) :=
  known_readItems isSome_offset_enter (fun given => given.isOffset_eq) done

/-- Fields that were read have an offset if and only if the layout reads one. -/
theorem isSome_offset_of_readFields (h : Reader.readFields native text = .ok f) :
    f.offset.isSome = readsOffset native := by
  obtain ⟨f₀, read, completed⟩ := exists_of_bind_ok h
  rw [Fields.fillDefaults_eq] at completed
  cases completed
  exact Fields.isSome_offset_readItems read

/-! ## Local times that were resolved -/

theorem instantInRange_of_inRange {l : LocalDateTime} (h : l.date.inRange = true) :
    instantInRange (Moment.mk l .zero).instant = true := by
  rw [Date.inRange, Bool.and_eq_true, decide_eq_true_eq, decide_eq_true_eq] at h
  obtain ⟨first, last⟩ := h
  have begins : daysBeforeYear firstYear ≤ daysBeforeYear l.date.year := by
    unfold daysBeforeYear
    omega
  have ends : daysBeforeYear (l.date.year + 1) ≤ daysBeforeYear (lastYear + 1) := by
    unfold daysBeforeYear
    omega
  rw [daysBeforeYear_succ] at ends
  have day_pos := l.date.dayOfYear_pos
  have day_le := l.date.dayOfYear_le
  have time : l.time.secondOfDay < 86400 := l.time.secondOfDay_lt
  have instant : (Moment.mk l .zero).instant =
      (daysBeforeYear l.date.year + l.date.dayOfYear - 719163) * 86400 + l.time.secondOfDay - 0 :=
    rfl
  rw [instantInRange, instant, Bool.and_eq_true, decide_eq_true_eq, decide_eq_true_eq]
  omega

/-- In UTC a local time is one moment. -/
theorem momentsAt_utc {l : LocalDateTime} (h : l.date.inRange = true) :
    Reader.momentsAt .utc l = [⟨⟨l, .zero⟩, "UTC"⟩] := by
  have single : (Zone.utc.fitting l).take 2 = [⟨.zero, "UTC"⟩] := rfl
  rw [Reader.momentsAt, single]
  simp only [List.map_cons, List.map_nil, List.all_cons, List.all_nil, Bool.and_true]
  exact if_pos (instantInRange_of_inRange h)

theorem resolveMoment_zero {l : LocalDateTime} (h : f.resolveLocal 0 = .ok l) :
    f.resolveMoment 0 = .ok ⟨l, .zero⟩ := by
  obtain ⟨g, -, date, -⟩ := Fields.exists_of_resolveLocal h
  have zero : UtcOffset.ofSeconds? 0 = some .zero := rfl
  rw [Fields.resolveMoment, h]
  simp only [bind, Except.bind, zero]
  exact if_pos (instantInRange_of_inRange (g.inRange_of_resolveDate date))

end Strftime

/-! ## The two readers -/

namespace Reader

variable {native text : String}

theorem readMomentIn_of_offset (h : readsOffset native = true) (z : Zone) :
    readMomentIn native text z = (readMoment native text).map fun m => m.inZone z := by
  rw [readMomentIn, readMoment]
  cases fields : readFields native text with
  | error fault => rfl
  | ok f =>
      have some_offset := isSome_offset_of_readFields fields
      rw [h] at some_offset
      obtain ⟨offset, shown⟩ := Option.isSome_iff_exists.1 some_offset
      simp only [bind, Except.bind, shown, Option.getD_some]
      cases f.resolveMoment offset <;> rfl

theorem readMomentIn_utc (h : readsOffset native = false) :
    readMomentIn native text .utc = (readMoment native text).map fun m => ⟨m, "UTC"⟩ := by
  rw [readMomentIn, readMoment]
  cases fields : readFields native text with
  | error fault => rfl
  | ok f =>
      have no_offset := isSome_offset_of_readFields fields
      rw [h, Option.isSome_eq_false_iff, Option.isNone_iff_eq_none] at no_offset
      simp only [bind, Except.bind, no_offset, Option.getD_none, resolveIn]
      cases resolved : f.resolveLocal 0 with
      | error fault =>
          rw [Fields.resolveMoment, resolved]
          rfl
      | ok l =>
          obtain ⟨g, -, date, -⟩ := Fields.exists_of_resolveLocal resolved
          simp only [momentsAt_utc (g.inRange_of_resolveDate date), resolveMoment_zero resolved]
          rfl

variable {f : Fields} {z : Zone} {l : LocalDateTime}

theorem resolveIn_of_moment {m : ZonedMoment} {others : List ZonedMoment}
    (resolved : f.resolveLocal 0 = .ok l) (first : momentsAt z l = m :: others) :
    resolveIn z f = .ok m := by
  rw [resolveIn, resolved]
  simp only [bind, Except.bind, first]

theorem readMomentIn_of_no_offset (fields : readFields native text = .ok f)
    (no_offset : f.offset = none) (z : Zone) : readMomentIn native text z = resolveIn z f := by
  rw [readMomentIn, fields]
  simp only [bind, Except.bind, no_offset]

/-- Without a timestamp the second attempt comes to the same local time. -/
theorem resolveIn_of_no_moment (timestamp : f.timestamp = none)
    (resolved : f.resolveLocal 0 = .ok l) (none : momentsAt z l = []) :
    resolveIn z f = .error .impossible := by
  have skipped : resolveSkipped z f = .error .impossible := by
    rw [resolveSkipped, offsetAtTimestamp, timestamp]
    simp only [bind, Except.bind, resolved, none]
  rw [resolveIn, resolved]
  simp only [bind, Except.bind, none, skipped]

end Reader

namespace Translator

/-- A layout is read with the native layout that it is translated to, and not at all if it comes to
anything else. -/
theorem result_nativeForParsing (t : Translator) (layout : String) (j : Journal) :
    ((t.nativeForParsing layout).runOn j).1 =
      match ((t.translate layout .parsing).runOn j).1 with
      | .ok (.literal native) => .ok native
      | .ok (.segments _) => .error (t.ordinalError layout)
      | .error e => .error e := by
  rw [nativeForParsing, Operation.runOn_bind]
  rcases (t.translate layout .parsing).runOn j with ⟨(_ | _ | _), _⟩ <;> rfl

theorem result_parse (t : Translator) (layout text : String) (j : Journal) :
    ((t.parse layout text).runOn j).1 = ((t.nativeForParsing layout).runOn j).1.bind fun native =>
      (Reader.readMoment native text).mapError (.notReadable native text) := by
  rw [parse, Operation.runOn_bind_ofExcept]

theorem result_parseIn (t : Translator) (layout text : String) (zone : Zone) (j : Journal) :
    ((t.parseIn layout text zone).runOn j).1 =
      ((t.nativeForParsing layout).runOn j).1.bind fun native =>
        (Reader.readMomentIn native text zone).mapError (.notReadable native text) := by
  rw [parseIn, Operation.runOn_bind_ofExcept]

end Translator

/-- Reading with and without a zone is the same, on every journal. Where the layout reads an
offset the zone decides how the moment is shown, and nothing else; where it reads none, reading in
UTC gives the moment itself. The errors are the same in either case, and also where the layout is
not one that can be read. -/
theorem parseIn_eq_parse (t : Translator) (j : Journal) (layout text : String) :
    (∀ native, ((t.translate layout .parsing).runOn j).1 = .ok (.literal native) →
      (readsOffset native = true → ∀ zone,
        ((t.parseIn layout text zone).runOn j).1 =
          ((t.parse layout text).runOn j).1.map fun m => m.inZone zone) ∧
      (readsOffset native = false →
        ((t.parseIn layout text .utc).runOn j).1 =
          ((t.parse layout text).runOn j).1.map fun m => ⟨m, "UTC"⟩)) ∧
    ((∀ native, ((t.translate layout .parsing).runOn j).1 ≠ .ok (.literal native)) →
      ∃ e, ((t.parse layout text).runOn j).1 = .error e ∧
        ∀ zone, ((t.parseIn layout text zone).runOn j).1 = .error e) ∧
    ∀ (m : Moment) (zone : Zone), (m.inZone zone).instant = m.instant := by
  refine ⟨?_, ?_, ?_⟩
  · intro native translated
    simp only [Translator.result_parse, Translator.result_parseIn,
      Translator.result_nativeForParsing, translated, Except.bind]
    refine ⟨?_, ?_⟩
    · intro reads zone
      rw [Reader.readMomentIn_of_offset reads]
      cases Reader.readMoment native text <;> rfl
    · intro reads
      rw [Reader.readMomentIn_utc reads]
      cases Reader.readMoment native text <;> rfl
  · intro refused
    have fails : ∃ e, ((t.nativeForParsing layout).runOn j).1 = .error e := by
      rw [Translator.result_nativeForParsing]
      rcases form : ((t.translate layout .parsing).runOn j).1 with e | native | parts
      · exact ⟨e, rfl⟩
      · exact absurd form (refused native)
      · exact ⟨t.ordinalError layout, rfl⟩
    obtain ⟨e, failed⟩ := fails
    refine ⟨e, ?_, ?_⟩
    · rw [Translator.result_parse, failed]
      rfl
    · intro zone
      rw [Translator.result_parseIn, failed]
      rfl
  · intro m zone
    exact m.instant_withOffset _

/-- A layout with an offset, and one with the name of a zone, which is no offset. -/
theorem parseIn_eq_parse_named :
    ((Translator.standard.translate "%d %b %y %H:%M %z" .parsing).runOn (.start .enabled)).1 =
        .ok (.literal "%d %b %y %H:%M %z") ∧
      readsOffset "%d %b %y %H:%M %z" = true ∧
      (∀ zone,
        ((Translator.standard.parseIn "%d %b %y %H:%M %z" "29 Feb 24 23:30 -0500" zone).runOn
            (.start .enabled)).1 =
          ((Translator.standard.parse "%d %b %y %H:%M %z" "29 Feb 24 23:30 -0500").runOn
            (.start .enabled)).1.map fun m => m.inZone zone) ∧
      ((Translator.standard.translate "%d %b %y %H:%M %Z" .parsing).runOn (.start .enabled)).1 =
        .ok (.literal "%d %b %y %H:%M %Z") ∧
      readsOffset "%d %b %y %H:%M %Z" = false ∧
      ((Translator.standard.parseIn "%d %b %y %H:%M %Z" "29 Feb 24 23:30 EST" .utc).runOn
          (.start .enabled)).1 =
        ((Translator.standard.parse "%d %b %y %H:%M %Z" "29 Feb 24 23:30 EST").runOn
          (.start .enabled)).1.map fun m => ⟨m, "UTC"⟩ := by
  have translated : ((Translator.standard.translate "%d %b %y %H:%M %z" .parsing).runOn
      (.start .enabled)).1 = .ok (.literal "%d %b %y %H:%M %z") := rfl
  have reads : readsOffset "%d %b %y %H:%M %z" = true := by
    rw [readsOffset, ← itemsWithin_eq (Nat.le_refl _)]
    decide +kernel
  have translated' : ((Translator.standard.translate "%d %b %y %H:%M %Z" .parsing).runOn
      (.start .enabled)).1 = .ok (.literal "%d %b %y %H:%M %Z") := rfl
  have reads' : readsOffset "%d %b %y %H:%M %Z" = false := by
    rw [readsOffset, ← itemsWithin_eq (Nat.le_refl _)]
    decide +kernel
  exact ⟨translated, reads, ((parseIn_eq_parse _ _ _ _).1 _ translated).1 reads,
    translated', reads', ((parseIn_eq_parse _ _ _ _).1 _ translated').2 reads'⟩

def hoursWord : Token :=
  .native "q" "%:::z"

theorem text_ne_empty_of_hoursWord :
    ∀ cls ∈ [TokenClass.ofTokens 'q' [hoursWord]], ∀ t ∈ cls.tokens, t.text ≠ "" := by
  decide

/-- A language whose only word stands for an offset in hours, in both modes. -/
def hoursGrammar : Grammar where
  classes := [.ofTokens 'q' [hoursWord]]
  escape := '\\'
  text_ne_empty := text_ne_empty_of_hoursWord

theorem translate_hoursWord :
    hoursGrammar.translate "q" .parsing = .ok (.literal "%:::z") := by
  have picked : hoursGrammar.tokenAt? ['q'] = some hoursWord := by decide
  have reads : hoursGrammar.Reads "q".toList [.token hoursWord ['q']] :=
    .token (by decide) (Grammar.tokenAt?_eq_some_iff.1 picked) rfl rfl .done
  exact Grammar.translate_literal reads rfl

theorem items_hours : items "%:::z".toList = [.offset .hours] := by
  rw [← itemsWithin_eq (Nat.le_refl _)]
  decide

/-- The specifier for hours reads an offset like the other ones. So a layout may be without those,
and reading in UTC gives another local time all the same. -/
theorem parseIn_ne_parse_hours :
    ((Translator.translate ⟨hoursGrammar, 2⟩ "q" .parsing).runOn (.start .enabled)).1 =
        .ok (.literal "%:::z") ∧
      (∀ form, .offset form ∈ items "%:::z".toList →
        form ≠ .plain ∧ form ≠ .colon ∧ form ≠ .anyLength) ∧
      ((Translator.parse ⟨hoursGrammar, 2⟩ "q" "+07:00").runOn (.start .enabled)).1 =
        .ok ⟨⟨⟨0, 1, 1, by decide, by decide⟩, .midnight⟩, ⟨25200, by decide, by decide⟩⟩ ∧
      ((Translator.parseIn ⟨hoursGrammar, 2⟩ "q" "+07:00" .utc).runOn (.start .enabled)).1 =
        .ok ⟨⟨LocalDateTime.mk ⟨-1, 12, 31, by decide, by decide⟩
          ⟨17, 0, 0, 0, by decide, by decide, by decide, by decide⟩, .zero⟩, "UTC"⟩ := by
  have unknown : WellKnown.find? "q" 2 = none := by decide
  have translated : ((Translator.translate ⟨hoursGrammar, 2⟩ "q" .parsing).runOn
      (.start .enabled)).1 = .ok (.literal "%:::z") := by
    rw [Translator.runOn_translate, unknown]
    simp only [Journal.start, Cache.get?_enabled, translate_hoursWord]
  refine ⟨translated, ?_, ?_, ?_⟩
  · rw [items_hours]
    rintro form mem
    cases List.mem_singleton.1 mem
    decide
  · rw [Translator.result_parse, Translator.result_nativeForParsing, translated]
    simp only [Except.bind, Reader.readMoment, Reader.readFields, Strftime.read, items_hours]
    rfl
  · rw [Translator.result_parseIn, Translator.result_nativeForParsing, translated]
    simp only [Except.bind, Reader.readMomentIn, Reader.readFields, Strftime.read, items_hours]
    rfl

end DateLayout
