import DateLayout.Proofs.Reader.Settings
import DateLayout.Proofs.Rendering.Missing

/-!
# Values that are written alike

An item takes its text from the date and from at most one other part of a stamp, and an ordinal
from the date alone. So two values are written alike, of whatever types they are, if they have the
date in common and each part that the layout asks for (`Translator.formatted_congr`). Only a
timestamp would be different, since it takes the time of day and the zone; no layout of the
standard language has one.

A moment and its local time differ in the zone, and a local time and its date in the time of day.
What is not asked for makes no difference (`format_eq_of_localTime`).
-/

namespace DateLayout

open DateLayout.Calendar DateLayout.Strftime DateLayout.Text

variable {native : String}

namespace Strftime

/-- Stamps have the date in common, and each of some parts. -/
structure Stamp.Agree (asked : StampPart → Prop) (s s' : Stamp) : Prop where
  date : s.date = s'.date
  time : asked .time → s.time = s'.time
  zone : asked .zone → s.zone = s'.zone

variable {asked fewer : StampPart → Prop} {s s' : Stamp} {i : Item} {is : List Item}

theorem Stamp.Agree.mono (h : s.Agree asked s') (sub : ∀ part, fewer part → asked part) :
    s.Agree fewer s' :=
  ⟨h.date, fun time => h.time (sub .time time), fun zone => h.zone (sub .zone zone)⟩

theorem NumberField.write_congr {field : NumberField} (clear : field ≠ .timestamp)
    (h : s.Agree (fun part => field.part? = some part) s') (padding : Padding) :
    field.write padding s = field.write padding s' := by
  cases field with
  | hour | hourOfHalfDay | minute | second | nanosecond =>
      simp only [NumberField.write, h.time rfl]
  | timestamp => exact absurd rfl clear
  | _ => simp only [NumberField.write, h.date]

theorem Item.write_congr (clear : i.isNumber .timestamp = false)
    (h : s.Agree (fun part => i.part? = some part) s') : i.write s = i.write s' := by
  cases i with
  | literal | blank | timeMark | unknown => rfl
  | number field padding => exact NumberField.write_congr (of_decide_eq_false clear) h padding
  | monthName | weekdayName | weekdayNumber => simp only [Item.write, h.date]
  | meridiem | fraction | fixedFraction | bareFraction => simp only [Item.write, h.time rfl]
  | offset | zoneName => simp only [Item.write, h.zone rfl]

theorem writeItems_congr (h : ∀ i ∈ is, i.write s = i.write s') :
    writeItems is s = writeItems is s' := by
  induction is with
  | nil => rfl
  | cons i is ih =>
      obtain ⟨here, rest⟩ := List.forall_mem_cons.1 h
      rw [writeItems, writeItems, here, ih rest]

/-- A native layout writes the same for stamps that agree on what its items ask for. -/
theorem write_congr (clear : (items native.toList).any (Item.isNumber .timestamp) = false)
    (h : s.Agree (fun part => ∃ i ∈ items native.toList, i.part? = some part) s') :
    Strftime.write native s = Strftime.write native s' := by
  rw [List.any_eq_false] at clear
  rw [Strftime.write, Strftime.write, writeItems_congr]
  intro i mem
  exact Item.write_congr (Bool.eq_false_iff.2 (clear i mem))
    (h.mono fun part asks => ⟨i, mem, asks⟩)

end Strftime

/-! ## Two values -/

section

variable {α β : Type} [Timestamp α] [Timestamp β] {v : α} {w : β}

theorem renderSegments_congr {ss : List Segment} (h : ∀ s ∈ ss, s.render v = s.render w) :
    renderSegments ss v = renderSegments ss w := by
  induction ss with
  | nil => rfl
  | cons s ss ih =>
      obtain ⟨here, rest⟩ := List.forall_mem_cons.1 h
      rw [renderSegments, renderSegments, here, ih rest]

variable [Stamped α] [Stamped β]

theorem renderNative_congr (h : writtenText? v native = writtenText? w native) :
    renderNative native v = renderNative native w := by
  cases written : writtenText? w native with
  | none => rw [renderNative_of_not_written written, renderNative_of_not_written (h.trans written)]
  | some text => rw [renderNative_of_written written, renderNative_of_written (h.trans written)]

theorem OrdinalKind.number_congr (date : (Stamped.stamp v).date = (Stamped.stamp w).date)
    (kind : OrdinalKind) : kind.number v = kind.number w := by
  cases kind with
  | day => rw [number, number, Stamped.day_eq, Stamped.day_eq, date]
  | month => rw [number, number, Stamped.month_eq, Stamped.month_eq, date]

/-- Values with one date are rendered alike if they are by each native layout of the form. -/
theorem NativeForm.render_congr {form : NativeForm}
    (date : (Stamped.stamp v).date = (Stamped.stamp w).date)
    (h : ∀ native ∈ form.natives, writtenText? v native = writtenText? w native) :
    form.render v = form.render w := by
  cases form with
  | literal native => exact renderNative_congr (h native (List.mem_singleton_self native))
  | segments parts =>
      refine renderSegments_congr fun s mem => ?_
      cases s with
      | literal native =>
          exact renderNative_congr (h native (List.mem_filterMap.2 ⟨_, mem, rfl⟩))
      | ordinal kind =>
          rw [Segment.render, Segment.render, OrdinalKind.number_congr date]

end

/-! ## What the native layouts of a form ask for -/

namespace Translator

variable {t : Translator} {layout : String} {form : NativeForm}

/-- A layout asks for what its native layouts ask for. -/
theorem asks_iff_natives (standard : t.grammar = .standard)
    (made : t.formOf layout .formatting = .ok form) (part : StampPart) :
    t.Asks layout part ↔
      ∃ native ∈ form.natives, ∃ i ∈ items native.toList, i.part? = some part := by
  cases found : WellKnown.find? layout t.tier with
  | some known =>
      rw [formOf, found] at made
      cases made
      simp only [Asks, found, NativeForm.natives, List.mem_singleton, exists_eq_left]
  | none =>
      obtain ⟨ps, reads⟩ := t.grammar.exists_reads layout.toList
      have known : Known ps := by
        rw [standard] at reads
        exact reads.known
      have pieces : t.Asks layout part ↔ shows part.names ps = true := by
        simp only [Asks, found]
        constructor
        · rintro ⟨qs, reads', named⟩
          obtain rfl := reads'.unique reads
          exact named
        · intro named
          exact ⟨ps, reads, named⟩
      have asked := fun group (mem : group ∈ groupsOf ps) =>
        exists_part_iff_shows (known.group mem) (native_of_mem_groupsOf mem) part
      rw [pieces, shows_iff_exists_group known, natives_of_formOf reads found made]
      constructor
      · rintro ⟨group, mem, named⟩
        exact ⟨_, List.mem_map_of_mem mem, (asked group mem).2 named⟩
      · rintro ⟨native, mem, asks⟩
        obtain ⟨group, among, rfl⟩ := List.mem_map.1 mem
        exact ⟨group, among, (asked group among).1 asks⟩

variable {α β : Type} [Timestamp α] [Timestamp β] [Stamped α] [Stamped β] {v : α} {w : β}

/-- Values are written alike if they have the date in common and what the layout asks for. -/
theorem formatted_congr (standard : t.grammar = .standard)
    (h : (Stamped.stamp v).Agree (t.Asks layout) (Stamped.stamp w)) :
    t.formatted v layout = t.formatted w layout := by
  obtain ⟨form, made⟩ := t.exists_formOf_formatting layout
  have same : form.render v = form.render w := by
    refine NativeForm.render_congr h.date fun native mem => ?_
    rw [writtenText?_eq, writtenText?_eq]
    refine write_congr (any_timestamp_eq_false standard made mem) (h.mono fun part asks => ?_)
    exact (asks_iff_natives standard made part).2 ⟨native, mem, asks⟩
  rw [formatted, formatted, made]
  exact same

end Translator

/-- With a layout that asks for no zone, the moments that have a local time are written as the
local time is, at every offset and in every zone, and that is never refused. If the layout asks
for no time of day either, the date alone is written in the same way. -/
theorem format_eq_of_localTime (t : Translator) (standard : t.grammar = .standard)
    (layout : String) (zoneless : ¬ t.Asks layout .zone) (l : LocalDateTime) :
    ∃ text, ∀ j : Journal, j.cache.Faithful t →
      ((t.format l layout).runOn j).1 = .ok text ∧
        (∀ m : Moment, m.localTime = l → ((t.format m layout).runOn j).1 = .ok text) ∧
        (∀ m : ZonedMoment, m.localTime = l → ((t.format m layout).runOn j).1 = .ok text) ∧
        (¬ t.Asks layout .time → ((t.format l.date layout).runOn j).1 = .ok text) := by
  obtain ⟨text, written⟩ := t.exists_formatted_moment standard layout ⟨l, .zero⟩
  refine ⟨text, fun j faithful => ⟨?_, ?_, ?_, ?_⟩⟩
  · rw [(t.settles_format l layout j faithful).1, ← written]
    exact Translator.formatted_congr standard ⟨rfl, fun _ => rfl, fun zone => absurd zone zoneless⟩
  · rintro m rfl
    rw [(t.settles_format m layout j faithful).1, ← written]
    exact Translator.formatted_congr standard ⟨rfl, fun _ => rfl, fun zone => absurd zone zoneless⟩
  · rintro m rfl
    rw [(t.settles_format m layout j faithful).1, ← written]
    exact Translator.formatted_congr standard ⟨rfl, fun _ => rfl, fun zone => absurd zone zoneless⟩
  · intro timeless
    rw [(t.settles_format l.date layout j faithful).1, ← written]
    exact Translator.formatted_congr standard
      ⟨rfl, fun time => absurd time timeless, fun zone => absurd zone zoneless⟩

/-- Half an hour into the year 2020. -/
def newYear : LocalDateTime :=
  ⟨(Date.ofYmd? 2020 1 1).get (by decide), (TimeOfDay.ofParts? 0 30 0 0).get (by decide)⟩

/-- The escape makes plain letters of what would be tokens for a zone and for an hour. -/
theorem not_asks_escaped (part : StampPart) :
    ¬ Translator.standard.Asks "dt mt yyyy \\z\\h" part := by
  have made : Translator.standard.formOf "dt mt yyyy \\z\\h" .formatting =
      .ok (.segments [.literal "", .ordinal .day, .literal " ", .ordinal .month,
        .literal " %Y zh"]) := eq_ok_of_toOption (by decide +kernel)
  rw [Translator.asks_iff_natives rfl made]
  simp only [← itemsWithin_eq (Nat.le_refl _)]
  cases part <;> decide

/-- Two ordinals and escaped letters, just after midnight. -/
theorem format_eq_of_localTime_newYear :
    Translator.standard.grammar = .standard ∧
      ¬ Translator.standard.Asks "dt mt yyyy \\z\\h" .zone ∧
      ∃ text, ∀ j : Journal, j.cache.Faithful .standard →
        ((Translator.standard.format newYear "dt mt yyyy \\z\\h").runOn j).1 = .ok text ∧
          (∀ m : Moment, m.localTime = newYear →
            ((Translator.standard.format m "dt mt yyyy \\z\\h").runOn j).1 = .ok text) ∧
          (∀ m : ZonedMoment, m.localTime = newYear →
            ((Translator.standard.format m "dt mt yyyy \\z\\h").runOn j).1 = .ok text) ∧
          (¬ Translator.standard.Asks "dt mt yyyy \\z\\h" .time →
            ((Translator.standard.format newYear.date "dt mt yyyy \\z\\h").runOn j).1 =
              .ok text) :=
  ⟨rfl, not_asks_escaped .zone,
    format_eq_of_localTime .standard rfl _ (not_asks_escaped .zone) newYear⟩

end DateLayout
