import DateLayout.Proofs.Cache.Faithful
import DateLayout.Proofs.RoundTrip.Remains
import DateLayout.Proofs.WellKnown.Items

/-!
# Layouts read back what they write

With a layout whose tokens stand apart, a moment that was written is read back, up to what no
token of the layout carries. The statement is about a translator with the standard language and
its cache: what it keeps was made by itself, so formatting and parsing use the native layouts
that the pieces of the layout make.

The layout is given by its pieces, in any case of the letters of its tokens. Three things besides
their shape are asked of them: that there is one fraction at most, since two of them could be cut
to different digits; that the day of the year comes with the year, since the number of a day
depends on it; and that the layout is no well known one, which would be taken as it stands.

One thing is asked of the moment's time: a leap second follows second 59. After any other second a
clock does not show it as one, and then what is read back is left of the time that was shown
(`parse_format_asShown`).
-/

namespace DateLayout

open DateLayout.Calendar DateLayout.Strftime

/-- Pieces of a layout with which a moment can be read back. -/
structure Readable (ps : List Piece) : Prop where
  spaced : Spaced ps
  fraction : ps.countP (Piece.isNamed fractionNames) ≤ 1
  dayOfYear : shows ["ddd"] ps = true → shows ["yyyy"] ps = true

variable {m : Moment} {ps : List Piece} {t : Translator} {layout : String}

theorem Spaced.second_of_fraction (h : Spaced ps)
    (fraction : (itemsOf ps).any Item.isFraction = true) :
    tells (itemsOf ps) .second = true := by
  rw [tells]
  induction h with
  | done => cases fraction
  | separator between tail ih => exact ih fraction
  | token plain spelled before tail ih =>
      obtain ⟨i, item, -, -, -, other⟩ := plain.exists_item
      rw [itemsOf_cons_token item, List.any_cons, other, Bool.false_or] at fraction
      rw [itemsOf_cons_token item, List.any_cons, ih fraction, Bool.or_true]
  | fraction second spelled fraction' spelled' before tail ih =>
      obtain ⟨i, item, -, listed, -⟩ := (plain_of_second second).exists_item
      obtain ⟨padding, rfl⟩ := exists_padding_of_second second listed
      rw [itemsOf_cons_token item, List.any_cons]
      rfl

theorem Readable.tellsDate (h : Readable ps) (fits : Fits m ps) : TellsDate m (itemsOf ps) where
  century := by
    rw [tells, h.spaced.any_itemsOf table_century, shows_nil]
  year := by
    rw [tells, tells, h.spaced.any_itemsOf table_dayOfYear, h.spaced.any_itemsOf table_year]
    exact h.dayOfYear
  lower := fits.lower
  upper := fits.upper

theorem Readable.countP_le (h : Readable ps) : (itemsOf ps).countP Item.isFraction ≤ 1 := by
  rw [h.spaced.countP_itemsOf table_fraction]
  exact h.fraction

theorem Readable.formOf_eq (h : Readable ps) (standard : t.grammar = .standard)
    (source : sourceOf ps = layout.toList) (unknown : WellKnown.find? layout t.tier = none)
    (mode : Mode) : t.formOf layout mode = .ok (.literal (DateLayout.nativeOf mode ps)) := by
  have reads : Grammar.standard.Reads layout.toList ps := by
    rw [← source]
    exact h.spaced.reads
  rw [Translator.formOf, unknown, standard]
  exact Grammar.translate_literal reads h.spaced.ordinalsOf_eq_nil

/-- A native layout that writes a text renders it, also if there is nothing to write. -/
theorem renderNative_eq {native : String} {text : List Char}
    (h : writeItems (items native.toList) m.stamp = some text) :
    renderNative native m = .ok (String.ofList text) := by
  rw [renderNative]
  split
  · next empty =>
      subst empty
      have nothing : items "".toList = [] := items_nil
      rw [nothing] at h
      cases h
      rfl
  · have written : Timestamp.writeNative m native = ⟨String.ofList text, true⟩ := by
      show Written.ofOption (Strftime.write native m.stamp) = _
      rw [Strftime.write, h]
      rfl
    simp only [written, if_true]

theorem Readable.exists_parsed (h : Readable ps) (standard : t.grammar = .standard)
    (source : sourceOf ps = layout.toList) (unknown : WellKnown.find? layout t.tier = none)
    (fits : Fits m ps) :
    ∃ text r, t.formatted m layout = .ok text ∧ t.parsed layout text = .ok r ∧
      Remains m.asShown ps r := by
  obtain ⟨text, told⟩ := h.spaced.exists_told fits
  have read : Strftime.read (nativeOf .parsing ps) (String.ofList text) =
      .ok (.ofItems m (itemsOf ps)) := by
    have all := told.read [] h.countP_le
    rw [Strftime.read, String.toList_ofList, ← ofItems_nil m, all]
    rfl
  obtain ⟨r, moment, kept⟩ :=
    readMoment_of_ofItems read (h.tellsDate fits) h.spaced.second_of_fraction
  refine ⟨String.ofList text, r, ?_, ?_, remains_of_kept h.spaced h.countP_le kept⟩
  · rw [Translator.formatted, h.formOf_eq standard source unknown]
    exact renderNative_eq told.written
  · rw [Translator.parsed, Translator.nativeOf, h.formOf_eq standard source unknown]
    show (Reader.readMoment _ _).mapError _ = _
    rw [moment]
    rfl

/-- Whatever a translator did before, with a readable layout it writes a moment and reads back the
time that a clock shows at it, up to what no token of the layout carries. -/
theorem parse_format_asShown (t : Translator) (standard : t.grammar = .standard)
    (readable : Readable ps) (source : sourceOf ps = layout.toList)
    (unknown : WellKnown.find? layout t.tier = none) (fits : Fits m ps) (j : Journal)
    (faithful : j.cache.Faithful t) :
    ∃ text r j', (t.format m layout).runOn j = (.ok text, j') ∧
      ((t.parse layout text).runOn j').1 = .ok r ∧ Remains m.asShown ps r := by
  obtain ⟨text, r, formatted, parsed, remains⟩ :=
    readable.exists_parsed standard source unknown fits
  obtain ⟨written, kept⟩ := t.settles_format m layout j faithful
  obtain ⟨read, -⟩ := t.settles_parse layout text ((t.format m layout).runOn j).2 kept
  refine ⟨text, r, ((t.format m layout).runOn j).2, ?_, ?_, remains⟩
  · rw [← formatted, ← written]
  · rw [read, parsed]

/-- With a readable layout a moment is written and read back, up to what no token of the layout
carries. A leap second that follows second 59 is read back as one. -/
theorem parse_format (t : Translator) (standard : t.grammar = .standard) (layout : String)
    (ps : List Piece) (readable : Readable ps) (source : sourceOf ps = layout.toList)
    (unknown : WellKnown.find? layout t.tier = none) (m : Moment) (fits : Fits m ps)
    (leap : nanosPerSecond ≤ m.localTime.time.nanosecond → m.localTime.time.second = 59)
    (j : Journal) (faithful : j.cache.Faithful t) :
    ∃ text r j', (t.format m layout).runOn j = (.ok text, j') ∧
      ((t.parse layout text).runOn j').1 = .ok r ∧ Remains m ps r := by
  obtain ⟨text, r, j', written, read, remains⟩ :=
    parse_format_asShown t standard readable source unknown fits j faithful
  rw [Moment.asShown_eq_self leap] at remains
  exact ⟨text, r, j', written, read, remains⟩

/-- The token that a word of a layout is, or else its characters. -/
def piecesOfWord (word : String) : List Piece :=
  match Grammar.standard.tokenAt? word.toList with
  | some t => [.token t word.toList]
  | none => word.toList.map .plain

def piecesOfLeap : List Piece :=
  ["yYyY", "/", "MM", "% ", "hhh", ":", "i", ":", "SS", ".000", " ", "zhh"].flatMap piecesOfWord

/-- A leap second at the end of 2016, five hours west of Greenwich. -/
def leapSecond : Moment :=
  ⟨⟨⟨2016, 12, 31, by decide, by decide⟩,
    ⟨18, 59, 59, 1123456789, by decide, by decide, by decide, by decide⟩⟩,
    ⟨-18000, by decide, by decide⟩⟩

theorem spaced_piecesOfLeap : Spaced piecesOfLeap :=
  spaced_of_isSpaced (by decide)

theorem parse_format_leapSecond :
    (nanosPerSecond ≤ leapSecond.localTime.time.nanosecond →
        leapSecond.localTime.time.second = 59) ∧
      ∃ text r j', (Translator.standard.format leapSecond "yYyY/MM% hhh:i:SS.000 zhh").runOn
          (.start .enabled) = (.ok text, j') ∧
        ((Translator.standard.parse "yYyY/MM% hhh:i:SS.000 zhh" text).runOn j').1 = .ok r ∧
        Remains leapSecond piecesOfLeap r :=
  ⟨fun _ => rfl, parse_format .standard rfl _ piecesOfLeap
    ⟨spaced_piecesOfLeap, by decide, by decide⟩ (by decide) (by decide) leapSecond
    ⟨by decide, by decide, by decide, fun _ _ _ _ => by decide⟩ (fun _ => rfl) (.start .enabled)
    (faithful_enabled .standard)⟩

def piecesOfStamp : List Piece :=
  ["yyyy", "-", "mm", "-", "dd", " ", "hhh", ":", "ii", ":", "ss", ".999"].flatMap piecesOfWord

theorem readable_piecesOfStamp : Readable piecesOfStamp where
  spaced := spaced_of_isSpaced (by decide)
  fraction := by decide
  dayOfYear := by decide

/-- Half a second into a leap second that follows second 30, on the second of January. -/
def midMinuteLeap : Moment :=
  ⟨⟨(Date.ofYearDay? 2020 2).get (by decide),
    (TimeOfDay.ofParts? 0 0 30 1500000000).get (by decide)⟩, .zero⟩

theorem items_stamp : items "%Y-%m-%d %H:%M:%S%.f".toList =
    [.number .year .zero, .literal ['-'], .number .month .zero, .literal ['-'], .number .day .zero,
      .blank [' '], .number .hour .zero, .literal [':'], .number .minute .zero, .literal [':'],
      .number .second .zero, .fraction] := by
  rw [← itemsWithin_eq (Nat.le_refl _)]
  decide +kernel

/-- A leap second in the middle of a minute is written and read back as the second behind it. -/
theorem parse_format_midMinuteLeap :
    Readable piecesOfStamp ∧ sourceOf piecesOfStamp = "yyyy-mm-dd hhh:ii:ss.999".toList ∧
      WellKnown.find? "yyyy-mm-dd hhh:ii:ss.999" Translator.standard.tier = none ∧
      Fits midMinuteLeap piecesOfStamp ∧
      ((Translator.standard.format midMinuteLeap "yyyy-mm-dd hhh:ii:ss.999").runOn
        (.start .enabled)).1 = .ok "2020-01-02 00:00:31.500" ∧
      ((Translator.standard.parse "yyyy-mm-dd hhh:ii:ss.999" "2020-01-02 00:00:31.500").runOn
        (.start .enabled)).1 = .ok ⟨⟨⟨2020, 1, 2, by decide, by decide⟩,
          ⟨0, 0, 31, 500000000, by decide, by decide, by decide, by decide⟩⟩, .zero⟩ ∧
      ∀ r, ((Translator.standard.parse "yyyy-mm-dd hhh:ii:ss.999" "2020-01-02 00:00:31.500").runOn
        (.start .enabled)).1 = .ok r → ¬ Remains midMinuteLeap piecesOfStamp r := by
  have faithful := faithful_enabled .standard
  have writer : Translator.standard.formOf "yyyy-mm-dd hhh:ii:ss.999" .formatting =
      .ok (.literal "%Y-%m-%d %H:%M:%S%.f") := eq_ok_of_toOption (by decide +kernel)
  have reader : Translator.standard.nativeOf "yyyy-mm-dd hhh:ii:ss.999" =
      .ok "%Y-%m-%d %H:%M:%S%.f" := eq_ok_of_toOption (by decide +kernel)
  have read : ((Translator.standard.parse "yyyy-mm-dd hhh:ii:ss.999"
      "2020-01-02 00:00:31.500").runOn (.start .enabled)).1 =
        .ok ⟨⟨⟨2020, 1, 2, by decide, by decide⟩,
          ⟨0, 0, 31, 500000000, by decide, by decide, by decide, by decide⟩⟩, .zero⟩ := by
    rw [(Translator.settles_parse .standard _ _ (.start .enabled) faithful).1, Translator.parsed,
      reader]
    simp only [bind, Except.bind, Reader.readMoment, Reader.readFields, Strftime.read, items_stamp]
    rfl
  refine ⟨readable_piecesOfStamp, by decide, by decide,
    ⟨by decide, by decide, by decide, fun _ _ _ _ => by decide⟩, ?_, read, ?_⟩
  · have text : writeItems (items "%Y-%m-%d %H:%M:%S%.f".toList) midMinuteLeap.stamp =
        some "2020-01-02 00:00:31.500".toList := by
      rw [items_stamp]
      decide +kernel
    have rendered := renderNative_eq text
    rw [String.ofList_toList] at rendered
    rw [(Translator.settles_format .standard _ _ (.start .enabled) faithful).1,
      Translator.formatted, writer]
    exact rendered
  · rintro r other remains
    rw [read] at other
    cases other
    exact absurd remains.second (by decide)

end DateLayout
