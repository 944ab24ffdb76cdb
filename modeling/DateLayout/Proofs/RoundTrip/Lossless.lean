import DateLayout.Proofs.Reader.Attainable
import DateLayout.Proofs.RoundTrip.Layouts
import DateLayout.Proofs.Strftime.Chains
import DateLayout.Proofs.WellKnown.Items

/-!
# Conversion through a layout that loses nothing

Two layouts write all there is of a moment: one in the words of the standard language, with
separators, and a well known one. What they write is read back as the very same moment, for each
that reading can give at all (`Lossless`), so that a conversion may go through one of them: it ends
with the same text as the direct one, or fails with the same error.

A conversion has two halves. The first takes a moment from the text and knows nothing of the
target (`Translator.taken`), the second writes it. A way round differs from the direct way only by
one writing and one reading between the halves.
-/

namespace DateLayout

open DateLayout.Calendar DateLayout.Strftime DateLayout.Text

/-- A native layout that writes every moment that can be read, and reads it from the text. -/
def Lossless (native : String) : Prop :=
  ∀ m, Attainable m →
    ∃ text, renderNative native m = .ok text ∧ Reader.readMoment native text = .ok m

namespace Strftime

/-- The items of a date and a time with something between them, and of what is behind the time. -/
def dateTimeItems (between : Item) (rest : List Item) : List Item :=
  dateItems ++ between :: (timeItems ++ rest)

variable {m : Moment} {is : List Item} {native : String}

/-- Items that chain for every moment that can be read and tell all of it make a layout
lossless. -/
theorem lossless_of_chained (cut : items native.toList = is) (itself : is.map Item.reader = is)
    (one : is.countP Item.isFraction ≤ 1) (tells : ∀ m, TellsAll m is)
    (chains : ∀ m, Attainable m → ∃ text, Chained m is text) : Lossless native := by
  intro m attainable
  obtain ⟨text, chained⟩ := chains m attainable
  refine ⟨String.ofList text, renderNative_eq ?_, (tells m).readMoment attainable ?_⟩
  · rw [cut]
    exact chained.written
  · have read := chained.read [] one
    rw [itself, ofItems_nil] at read
    rw [Strftime.read, cut, String.toList_ofList]
    exact read

theorem exists_chained_offset (minutes : 60 ∣ m.offset.seconds) :
    ∃ text, Chained m [.offset .colon] text ∧ Solid text ∧ NoDigitAhead text ∧
      text.head? ≠ some '.' := by
  have keeps : (Item.offset .colon).Keeps m := minutes
  obtain ⟨cs, back⟩ := Item.read_back keeps
  have solid := Item.solid_of_write keeps rfl back.1
  have chained : Chained m [.offset .colon] (cs ++ []) :=
    .cons (Item.carries_of_keeps keeps) back trivial .nil
  rw [List.append_nil] at chained
  have sign : m.offset.sign.isDigit = false ∧ m.offset.sign ≠ '.' := by
    rw [UtcOffset.sign]
    split <;> decide
  refine ⟨cs, chained, solid, ?_⟩
  cases back.1
  refine ⟨noDigitAhead_cons sign.1, ?_⟩
  intro head
  exact sign.2 (Option.some.inj head)

theorem year_within (h : Attainable m) :
    -2147483648 ≤ m.localTime.date.year ∧ m.localTime.date.year ≤ 2147483647 := by
  have within := h.inRange
  rw [Date.inRange, Bool.and_eq_true, decide_eq_true_eq, decide_eq_true_eq] at within
  unfold firstYear lastYear at within
  omega

theorem tellsAll_dateTimeItems {between : Item} {rest : List Item}
    (h : between = .literal ['T'] ∧ rest = [.offset .colon] ∨
      between = .blank [' '] ∧ rest = [.blank [' '], .offset .colon]) (m : Moment) :
    TellsAll m (dateTimeItems between rest) := by
  have mem : .fraction ∈ dateTimeItems between rest := by
    simp [dateTimeItems, timeItems]
  have one : (dateTimeItems between rest).countP Item.isFraction ≤ 1 := by
    rcases h with ⟨rfl, rfl⟩ | ⟨rfl, rfl⟩ <;> decide
  have fraction : keptFraction m (dateTimeItems between rest) = m.localTime.time.fraction := by
    rw [keptFraction, findSome?_of_mem mem rfl one, Item.toldFraction]
    split
    · next zero =>
        rw [zero]
        rfl
    · rfl
  rcases h with ⟨rfl, rfl⟩ | ⟨rfl, rfl⟩ <;>
    exact ⟨rfl, rfl, rfl, rfl, rfl, rfl, rfl, rfl, rfl, fraction, rfl⟩

/-- `yyyy-mm-dd hhh:ii:ss.999999999 zzzz` as a native layout. -/
theorem lossless_spaced : Lossless "%Y-%m-%d %H:%M:%S%.f %:z" := by
  have cut : items "%Y-%m-%d %H:%M:%S%.f %:z".toList =
      dateTimeItems (.blank [' ']) [.blank [' '], .offset .colon] := by
    rw [← itemsWithin_eq (Nat.le_refl _)]
    decide
  refine lossless_of_chained cut rfl (by decide) (tellsAll_dateTimeItems (.inr ⟨rfl, rfl⟩)) ?_
  intro m attainable
  obtain ⟨lower, upper⟩ := year_within attainable
  obtain ⟨offset, chained, solid, -⟩ := exists_chained_offset attainable.minutes
  have space : isBlank ' ' = true := by decide
  have stop : ∀ text, NoDigitAhead (' ' :: text) := fun _ => noDigitAhead_cons (by decide)
  have point : (' ' :: offset).head? ≠ some '.' := nofun
  obtain ⟨time, chained, solid⟩ :=
    exists_chained_time (stop offset) point (chained.blank solid space)
  exact exists_chained_date lower upper (stop time) (chained.blank solid space)

/-- The well known layout with nanoseconds. -/
theorem lossless_nanos : Lossless "%Y-%m-%dT%H:%M:%S%.f%:z" := by
  have cut : items "%Y-%m-%dT%H:%M:%S%.f%:z".toList =
      dateTimeItems (.literal ['T']) [.offset .colon] := by
    rw [← itemsWithin_eq (Nat.le_refl _)]
    decide
  refine lossless_of_chained cut rfl (by decide) (tellsAll_dateTimeItems (.inl ⟨rfl, rfl⟩)) ?_
  intro m attainable
  obtain ⟨lower, upper⟩ := year_within attainable
  obtain ⟨offset, chained, -, stop, point⟩ := exists_chained_offset attainable.minutes
  obtain ⟨time, chained, -⟩ := exists_chained_time stop point chained
  exact exists_chained_date lower upper (noDigitAhead_cons (by decide)) (chained.literal 'T')

end Strftime

/-! ## The two layouts -/

variable {t : Translator} {j : Journal}

def piecesOfSpaced : List Piece :=
  ["yyyy", "-", "mm", "-", "dd", " ", "hhh", ":", "ii", ":", "ss", ".999999999", " ",
    "zzzz"].flatMap piecesOfWord

theorem readable_piecesOfSpaced : Readable piecesOfSpaced :=
  ⟨spaced_of_isSpaced (by decide), by decide, by decide⟩

/-- Both layouts have one native layout for writing and reading, which is lossless. -/
theorem exists_lossless (standard : t.grammar = .standard) {lossless : String}
    (exact_ : lossless = "yyyy-mm-dd hhh:ii:ss.999999999 zzzz" ∨
      lossless = "%Y-%m-%dT%H:%M:%S%.f%:z") :
    ∃ native, (∀ mode, t.formOf lossless mode = .ok (.literal native)) ∧ Lossless native := by
  rcases exact_ with rfl | rfl
  · refine ⟨_, ?_, lossless_spaced⟩
    intro mode
    have unknown : WellKnown.find? "yyyy-mm-dd hhh:ii:ss.999999999 zzzz" t.tier = none := by
      simp [WellKnown.find?, WellKnown.all]
    rw [readable_piecesOfSpaced.formOf_eq standard (by decide) unknown]
    cases mode <;> rfl
  · refine ⟨_, ?_, lossless_nanos⟩
    intro mode
    have known : WellKnown.find? "%Y-%m-%dT%H:%M:%S%.f%:z" t.tier =
        some ⟨"RFC3339Nano", "%Y-%m-%dT%H:%M:%S%.f%:z", 0⟩ := by
      simp [WellKnown.find?, WellKnown.all]
    rw [Translator.formOf, known]

/-! ## Conversion in two halves -/

namespace Translator

/-- The first half of a conversion: what it takes from a text. -/
def taken (t : Translator) (source text : String) : Except LayoutError Moment := do
  let form ← t.formOf source .formatting
  if form.hasOrdinals then .error (.ordinalsInSource source) else t.parsed source text

theorem converted_eq {source target : String} (apart : source ≠ target) (text : String) :
    t.converted text source target = (do
      let m ← t.taken source text
      t.formatted m target) := by
  rw [converted, if_neg apart, taken]
  cases t.formOf source .formatting with
  | error e => rfl
  | ok form =>
      show (if form.hasOrdinals = true then _ else _) =
        Except.bind (if form.hasOrdinals = true then _ else _) _
      split <;> rfl

theorem attainable_of_taken {source text : String} {m : Moment}
    (h : t.taken source text = .ok m) : Attainable m := by
  obtain ⟨form, -, h⟩ := exists_of_bind_ok h
  split at h
  · cases h
  · obtain ⟨native, -, h⟩ := exists_of_bind_ok h
    cases read : Reader.readMoment native text with
    | error fault =>
        rw [read] at h
        cases h
    | ok m' =>
        rw [read] at h
        cases h
        exact attainable_of_readMoment read

end Translator

/-- A lossless layout writes every attainable moment, and what is taken from the text is this
moment. -/
theorem exists_text_of_lossless {lossless native : String}
    (forms : ∀ mode, t.formOf lossless mode = .ok (.literal native)) (exact_ : Lossless native)
    {m : Moment} (attainable : Attainable m) :
    ∃ text, t.formatted m lossless = .ok text ∧ t.taken lossless text = .ok m := by
  obtain ⟨text, written, read⟩ := exact_ m attainable
  refine ⟨text, ?_, ?_⟩
  · rw [Translator.formatted, forms]
    exact written
  · rw [Translator.taken, Translator.parsed, Translator.nativeOf, forms, forms]
    show (Reader.readMoment native text).mapError _ = _
    rw [read]
    rfl

/-- A conversion may go through a layout that loses nothing. Where the first step succeeds, the
second one gives what the direct conversion gives, be it a text or an error; where it fails, the
direct conversion fails with the same error. What the caches hold makes no difference, as long as
the translator itself put it there. -/
theorem convert_through_lossless (t : Translator) (standard : t.grammar = .standard)
    (lossless : String) (exact_ : lossless = "yyyy-mm-dd hhh:ii:ss.999999999 zzzz" ∨
      lossless = "%Y-%m-%dT%H:%M:%S%.f%:z")
    (text source target : String) (first : source ≠ lossless) (second : lossless ≠ target)
    (apart : source ≠ target) (j₁ j₂ j₃ : Journal) (faithful₁ : j₁.cache.Faithful t)
    (faithful₂ : j₂.cache.Faithful t) (faithful₃ : j₃.cache.Faithful t) :
    (∀ between, ((t.convert text source lossless).runOn j₁).1 = .ok between →
        ((t.convert between lossless target).runOn j₂).1 =
          ((t.convert text source target).runOn j₃).1) ∧
      ∀ e, ((t.convert text source lossless).runOn j₁).1 = .error e →
        ((t.convert text source target).runOn j₃).1 = .error e := by
  obtain ⟨native, forms, writes⟩ := exists_lossless standard exact_
  have there := (t.settles_convert text source lossless j₁ faithful₁).1
  have direct := (t.settles_convert text source target j₃ faithful₃).1
  rw [Translator.converted_eq first] at there
  rw [Translator.converted_eq apart] at direct
  rw [there, direct]
  cases taken : t.taken source text with
  | error e => exact ⟨nofun, fun _ same => same⟩
  | ok m =>
      obtain ⟨written, formatted, again⟩ :=
        exists_text_of_lossless forms writes (Translator.attainable_of_taken taken)
      show (∀ between, t.formatted m lossless = .ok between → _) ∧
        ∀ e, t.formatted m lossless = .error e → _
      rw [formatted]
      refine ⟨?_, nofun⟩
      rintro between ⟨⟩
      rw [(t.settles_convert written lossless target j₂ faithful₂).1,
        Translator.converted_eq second, again]

/-- A leap second of a year before year 0, half an hour west of Greenwich, that ends up with an
ordinal. -/
theorem convert_through_lossless_leapSecond :
    (∀ between, ((Translator.standard.convert "-123 Feb 3 23:59:60 -00:30" "yyyy mmm d hhh:ii:s zz"
        "%Y-%m-%dT%H:%M:%S%.f%:z").runOn (.start .enabled)).1 = .ok between →
      ((Translator.standard.convert between "%Y-%m-%dT%H:%M:%S%.f%:z" "dt mmmm yyyy ss").runOn
          (.start .disabled)).1 =
        ((Translator.standard.convert "-123 Feb 3 23:59:60 -00:30" "yyyy mmm d hhh:ii:s zz"
          "dt mmmm yyyy ss").runOn (.start .enabled)).1) ∧
      ∀ e, ((Translator.standard.convert "-123 Feb 3 23:59:60 -00:30" "yyyy mmm d hhh:ii:s zz"
          "%Y-%m-%dT%H:%M:%S%.f%:z").runOn (.start .enabled)).1 = .error e →
        ((Translator.standard.convert "-123 Feb 3 23:59:60 -00:30" "yyyy mmm d hhh:ii:s zz"
          "dt mmmm yyyy ss").runOn (.start .enabled)).1 = .error e :=
  convert_through_lossless .standard rfl _ (.inr rfl) _ _ _ (by decide) (by decide) (by decide)
    (.start .enabled) (.start .disabled) (.start .enabled) (faithful_enabled .standard)
    (faithful_disabled .standard) (faithful_enabled .standard)

end DateLayout
