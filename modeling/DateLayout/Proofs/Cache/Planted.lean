import DateLayout.Proofs.Scan.Modes
import DateLayout.Translator

/-!
# Planted native forms

Anyone can write to a cache, and a form that is planted there need not be what the grammar makes of
a layout. A translation looks at one place of the cache only, the one for its own layout and mode,
and at none for a well known layout (`sameOn_of_place`); it leaves all other places as they are
(`get?_translate_of_ne`). So a planted form is met by those who ask for just this layout in this
mode.

A form with ordinals that is planted for reading cannot be read with. Every reading fails, with
the error that tells the first ordinal of the layout if there is one, and leaves the journal alone
(`runOn_nativeForParsing_planted`). A conversion asks for the form for writing first, and may make
and keep one, but that is another place in the cache: when it comes to the reading, it fails as
well (`result_convert_planted`).
-/

namespace DateLayout

open DateLayout.Calendar

variable {t : Translator} {layout : String} {mode : Mode} {j j' : Journal}

/-! ## The place in the cache -/

namespace Translator

/-- On two journals with the same form, or none, in its place, a translation either leaves both as
they are or records the same form in both. -/
theorem runOn_translate_cases (same : WellKnown.find? layout t.tier = none →
    j.cache.get? layout mode = j'.cache.get? layout mode) :
    (∃ result, (t.translate layout mode).runOn j = (result, j) ∧
      (t.translate layout mode).runOn j' = (result, j')) ∨
    (∃ form, (t.translate layout mode).runOn j = (.ok form, j.record layout mode form) ∧
      (t.translate layout mode).runOn j' = (.ok form, j'.record layout mode form)) := by
  rw [runOn_translate, runOn_translate]
  cases known : WellKnown.find? layout t.tier with
  | some known => exact .inl ⟨_, rfl, rfl⟩
  | none =>
      simp only [same known]
      cases j'.cache.get? layout mode with
      | some kept => exact .inl ⟨_, rfl, rfl⟩
      | none =>
          cases t.grammar.translate layout mode with
          | ok form => exact .inr ⟨form, rfl, rfl⟩
          | error e => exact .inl ⟨_, rfl, rfl⟩

/-- A translation has the same result on two journals and logs the same. It leaves their caches
alike wherever they were, if these are both on or both off. -/
structure SameOn (t : Translator) (layout : String) (mode : Mode) (j j' : Journal) : Prop where
  result : ((t.translate layout mode).runOn j).1 = ((t.translate layout mode).runOn j').1
  events : ∃ events, ((t.translate layout mode).runOn j).2.log = j.log ++ events ∧
    ((t.translate layout mode).runOn j').2.log = j'.log ++ events
  caches : j.cache.isEnabled = j'.cache.isEnabled → ∀ layout' mode',
    j.cache.get? layout' mode' = j'.cache.get? layout' mode' →
      ((t.translate layout mode).runOn j).2.cache.get? layout' mode' =
        ((t.translate layout mode).runOn j').2.cache.get? layout' mode'

theorem sameOn_of_place (same : WellKnown.find? layout t.tier = none →
    j.cache.get? layout mode = j'.cache.get? layout mode) : t.SameOn layout mode j j' := by
  rcases runOn_translate_cases same with ⟨result, here, there⟩ | ⟨form, here, there⟩
  · refine ⟨by rw [here, there], ⟨[], ?_, ?_⟩, fun _ layout' mode' alike => ?_⟩
    · rw [here, List.append_nil]
    · rw [there, List.append_nil]
    · rw [here, there]
      exact alike
  · refine ⟨by rw [here, there], ⟨[.translated layout form], ?_, ?_⟩,
      fun enabled layout' mode' alike => ?_⟩
    · rw [here]
      rfl
    · rw [there]
      rfl
    · rw [here, there]
      exact Cache.get?_insert_congr enabled layout mode form alike

/-- A translation leaves the cache as it is in every place but its own. -/
theorem get?_translate_of_ne {layout' : String} {mode' : Mode}
    (other : (layout, mode) ≠ (layout', mode')) :
    ((t.translate layout mode).runOn j).2.cache.get? layout' mode' =
      j.cache.get? layout' mode' := by
  rcases runOn_translate_cases (fun _ => rfl) with ⟨result, here, -⟩ | ⟨form, here, -⟩
  · rw [here]
  · rw [here]
    exact j.cache.get?_insert_of_ne other form

/-! ## The error for a planted form -/

theorem ordinalError_of_firstOrdinal {token : Token} {front back : String}
    (h : t.grammar.FirstOrdinal layout token front back) :
    t.ordinalError layout = .ordinalNotReadable token.text front.utf8ByteSize := by
  obtain ⟨before, spelling, after, reads, first, source⟩ := h.pieces
  obtain ⟨kind, ordinal⟩ := Option.isSome_iff_exists.1 h.ordinal
  rw [ordinalError, Grammar.translate_refused reads first ordinal, source, Text.byteCount_toList]

theorem ordinalError_of_no_ordinal
    (h : ∀ token front back, ¬ t.grammar.FirstOrdinal layout token front back) :
    t.ordinalError layout = .ordinalsInSource layout := by
  rw [ordinalError]
  cases made : t.grammar.translate layout .parsing with
  | ok form => rfl
  | error e =>
      obtain ⟨token, front, back, first, -⟩ := Grammar.exists_firstOrdinal_of_error made
      exact absurd first (h token front back)

/-! ## Reading and converting -/

variable {parts : List Segment}

theorem runOn_nativeForParsing_planted (unknown : WellKnown.find? layout t.tier = none)
    (planted : j.cache.get? layout .parsing = some (.segments parts)) :
    (t.nativeForParsing layout).runOn j = (.error (t.ordinalError layout), j) := by
  rw [nativeForParsing, Operation.runOn_bind, runOn_translate, unknown]
  simp only [planted]
  rfl

theorem runOn_parse_planted (unknown : WellKnown.find? layout t.tier = none)
    (planted : j.cache.get? layout .parsing = some (.segments parts)) (text : String) :
    (t.parse layout text).runOn j = (.error (t.ordinalError layout), j) := by
  rw [parse, Operation.runOn_bind, runOn_nativeForParsing_planted unknown planted]

theorem runOn_parseIn_planted (unknown : WellKnown.find? layout t.tier = none)
    (planted : j.cache.get? layout .parsing = some (.segments parts)) (text : String)
    (zone : Zone) :
    (t.parseIn layout text zone).runOn j = (.error (t.ordinalError layout), j) := by
  rw [parseIn, Operation.runOn_bind, runOn_nativeForParsing_planted unknown planted]

/-- There always is a form for writing: in the cache, or a new one. -/
theorem exists_result_translate_formatting (unknown : WellKnown.find? layout t.tier = none) :
    ∃ form, ((t.translate layout .formatting).runOn j).1 = .ok form := by
  rw [runOn_translate, unknown]
  cases j.cache.get? layout .formatting with
  | some form => exact ⟨form, rfl⟩
  | none =>
      obtain ⟨form, made⟩ := t.grammar.exists_translate_formatting layout
      exact ⟨form, by simp only [made]⟩

/-- The form for writing decides only which of the two errors a conversion has. -/
theorem result_convert_planted (unknown : WellKnown.find? layout t.tier = none)
    (planted : j.cache.get? layout .parsing = some (.segments parts)) (text : String)
    {target : String} (differ : layout ≠ target) :
    ∃ form, ((t.translate layout .formatting).runOn j).1 = .ok form ∧
      ((t.convert text layout target).runOn j).1 =
        .error (if form.hasOrdinals then .ordinalsInSource layout else t.ordinalError layout) := by
  obtain ⟨form, written⟩ := t.exists_result_translate_formatting (j := j) unknown
  have still : ((t.translate layout .formatting).runOn j).2.cache.get? layout .parsing =
      some (.segments parts) := by
    rw [get?_translate_of_ne (by simp), planted]
  refine ⟨form, written, ?_⟩
  rw [convert, if_neg differ, Operation.runOn_bind]
  generalize (t.translate layout .formatting).runOn j = outcome at written still
  obtain ⟨_, next⟩ := outcome
  subst written
  show (Operation.runOn (if form.hasOrdinals then throw _ else _) next).1 = _
  cases form.hasOrdinals with
  | true => rfl
  | false =>
      show (Operation.runOn (t.parse layout text >>= _) next).1 = _
      rw [Operation.runOn_bind, runOn_parse_planted unknown still text]
      rfl

/-- All that reads with a layout fails and changes nothing, and all that converts from it fails.
The error tells the first ordinal of the layout, if it has one. -/
structure Unreadable (t : Translator) (layout : String) (j : Journal) : Prop where
  named : ∀ token front back, t.grammar.FirstOrdinal layout token front back →
    t.ordinalError layout = .ordinalNotReadable token.text front.utf8ByteSize
  unnamed : (∀ token front back, ¬ t.grammar.FirstOrdinal layout token front back) →
    t.ordinalError layout = .ordinalsInSource layout
  parse : ∀ text, (t.parse layout text).runOn j = (.error (t.ordinalError layout), j)
  parseIn : ∀ text zone,
    (t.parseIn layout text zone).runOn j = (.error (t.ordinalError layout), j)
  convert : ∀ text target, layout ≠ target → ∃ form,
    ((t.translate layout .formatting).runOn j).1 = .ok form ∧
      ((t.convert text layout target).runOn j).1 =
        .error (if form.hasOrdinals then .ordinalsInSource layout else t.ordinalError layout)

end Translator

/-- Whatever was planted in a cache, a translation looks at one place only and changes no other, and
a form with ordinals makes its layout unreadable if it stands where readings look. -/
theorem planted_forms_stay_apart (t : Translator) (layout : String) (j : Journal) :
    (∀ mode j', (WellKnown.find? layout t.tier = none →
        j.cache.get? layout mode = j'.cache.get? layout mode) → t.SameOn layout mode j j') ∧
    (∀ mode layout' mode', (layout, mode) ≠ (layout', mode') →
      ((t.translate layout mode).runOn j).2.cache.get? layout' mode' =
        j.cache.get? layout' mode') ∧
    (∀ parts, WellKnown.find? layout t.tier = none →
      j.cache.get? layout .parsing = some (.segments parts) → t.Unreadable layout j) := by
  refine ⟨fun mode j' => t.sameOn_of_place, fun mode layout' mode' => t.get?_translate_of_ne, ?_⟩
  intro parts unknown planted
  exact
    { named := fun token front back => t.ordinalError_of_firstOrdinal
      unnamed := t.ordinalError_of_no_ordinal
      parse := t.runOn_parse_planted unknown planted
      parseIn := t.runOn_parseIn_planted unknown planted
      convert := fun text target => t.result_convert_planted unknown planted text }

/-- Forms planted for reading: one without parts where the grammar names an ordinal, and one with
an ordinal where it does not. -/
def plantedJournal : Journal :=
  .start ((Cache.enabled.insert "mt yyyy" .parsing (.segments [])).insert "yyyy" .parsing
    (.segments [.ordinal .day]))

theorem planted_forms_stay_apart_ordinals :
    (∀ text, (Translator.standard.parse "mt yyyy" text).runOn plantedJournal =
      (.error (.ordinalNotReadable "mt" 0), plantedJournal)) ∧
    (∀ text, (Translator.standard.parse "yyyy" text).runOn plantedJournal =
      (.error (.ordinalsInSource "yyyy"), plantedJournal)) := by
  have unknown : ∀ layout ∈ ["mt yyyy", "yyyy"],
      WellKnown.find? layout Translator.standard.tier = none := by decide +kernel
  have first : plantedJournal.cache.get? "mt yyyy" .parsing = some (.segments []) := by
    rw [plantedJournal, Journal.start, Cache.get?_insert rfl, if_neg (by decide),
      Cache.get?_insert rfl, if_pos rfl]
  have second : plantedJournal.cache.get? "yyyy" .parsing = some (.segments [.ordinal .day]) := by
    rw [plantedJournal, Journal.start, Cache.get?_insert rfl, if_pos rfl]
  have named : Translator.standard.ordinalError "mt yyyy" = .ordinalNotReadable "mt" 0 := by
    decide +kernel
  have unnamed : Translator.standard.ordinalError "yyyy" = .ordinalsInSource "yyyy" := by
    decide +kernel
  rw [← named, ← unnamed]
  exact ⟨((planted_forms_stay_apart .standard "mt yyyy" plantedJournal).2.2 _
      (unknown _ (by simp)) first).parse,
    ((planted_forms_stay_apart .standard "yyyy" plantedJournal).2.2 _
      (unknown _ (by simp)) second).parse⟩

end DateLayout
