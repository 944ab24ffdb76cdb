import DateLayout.Proofs.Cache.Reachable
import DateLayout.Proofs.Rendering.Concatenation
import DateLayout.Proofs.Rendering.Missing
import DateLayout.Proofs.Scan.Modes

/-!
# How reading and converting fail

Reading fails for an ordinal in its layout, or for a text that does not fit. Converting between
different layouts has an error of its own for ordinals in the source, and decides on it with the
native form for writing, while reading decides with the one for reading. What makes the two
decisions agree in every reachable state is that both come down to one fact about the layout,
whether it shows an ordinal (`formOf_of_showsOrdinal`, `formOf_of_not_showsOrdinal`).
-/

namespace DateLayout

open DateLayout.Calendar DateLayout.Strftime

/-- The layout is no well known one and has an ordinal token among its pieces. -/
def Translator.ShowsOrdinal (t : Translator) (layout : String) : Prop :=
  WellKnown.find? layout t.tier = none ∧
    ∃ ps, t.grammar.Reads layout.toList ps ∧ ∃ p ∈ ps, p.ordinal?.isSome = true

theorem ordinalsOf_ne_nil_iff {ps : List Piece} :
    ordinalsOf ps ≠ [] ↔ ∃ p ∈ ps, p.ordinal?.isSome = true := by
  rw [ordinalsOf, ne_eq, List.filterMap_eq_nil_iff]
  simp [Option.isSome_iff_ne_none]

variable {t : Translator} {layout : String}

namespace Translator

/-! ## Ordinals in either native form -/

theorem formOf_of_showsOrdinal (h : t.ShowsOrdinal layout) :
    (∃ parts, t.formOf layout .formatting = .ok (.segments parts)) ∧
      ∃ token position,
        t.formOf layout .parsing = .error (.ordinalNotReadable token position) := by
  obtain ⟨unknown, ps, reads, shown⟩ := h
  have mixed := ordinalsOf_ne_nil_iff.2 shown
  rw [formOf, formOf, unknown]
  refine ⟨⟨_, Grammar.translate_segments reads mixed⟩, ?_⟩
  obtain ⟨before, token, spelling, after, kind, rfl, first, ordinal⟩ :=
    Grammar.exists_first_ordinal mixed
  exact ⟨_, _, Grammar.translate_refused reads first ordinal⟩

theorem formOf_of_not_showsOrdinal (h : ¬ t.ShowsOrdinal layout) :
    (∃ native, t.formOf layout .formatting = .ok (.literal native)) ∧
      ∃ native, t.formOf layout .parsing = .ok (.literal native) := by
  rw [formOf, formOf]
  cases unknown : WellKnown.find? layout t.tier with
  | some known => exact ⟨⟨_, rfl⟩, _, rfl⟩
  | none =>
      obtain ⟨ps, reads⟩ := t.grammar.exists_reads layout.toList
      have plain : ordinalsOf ps = [] := by
        refine Decidable.not_not.1 fun mixed => ?_
        exact h ⟨unknown, ps, reads, ordinalsOf_ne_nil_iff.1 mixed⟩
      exact ⟨⟨_, Grammar.translate_literal reads plain⟩,
        _, Grammar.translate_literal reads plain⟩

/-! ## Reading -/

/-- How reading a text with a layout can fail: for an ordinal if and only if the layout shows one,
and in no other way than for the text, which the error tells together with the native layout that
the given one is translated to. -/
structure ReadingFails {β : Type} (t : Translator) (layout text : String)
    (form : Except LayoutError NativeForm) (result : Except LayoutError β) : Prop where
  ordinal_iff : (∃ token position, result = .error (.ordinalNotReadable token position)) ↔
    t.ShowsOrdinal layout
  other : ∀ e, result = .error e →
    (∃ token position, e = .ordinalNotReadable token position) ∨
      ∃ native fault, e = .notReadable native text fault ∧ form = .ok (.literal native)

/-- Whatever reads the text once the native layout is there, it fails in these ways. -/
theorem readingFails {β : Type} (t : Translator) (layout text : String)
    (read : String → Except Fault β) :
    t.ReadingFails layout text (t.formOf layout .parsing)
      (t.nativeOf layout >>= fun native => (read native).mapError (.notReadable native text)) := by
  by_cases shown : t.ShowsOrdinal layout
  · obtain ⟨-, token, position, refused⟩ := formOf_of_showsOrdinal shown
    rw [nativeOf, refused]
    refine ⟨⟨fun _ => shown, fun _ => ⟨token, position, rfl⟩⟩, ?_⟩
    rintro e ⟨⟩
    exact .inl ⟨token, position, rfl⟩
  · obtain ⟨-, native, translated⟩ := formOf_of_not_showsOrdinal shown
    have reads : (t.nativeOf layout >>= fun native =>
        (read native).mapError (.notReadable native text)) =
          (read native).mapError (.notReadable native text) := by
      rw [nativeOf, translated]
      rfl
    rw [reads, translated]
    cases read native with
    | ok value =>
        refine ⟨⟨?_, fun h => absurd h shown⟩, ?_⟩
        · rintro ⟨token, position, ⟨⟩⟩
        · rintro e ⟨⟩
    | error fault =>
        refine ⟨⟨?_, fun h => absurd h shown⟩, ?_⟩
        · rintro ⟨token, position, ⟨⟩⟩
        · rintro e ⟨⟩
          exact .inr ⟨native, fault, rfl, rfl⟩

/-! ## Writing and converting -/

variable {α : Type} [Timestamp α]

/-- Writing fails only for a native layout that the value cannot be written with. -/
theorem exists_notWritable_of_formatted {v : α} {e : LayoutError}
    (h : t.formatted v layout = .error e) : ∃ native, e = .notWritable native := by
  obtain ⟨form, made⟩ := t.exists_formOf_formatting layout
  rw [formatted, made] at h
  cases form with
  | literal native => exact ⟨native, (renderNative_eq_error_iff.1 h).2⟩
  | segments parts =>
      obtain ⟨before, native, after, -, -, -, rfl⟩ := renderSegments_eq_error_iff.1 h
      exact ⟨native, rfl⟩

/-- Converting between different layouts, once the source is known to have no ordinals. -/
theorem converted_of_not_showsOrdinal {text source target : String} (differ : source ≠ target)
    (h : ¬ t.ShowsOrdinal source) :
    t.converted text source target =
      (t.parsed source text >>= fun m => t.formatted m target) := by
  obtain ⟨⟨native, written⟩, -⟩ := formOf_of_not_showsOrdinal h
  rw [converted, if_neg differ, written]
  rfl

theorem converted_of_showsOrdinal {text source target : String} (differ : source ≠ target)
    (h : t.ShowsOrdinal source) :
    t.converted text source target = .error (.ordinalsInSource source) := by
  obtain ⟨⟨parts, written⟩, -⟩ := formOf_of_showsOrdinal h
  rw [converted, if_neg differ, written]
  rfl

/-- Without ordinals in the source, a conversion fails for the text, or for a target that the
moment cannot be written with. -/
theorem error_of_converted {text source target : String} (differ : source ≠ target)
    (h : ¬ t.ShowsOrdinal source) {e : LayoutError}
    (failed : t.converted text source target = .error e) :
    (∃ native fault, e = .notReadable native text fault) ∨
      ∃ (m : Moment) (native : String), t.formatted m target = .error e ∧
        e = .notWritable native := by
  rw [converted_of_not_showsOrdinal differ h] at failed
  have reading : t.ReadingFails source text (t.formOf source .parsing) (t.parsed source text) :=
    t.readingFails source text fun native => Reader.readMoment native text
  rcases error_of_bind failed with refused | ⟨m, -, failed⟩
  · rcases reading.other e refused with ⟨token, position, rfl⟩ | ⟨native, fault, rfl, -⟩
    · exact absurd (reading.ordinal_iff.1 ⟨token, position, refused⟩) h
    · exact .inl ⟨native, fault, rfl⟩
  · obtain ⟨native, rfl⟩ := exists_notWritable_of_formatted failed
    exact .inr ⟨m, native, failed, rfl⟩

theorem formatted_ne_notWritable (standard : t.grammar = .standard) (m : Moment)
    (native : String) : t.formatted m layout ≠ .error (.notWritable native) := by
  obtain ⟨text, done⟩ := t.exists_formatted_moment standard layout m
  rw [done]
  rintro ⟨⟩

end Translator

/-- The ways in which reading and converting fail, in every state that is reached without writing
to the cache. Reading fails for an ordinal in the layout or for the text. Converting between equal
layouts returns any text; between different ones it fails for an ordinal in the source under a
name of its own, and is otherwise reading and then writing. -/
theorem failures_of_reachable (t : Translator) (j : Journal) (reachable : Reachable t j.cache)
    (layout text : String) :
    t.ReadingFails layout text ((t.translate layout .parsing).runOn j).1
        ((t.parse layout text).runOn j).1 ∧
      (∀ zone, t.ReadingFails layout text ((t.translate layout .parsing).runOn j).1
        ((t.parseIn layout text zone).runOn j).1) ∧
      (t.convert text layout layout).runOn j = (.ok text, j) ∧
      ∀ target, layout ≠ target →
        (((t.convert text layout target).runOn j).1 = .error (.ordinalsInSource layout) ↔
          t.ShowsOrdinal layout) ∧
        (∀ token position, ((t.convert text layout target).runOn j).1 ≠
          .error (.ordinalNotReadable token position)) ∧
        (¬ t.ShowsOrdinal layout → ((t.convert text layout target).runOn j).1 =
          ((t.parse layout text >>= fun m => t.format m target).runOn j).1) ∧
        (t.grammar = .standard → ∀ native,
          ((t.convert text layout target).runOn j).1 ≠ .error (.notWritable native)) := by
  have faithful := reachable.faithful
  rw [(t.settles_translate layout .parsing j faithful).1,
    (t.settles_parse layout text j faithful).1]
  refine ⟨t.readingFails layout text fun native => Reader.readMoment native text, ?_, ?_, ?_⟩
  · intro zone
    rw [(t.settles_parseIn layout text zone j faithful).1]
    exact t.readingFails layout text fun native => Reader.readMomentIn native text zone
  · rw [Translator.convert, if_pos rfl]
    rfl
  · intro target differ
    rw [(t.settles_convert text layout target j faithful).1]
    by_cases shown : t.ShowsOrdinal layout
    · rw [Translator.converted_of_showsOrdinal differ shown]
      refine ⟨iff_of_true rfl shown, ?_, fun h => absurd shown h, ?_⟩
      · rintro token position ⟨⟩
      · rintro - native ⟨⟩
    · refine ⟨iff_of_false ?_ shown, ?_, fun _ => ?_, ?_⟩
      · intro failed
        rcases Translator.error_of_converted differ shown failed with
          ⟨native, fault, ⟨⟩⟩ | ⟨m, native, -, ⟨⟩⟩
      · intro token position failed
        rcases Translator.error_of_converted differ shown failed with
          ⟨native, fault, ⟨⟩⟩ | ⟨m, native, -, ⟨⟩⟩
      · have composed := (t.settles_parse layout text).bind fun m => t.settles_format m target
        rw [(composed j faithful).1, Translator.converted_of_not_showsOrdinal differ shown]
      · intro standard native failed
        rcases Translator.error_of_converted differ shown failed with
          ⟨native', fault, ⟨⟩⟩ | ⟨m, native', failed, -⟩
        exact Translator.formatted_ne_notWritable standard m native failed

/-- Requests after which the cache holds the form for writing of a layout that cannot be read. -/
def requestsWithOrdinals : List (Request Date) :=
  [.translate "mt dt" .formatting, .parse "mt dt" "2nd 1st", .cache .size]

theorem failures_of_reachable_ordinals :
    Reachable { Translator.standard with tier := 0 }
        (Session.finalCache .standard .enabled requestsWithOrdinals) ∧
      (let t := { Translator.standard with tier := 0 }
      let j := Journal.start (Session.finalCache .standard .enabled requestsWithOrdinals)
      t.ReadingFails "mt dt" "2nd 1st" ((t.translate "mt dt" .parsing).runOn j).1
          ((t.parse "mt dt" "2nd 1st").runOn j).1 ∧
        (∀ zone, t.ReadingFails "mt dt" "2nd 1st" ((t.translate "mt dt" .parsing).runOn j).1
          ((t.parseIn "mt dt" "2nd 1st" zone).runOn j).1) ∧
        (t.convert "2nd 1st" "mt dt" "mt dt").runOn j = (.ok "2nd 1st", j) ∧
        ∀ target, "mt dt" ≠ target →
          (((t.convert "2nd 1st" "mt dt" target).runOn j).1 = .error (.ordinalsInSource "mt dt") ↔
            t.ShowsOrdinal "mt dt") ∧
          (∀ token position, ((t.convert "2nd 1st" "mt dt" target).runOn j).1 ≠
            .error (.ordinalNotReadable token position)) ∧
          (¬ t.ShowsOrdinal "mt dt" → ((t.convert "2nd 1st" "mt dt" target).runOn j).1 =
            ((t.parse "mt dt" "2nd 1st" >>= fun m => t.format m target).runOn j).1) ∧
          (t.grammar = .standard → ∀ native,
            ((t.convert "2nd 1st" "mt dt" target).runOn j).1 ≠ .error (.notWritable native))) := by
  have writes : ∀ r ∈ requestsWithOrdinals, r.WritesNothing := by
    simp [requestsWithOrdinals, Request.WritesNothing]
  have reachable := ((Reachable.enabled .standard).finalCache writes).withTier 0
  exact ⟨reachable, failures_of_reachable _ _ reachable "mt dt" "2nd 1st"⟩

end DateLayout
