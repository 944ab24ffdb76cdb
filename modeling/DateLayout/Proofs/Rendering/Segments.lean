import DateLayout.Proofs.Cache.Faithful
import DateLayout.Proofs.Rendering.Items

/-!
# Rendering piece by piece

What a native form writes of a value, in terms of the pieces of the layout it was made from. The
values are those that write themselves with strftime items (`Stamped`): moments, local times and
dates.

Writing is compatible with putting a piece in front of a native layout (`write_native_append`),
because the items of the piece are the same there as by themselves. From this a rendered text is
the texts of the pieces one after the other (`exists_texts_of_rendered`). An ordinal has the text
that the plain number would have, and its suffix.

Where rendering fails, it does so at the first native layout that the value cannot be written
with, and with the error for just this one (`rendered_of_find?`).
-/

namespace DateLayout

open DateLayout.Calendar DateLayout.Strftime DateLayout.Text

/-- Values that write themselves as their stamps are written with strftime items. -/
class Stamped (α : Type) [Timestamp α] where
  stamp : α → Stamp
  writeNative_eq : ∀ (v : α) (native : String),
    Timestamp.writeNative v native = .ofOption (Strftime.write native (stamp v))
  day_eq : ∀ v : α, Timestamp.day v = (stamp v).date.day
  month_eq : ∀ v : α, Timestamp.month v = (stamp v).date.month

instance : Stamped Date :=
  ⟨Date.stamp, fun _ _ => rfl, fun _ => rfl, fun _ => rfl⟩

instance : Stamped LocalDateTime :=
  ⟨LocalDateTime.stamp, fun _ _ => rfl, fun _ => rfl, fun _ => rfl⟩

instance : Stamped Moment :=
  ⟨Moment.stamp, fun _ _ => rfl, fun _ => rfl, fun _ => rfl⟩

instance : Stamped ZonedMoment :=
  ⟨ZonedMoment.stamp, fun _ _ => rfl, fun _ => rfl, fun _ => rfl⟩

section

variable {α : Type} [Timestamp α]

/-- What a value writes with a native layout, if it can write all of it. -/
def writtenText? (v : α) (native : String) : Option String :=
  let written := Timestamp.writeNative v native
  if written.complete then some written.text else none

/-- The letter for the number that an ordinal shows, the same in layouts and native layouts. -/
def OrdinalKind.letter : OrdinalKind → String
  | .day => "d"
  | .month => "m"

/-- The token for the number that an ordinal shows, without the suffix. -/
def OrdinalKind.numeral (kind : OrdinalKind) : Token :=
  .native kind.letter ("%-" ++ kind.letter)

/-- The native layouts of a form, without the ordinals between them. -/
def NativeForm.natives : NativeForm → List String
  | .literal native => [native]
  | .segments parts =>
      parts.filterMap fun
        | .literal native => some native
        | .ordinal _ => none

/-- What the form made of pieces renders. -/
def rendered (v : α) (ps : List Piece) : Except LayoutError String :=
  renderSegments (alternate (nativesOf .formatting ps) (ordinalsOf ps)) v

end

variable {p : Piece} {ps : List Piece} {mode : Mode}

theorem write_empty (s : Stamp) : Strftime.write "" s = some "" := by
  show (writeItems (items []) s).map String.ofList = _
  rw [items_nil]
  rfl

section

variable {α : Type} [Timestamp α] {v : α}

theorem renderSegments_cons_of_ok {s : Segment} {rest : List Segment} {first others : String}
    (h : s.render v = .ok first) (h' : renderSegments rest v = .ok others) :
    renderSegments (s :: rest) v = .ok (first ++ others) := by
  rw [renderSegments, h, h']
  rfl

end

section

variable {α : Type} [Timestamp α] [Stamped α] {v : α}

theorem writtenText?_eq (v : α) (native : String) :
    writtenText? v native = Strftime.write native (Stamped.stamp v) := by
  unfold writtenText?
  rw [Stamped.writeNative_eq]
  cases Strftime.write native (Stamped.stamp v) <;> rfl

theorem renderNative_of_written {native text : String} (h : writtenText? v native = some text) :
    renderNative native v = .ok text := by
  rw [renderNative]
  split
  · next empty =>
      subst empty
      rw [writtenText?_eq, write_empty] at h
      cases h
      rfl
  · simp only [writtenText?] at h ⊢
    split at h
    · next complete =>
        cases h
        exact if_pos complete
    · cases h

theorem renderNative_of_not_written {native : String} (h : writtenText? v native = none) :
    renderNative native v = .error (.notWritable native) := by
  rw [renderNative]
  split
  · next empty =>
      subst empty
      rw [writtenText?_eq, write_empty] at h
      cases h
  · simp only [writtenText?] at h ⊢
    split at h
    · cases h
    · next part => exact if_neg part

/-- What comes after the first native layout does not depend on it. -/
theorem exists_alternate_cons (natives : List String) (kinds : List OrdinalKind) :
    ∃ parts, ∀ native, alternate (native :: natives) kinds = .literal native :: parts := by
  cases kinds with
  | nil => exact ⟨[], fun _ => rfl⟩
  | cons kind kinds => exact ⟨.ordinal kind :: alternate natives kinds, fun _ => rfl⟩

theorem renderSegments_of_find? {natives : List String} {kinds : List OrdinalKind}
    (h : natives.length = kinds.length + 1) :
    (∀ native, natives.find? (fun native => (writtenText? v native).isNone) = some native →
        renderSegments (alternate natives kinds) v = .error (.notWritable native)) ∧
      (natives.find? (fun native => (writtenText? v native).isNone) = none →
        ∃ text, renderSegments (alternate natives kinds) v = .ok text) := by
  induction natives generalizing kinds with
  | nil => cases h
  | cons first natives ih =>
      rw [List.find?_cons]
      cases written : writtenText? v first with
      | none =>
          obtain ⟨parts, hparts⟩ := exists_alternate_cons natives kinds
          refine ⟨?_, nofun⟩
          intro native same
          cases same
          rw [hparts, renderSegments]
          show (do let first ← renderNative first v; _) = _
          rw [renderNative_of_not_written written]
          rfl
      | some text =>
          have here : (Segment.literal first).render v = .ok text :=
            renderNative_of_written written
          cases kinds with
          | nil =>
              obtain rfl : natives = [] := List.length_eq_zero_iff.1 (Nat.succ.inj h)
              refine ⟨nofun, fun _ => ?_⟩
              exact ⟨_, renderSegments_cons_of_ok here rfl⟩
          | cons kind kinds =>
              obtain ⟨fails, writes⟩ := ih (Nat.succ.inj h)
              have number : (Segment.ordinal kind).render v = .ok (ordinalText (kind.number v)) :=
                rfl
              refine ⟨?_, ?_⟩
              · intro native found
                rw [alternate, renderSegments, renderSegments, here, number, fails native found]
                rfl
              · intro none
                obtain ⟨others, done⟩ := writes none
                exact ⟨_, renderSegments_cons_of_ok here (renderSegments_cons_of_ok number done)⟩

/-- Rendering fails at the first native layout that cannot be written, and nowhere else. -/
theorem rendered_of_find? (v : α) (ps : List Piece) :
    (∀ native, (nativesOf .formatting ps).find? (fun native => (writtenText? v native).isNone) =
        some native → rendered v ps = .error (.notWritable native)) ∧
      ((nativesOf .formatting ps).find? (fun native => (writtenText? v native).isNone) = none →
        ∃ text, rendered v ps = .ok text) :=
  renderSegments_of_find? (length_nativesOf .formatting ps)

end

/-! ## The forms of a translator -/

theorem groupsOf_of_no_ordinal (plain : ordinalsOf ps = []) : groupsOf ps = [ps] := by
  rw [ordinalsOf, List.filterMap_eq_nil_iff] at plain
  refine List.splitOnP_eq_singleton ?_
  intro p mem
  rw [plain p mem]
  rfl

theorem natives_alternate {natives : List String} {kinds : List OrdinalKind}
    (h : natives.length = kinds.length + 1) :
    (NativeForm.segments (alternate natives kinds)).natives = natives := by
  induction natives generalizing kinds with
  | nil => cases h
  | cons native natives ih =>
      cases kinds with
      | nil =>
          obtain rfl : natives = [] := List.length_eq_zero_iff.1 (Nat.succ.inj h)
          rfl
      | cons kind kinds =>
          have others := ih (Nat.succ.inj h)
          simp only [NativeForm.natives] at others ⊢
          rw [alternate, List.filterMap_cons, List.filterMap_cons]
          simp only [others]

variable {t : Translator} {layout : String}

/-- The native layouts of a form are those of the groups of pieces between the ordinals. -/
theorem natives_of_formOf (reads : t.grammar.Reads layout.toList ps)
    (unknown : WellKnown.find? layout t.tier = none) {form : NativeForm}
    (h : t.formOf layout mode = .ok form) : form.natives = (groupsOf ps).map (nativeOf mode) := by
  rw [Translator.formOf, unknown] at h
  simp only [] at h
  by_cases plain : ordinalsOf ps = []
  · rw [Grammar.translate_literal reads plain] at h
    cases h
    rw [groupsOf_of_no_ordinal plain]
    rfl
  · cases mode with
    | formatting =>
        rw [Grammar.translate_segments reads plain] at h
        cases h
        exact natives_alternate (length_nativesOf .formatting ps)
    | parsing =>
        obtain ⟨before, u, spelling, after, kind, rfl, first, ordinal⟩ :=
          Grammar.exists_first_ordinal plain
        rw [Grammar.translate_refused reads first ordinal] at h
        cases h

theorem formatted_eq_rendered {α : Type} [Timestamp α] (v : α)
    (reads : t.grammar.Reads layout.toList ps)
    (unknown : WellKnown.find? layout t.tier = none) : t.formatted v layout = rendered v ps := by
  rw [Translator.formatted, Translator.formOf, unknown, rendered]
  by_cases plain : ordinalsOf ps = []
  · simp only [Grammar.translate_literal reads plain]
    rw [nativesOf, groupsOf_of_no_ordinal plain, plain]
    show renderNative _ v = renderSegments [.literal (nativeOf .formatting ps)] v
    rw [renderSegments]
    show _ = (do let first ← renderNative _ v; _)
    cases renderNative (nativeOf .formatting ps) v with
    | error e => rfl
    | ok text => exact congrArg Except.ok (String.append_empty).symm
  · simp only [Grammar.translate_segments reads plain]
    rfl

end DateLayout
