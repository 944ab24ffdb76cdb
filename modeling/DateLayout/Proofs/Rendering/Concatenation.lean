import DateLayout.NativeForm.Rendering

/-!
# Rendering is concatenation up to the first failure

What a list of segments renders is what its parts render, one after the other, and the first part
that fails decides how the whole fails (`renderSegments_append`). This is so for every type of
values, whatever it writes and whatever it refuses: all that rendering asks of a native layout is
whether the value refuses it, and an empty one is not asked about. So failures can be told from the
segments (`renderSegments_eq_error_iff`), and empty native layouts can be put in and taken out
anywhere.

Rendering never holds a text that is only partly written. A program that adds segment after segment
to one buffer does, since a value may write some of its text before it fails. It comes to the same
result if it drops the buffer then (`outcome_writeSegmentsTo`).
-/

namespace DateLayout

open DateLayout.Strftime

variable {α : Type} [Timestamp α] {v : α} {native text : String} {s : Segment}
variable {ss : List Segment} {e : LayoutError}

/-- The value cannot be written with the native layout. The empty one is never refused. -/
def Refuses (v : α) (native : String) : Prop :=
  native ≠ "" ∧ (Timestamp.writeNative v native).complete = false

/-! ## Parts of a list of segments -/

theorem renderSegments_append (a b : List Segment) (v : α) :
    renderSegments (a ++ b) v = do
      let first ← renderSegments a v
      let others ← renderSegments b v
      return first ++ others := by
  induction a with
  | nil =>
      show renderSegments b v = _
      cases renderSegments b v with
      | error e => rfl
      | ok text => exact congrArg Except.ok String.empty_append.symm
  | cons s a ih =>
      rw [List.cons_append, renderSegments, renderSegments, ih]
      cases s.render v with
      | error e => rfl
      | ok first =>
          cases renderSegments a v with
          | error e => rfl
          | ok others =>
              cases renderSegments b v with
              | error e => rfl
              | ok rest => exact congrArg Except.ok (String.append_assoc ..).symm

theorem renderSegments_singleton (s : Segment) (v : α) : renderSegments [s] v = s.render v := by
  rw [renderSegments]
  cases s.render v with
  | error e => rfl
  | ok text => exact congrArg Except.ok String.append_empty

/-- The empty native layout adds nothing, whatever the value makes of it. -/
theorem renderSegments_empty_cons (ss : List Segment) (v : α) :
    renderSegments (.literal "" :: ss) v = renderSegments ss v := by
  rw [renderSegments, Segment.render, renderNative, if_pos rfl]
  cases renderSegments ss v with
  | error e => rfl
  | ok text => exact congrArg Except.ok String.empty_append

theorem renderSegments_filter (ss : List Segment) (v : α) :
    renderSegments (ss.filter fun s => s ≠ .literal "") v = renderSegments ss v := by
  induction ss with
  | nil => rfl
  | cons s ss ih =>
      by_cases empty : s = .literal ""
      · rw [List.filter_cons_of_neg (by simp [empty]), ih, empty, renderSegments_empty_cons]
      · rw [List.filter_cons_of_pos (by simp [empty]), renderSegments, renderSegments, ih]

/-! ## The first failure -/

theorem renderNative_of_ne_empty (h : native ≠ "") (v : α) :
    renderNative native v =
      if (Timestamp.writeNative v native).complete then .ok (Timestamp.writeNative v native).text
      else .error (.notWritable native) :=
  if_neg h

theorem renderNative_eq_error_iff :
    renderNative native v = .error e ↔ Refuses v native ∧ e = .notWritable native := by
  unfold Refuses
  by_cases empty : native = ""
  · rw [renderNative, if_pos empty]
    exact iff_of_false (by rintro ⟨⟩) fun h => h.1.1 empty
  · rw [renderNative_of_ne_empty empty]
    cases (Timestamp.writeNative v native).complete with
    | true => exact iff_of_false (by rintro ⟨⟩) (by rintro ⟨⟨-, ⟨⟩⟩, -⟩)
    | false =>
        constructor
        · rintro ⟨⟩
          exact ⟨⟨empty, rfl⟩, rfl⟩
        · rintro ⟨-, rfl⟩
          rfl

theorem Segment.render_eq_error_iff :
    s.render v = .error e ↔
      ∃ native, s = .literal native ∧ Refuses v native ∧ e = .notWritable native := by
  cases s with
  | literal native =>
      rw [render, renderNative_eq_error_iff]
      constructor
      · intro h
        exact ⟨native, rfl, h⟩
      · rintro ⟨other, ⟨⟩, h⟩
        exact h
  | ordinal kind => exact iff_of_false (by rintro ⟨⟩) (by rintro ⟨native, ⟨⟩, -⟩)

/-- Segments fail as the first one does that fails. -/
theorem renderSegments_eq_error_iff_exists :
    renderSegments ss v = .error e ↔
      ∃ before s after, ss = before ++ s :: after ∧
        (∀ earlier ∈ before, ∃ text, earlier.render v = .ok text) ∧ s.render v = .error e := by
  induction ss with
  | nil =>
      refine iff_of_false (by rintro ⟨⟩) ?_
      rintro ⟨before, s, after, whole, -⟩
      cases before <;> cases whole
  | cons s ss ih =>
      rw [renderSegments]
      constructor
      · intro failed
        rcases error_of_bind failed with here | ⟨text, done, failed⟩
        · exact ⟨[], s, ss, rfl, nofun, here⟩
        · rcases error_of_bind failed with others | ⟨rest, -, ⟨⟩⟩
          obtain ⟨before, t, after, rfl, taken, there⟩ := ih.1 others
          refine ⟨s :: before, t, after, rfl, ?_, there⟩
          intro earlier mem
          rcases List.mem_cons.1 mem with rfl | mem
          · exact ⟨text, done⟩
          · exact taken earlier mem
      · rintro ⟨before, t, after, whole, taken, there⟩
        cases before with
        | nil =>
            obtain ⟨rfl, rfl⟩ := List.cons.inj whole
            rw [there]
            rfl
        | cons first before =>
            rw [List.cons_append] at whole
            obtain ⟨rfl, rfl⟩ := List.cons.inj whole
            obtain ⟨text, done⟩ := taken s (List.mem_cons_self ..)
            have others : renderSegments (before ++ t :: after) v = .error e :=
              ih.2 ⟨before, t, after, rfl,
                fun earlier mem => taken earlier (List.mem_cons_of_mem s mem), there⟩
            rw [done, others]
            rfl

theorem Segment.exists_ok_iff :
    (∃ text, s.render v = .ok text) ↔ ∀ native, s = .literal native → ¬ Refuses v native := by
  constructor
  · rintro ⟨text, done⟩ native rfl refused
    rw [render_eq_error_iff.2 ⟨native, rfl, refused, rfl⟩] at done
    cases done
  · intro taken
    cases result : s.render v with
    | ok text => exact ⟨text, rfl⟩
    | error e =>
        obtain ⟨native, here, refused, -⟩ := render_eq_error_iff.1 result
        exact absurd refused (taken native here)

/-- The error is that of the leftmost native layout that the value refuses. -/
theorem renderSegments_eq_error_iff :
    renderSegments ss v = .error e ↔
      ∃ before native after, ss = before ++ .literal native :: after ∧ Refuses v native ∧
        (∀ earlier, .literal earlier ∈ before → ¬ Refuses v earlier) ∧
        e = .notWritable native := by
  rw [renderSegments_eq_error_iff_exists]
  constructor
  · rintro ⟨before, s, after, rfl, taken, here⟩
    obtain ⟨native, rfl, refused, rfl⟩ := Segment.render_eq_error_iff.1 here
    exact ⟨before, native, after, rfl, refused,
      fun earlier mem => Segment.exists_ok_iff.1 (taken _ mem) earlier rfl, rfl⟩
  · rintro ⟨before, native, after, rfl, refused, taken, rfl⟩
    refine ⟨before, .literal native, after, rfl, ?_,
      Segment.render_eq_error_iff.2 ⟨native, rfl, refused, rfl⟩⟩
    rintro earlier mem
    exact Segment.exists_ok_iff.2 fun native here => taken native (here ▸ mem)

/-- One refusal anywhere makes the whole fail. -/
theorem exists_error_iff_exists_refused :
    (∃ e, renderSegments ss v = .error e) ↔ ∃ native, .literal native ∈ ss ∧ Refuses v native := by
  constructor
  · rintro ⟨e, failed⟩
    obtain ⟨before, native, after, rfl, refused, -⟩ := renderSegments_eq_error_iff.1 failed
    exact ⟨native, List.mem_append_right before (List.mem_cons_self ..), refused⟩
  · rintro ⟨native, mem, refused⟩
    obtain ⟨before, after, rfl⟩ := List.append_of_mem mem
    cases result : renderSegments (before ++ .literal native :: after) v with
    | error e => exact ⟨e, rfl⟩
    | ok text =>
        rw [renderSegments_append] at result
        obtain ⟨front, -, result⟩ := exists_of_bind_ok result
        obtain ⟨back, result, -⟩ := exists_of_bind_ok result
        obtain ⟨here, done, -⟩ := exists_of_bind_ok result
        exact absurd refused (Segment.exists_ok_iff.1 ⟨here, done⟩ native rfl)

/-! ## Rendering into a buffer -/

/-- Adds what a segment renders to a text in the making. If the value cannot be written, a part of
its text may be there. -/
def Segment.writeTo (s : Segment) (v : α) (buffer : String) : String × Option LayoutError :=
  match s with
  | .literal native =>
      if native = "" then (buffer, none)
      else
        let written := Timestamp.writeNative v native
        (buffer ++ written.text, if written.complete then none else some (.notWritable native))
  | .ordinal kind => (buffer ++ ordinalText (kind.number v), none)

/-- Adds segment after segment to a text in the making, up to the first that fails. -/
def writeSegmentsTo (ss : List Segment) (v : α) (buffer : String) : String × Option LayoutError :=
  match ss with
  | [] => (buffer, none)
  | s :: rest =>
      match s.writeTo v buffer with
      | (longer, none) => writeSegmentsTo rest v longer
      | failed => failed

/-- The text that is returned: all of it, or none if writing failed. -/
def outcome (written : String × Option LayoutError) : Except LayoutError String :=
  match written.2 with
  | none => .ok written.1
  | some e => .error e

theorem Segment.outcome_writeTo (s : Segment) (v : α) (buffer : String) :
    outcome (s.writeTo v buffer) = (s.render v).map (buffer ++ ·) := by
  cases s with
  | literal native =>
      rw [writeTo, render, renderNative]
      by_cases empty : native = ""
      · rw [if_pos empty, if_pos empty]
        exact congrArg Except.ok String.append_empty.symm
      · rw [if_neg empty, if_neg empty]
        dsimp only
        cases (Timestamp.writeNative v native).complete <;> rfl
  | ordinal kind => rfl

theorem outcome_writeSegmentsTo (ss : List Segment) (v : α) (buffer : String) :
    outcome (writeSegmentsTo ss v buffer) = (renderSegments ss v).map (buffer ++ ·) := by
  induction ss generalizing buffer with
  | nil => exact congrArg Except.ok String.append_empty.symm
  | cons s ss ih =>
      have step := s.outcome_writeTo v buffer
      rw [writeSegmentsTo, renderSegments]
      rcases wrote : s.writeTo v buffer with ⟨longer, _ | e⟩
      · rw [wrote] at step
        cases done : s.render v with
        | error e =>
            rw [done] at step
            cases step
        | ok text =>
            rw [done] at step
            cases step
            show outcome (writeSegmentsTo ss v (buffer ++ text)) = _
            rw [ih]
            cases renderSegments ss v with
            | error e => rfl
            | ok others => exact congrArg Except.ok (String.append_assoc ..)
      · rw [wrote] at step
        cases done : s.render v with
        | ok text =>
            rw [done] at step
            cases step
        | error e' =>
            rw [done] at step
            exact step

/-! ## Ordinals -/

theorem ordinalText_eq (n : Nat) :
    ordinalText n = toString n ++
      if 11 ≤ n % 100 ∧ n % 100 ≤ 13 then "th"
      else if n % 10 = 1 then "st"
      else if n % 10 = 2 then "nd"
      else if n % 10 = 3 then "rd"
      else "th" := by
  refine congrArg (toString n ++ ·) ?_
  unfold ordinalSuffix
  split
  · rfl
  · split
    · next last => rw [if_pos last]
    · next last => rw [last]; rfl
    · next last => rw [last]; rfl
    · next first second third => rw [if_neg first, if_neg second, if_neg third]

/-- Rendering segments is rendering their parts one after the other. It fails if and only if the
value refuses a native layout among them, and then for the leftmost of these and without any text.
Empty native layouts make no difference, and an ordinal is its digits and its English suffix. -/
theorem render_concatenates (v : α) :
    (∀ a b, (NativeForm.segments (a ++ b)).render v = do
      let first ← (NativeForm.segments a).render v
      let others ← (NativeForm.segments b).render v
      return first ++ others) ∧
    (∀ native, (NativeForm.segments [.literal native]).render v =
      (NativeForm.literal native).render v) ∧
    (∀ a b : List Segment,
      (a.filter fun s => s ≠ .literal "") = (b.filter fun s => s ≠ .literal "") →
        (NativeForm.segments a).render v = (NativeForm.segments b).render v) ∧
    (∀ ss, (∃ e, (NativeForm.segments ss).render v = .error e) ↔
      ∃ native, .literal native ∈ ss ∧ Refuses v native) ∧
    (∀ ss e, (NativeForm.segments ss).render v = .error e ↔
      ∃ before native after, ss = before ++ .literal native :: after ∧ Refuses v native ∧
        (∀ earlier, .literal earlier ∈ before → ¬ Refuses v earlier) ∧
        e = .notWritable native) ∧
    (∀ ss, (NativeForm.segments ss).render v = outcome (writeSegmentsTo ss v "")) ∧
    ∀ kind : OrdinalKind, (NativeForm.segments [.ordinal kind]).render v =
      .ok (toString (kind.number v) ++
        if 11 ≤ kind.number v % 100 ∧ kind.number v % 100 ≤ 13 then "th"
        else if kind.number v % 10 = 1 then "st"
        else if kind.number v % 10 = 2 then "nd"
        else if kind.number v % 10 = 3 then "rd"
        else "th") := by
  refine ⟨fun a b => renderSegments_append a b v,
    fun native => renderSegments_singleton (.literal native) v, ?_,
    fun ss => exists_error_iff_exists_refused, fun ss e => renderSegments_eq_error_iff, ?_, ?_⟩
  · intro a b same
    show renderSegments a v = renderSegments b v
    rw [← renderSegments_filter a, same, renderSegments_filter]
  · intro ss
    rw [outcome_writeSegmentsTo]
    show renderSegments ss v = (renderSegments ss v).map ("" ++ ·)
    cases renderSegments ss v with
    | error e => rfl
    | ok text => exact congrArg Except.ok String.empty_append.symm
  · intro kind
    show renderSegments [.ordinal kind] v = _
    rw [renderSegments_singleton, Segment.render, ordinalText_eq]

end DateLayout
