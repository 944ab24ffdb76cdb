import DateLayout.Scan

/-!
# The position of a scan

A scan moves through the bytes of a layout, by the size of a character or by the size of a token's
own text, while the layout is made of characters. `Scan.Past` is the invariant that holds the two
together: the bytes before the position are those of whole characters, and there are at least as
many of these as steps were made. A token that matches byte by byte matches character by character,
in whatever script it is written, so a step over a token keeps the invariant like any other one
(`Scan.Past.moved`).

From the step follows the run. Every scan that it comes through has its position between two
characters, so a step is always possible (`Visits.past`). The characters also bound the number of
steps, and there is a last scan, at which the run returns (`exists_returns`).
-/

namespace DateLayout

open DateLayout.Text

/-- The position is right behind some characters of the layout, at least as many as given. -/
def Scan.Past (layout : List Char) (steps : Nat) (s : Scan) : Prop :=
  ∃ front rest, layout = front ++ rest ∧ s.position = byteCount front ∧ steps ≤ front.length

namespace Grammar

/-- The scans that the run over a layout comes through, with the number of steps before each. -/
inductive Visits (g : Grammar) (mode : Mode) (layout : List Char) : Nat → Scan → Prop where
  | start : g.Visits mode layout 0 .start
  | step {steps : Nat} {s next : Scan} (before : g.Visits mode layout steps s)
      (moved : g.scanStep mode layout s = .moved next) : g.Visits mode layout (steps + 1) next

/-- The run ends at the scan, with an outcome. -/
inductive Returns (g : Grammar) (mode : Mode) (layout : List Char) (s : Scan) :
    Except LayoutError NativeForm → Prop where
  | finished {form : NativeForm} (step : g.scanStep mode layout s = .finished form) :
      g.Returns mode layout s (.ok form)
  | refused {e : LayoutError} (step : g.scanStep mode layout s = .refused e) :
      g.Returns mode layout s (.error e)

end Grammar

variable {g : Grammar} {mode : Mode} {layout : List Char} {s next : Scan} {steps : Nat}

/-! ## One step -/

namespace Scan.Past

theorem moved (h : s.Past layout steps) (step : g.scanStep mode layout s = .moved next) :
    next.Past layout (steps + 1) := by
  obtain ⟨before, after, whole, position, count⟩ := h
  obtain ⟨front, rest, here, further, size⟩ := Grammar.exists_front_of_moved step
  have behind : fromByte? s.position layout = some after :=
    fromByte?_eq_some_iff.2 ⟨before, whole.symm, position.symm⟩
  obtain rfl : after = front ++ rest := Option.some.inj (behind.symm.trans here)
  have taken : 0 < front.length := by
    cases front with
    | nil => exact absurd size (Nat.lt_irrefl 0)
    | cons c front => exact Nat.succ_pos _
  refine ⟨before ++ front, rest, by rw [whole, List.append_assoc], ?_, ?_⟩
  · rw [further, position, byteCount_append]
  · rw [List.length_append]
    omega

theorem onEdge (h : s.Past layout steps) : s.OnEdge layout := by
  obtain ⟨front, rest, whole, position, -⟩ := h
  rw [OnEdge, fromByte?_eq_some_iff.2 ⟨front, whole.symm, position.symm⟩]
  rfl

theorem steps_le (h : s.Past layout steps) : steps ≤ layout.length := by
  obtain ⟨front, rest, rfl, -, count⟩ := h
  rw [List.length_append]
  omega

/-- A scan that is refused has a token before it, so not all characters are behind it. -/
theorem steps_lt_of_refused (h : s.Past layout steps) {e : LayoutError}
    (step : g.scanStep mode layout s = .refused e) : steps < layout.length := by
  obtain ⟨front, rest, rfl, position, count⟩ := h
  cases rest with
  | nil =>
      have here : fromByte? s.position (front ++ []) = some [] :=
        fromByte?_eq_some_iff.2 ⟨front, rfl, position.symm⟩
      rw [Grammar.scanStep_end here] at step
      cases step
  | cons c rest =>
      rw [List.length_append, List.length_cons]
      omega

end Scan.Past

/-! ## The run -/

namespace Grammar

theorem Visits.past (h : g.Visits mode layout steps s) : s.Past layout steps := by
  induction h with
  | start => exact ⟨[], layout, rfl, rfl, Nat.le_refl 0⟩
  | step before moved ih => exact ih.moved moved

/-- Wherever a run has come, it goes on to a scan at which it returns. -/
theorem exists_returns (h : g.Visits mode layout steps s) :
    ∃ steps' last outcome, g.Visits mode layout steps' last ∧
      g.Returns mode layout last outcome ∧ g.scanFrom mode layout s = some outcome := by
  fun_induction g.scanFrom mode layout s generalizing steps with
  | case1 s next step ih => exact ih (h.step step)
  | case2 s form step => exact ⟨steps, s, _, h, .finished step, rfl⟩
  | case3 s e step => exact ⟨steps, s, _, h, .refused step, rfl⟩
  | case4 s step => exact absurd step (scanStep_ne_offEdge h.past.onEdge)

/-- At every step of a translation the position is inside of the layout, between two characters of
it, and so is the position behind the character that stands there: no cut is off the edge. The step
either returns, or it goes on to a later position in the layout. So the run ends, with no more
steps than the layout has characters. -/
theorem scan_stays_on_edges (g : Grammar) (mode : Mode) (layout : String) :
    (∀ steps s, g.Visits mode layout.toList steps s →
      steps ≤ layout.length ∧ s.position ≤ layout.utf8ByteSize ∧
        (String.Pos.Raw.mk s.position).IsValid layout ∧
        (∀ c rest, fromByte? s.position layout.toList = some (c :: rest) →
          (String.Pos.Raw.mk (s.position + c.utf8Size)).IsValid layout) ∧
        ((∃ outcome, g.Returns mode layout.toList s outcome) ∨
          ∃ next, g.scanStep mode layout.toList s = .moved next ∧
            s.position < next.position ∧ next.position ≤ layout.utf8ByteSize)) ∧
      ∃ steps last, g.Visits mode layout.toList steps last ∧
        g.Returns mode layout.toList last (g.translate layout mode) ∧
        ∀ e, g.translate layout mode = .error e → steps < layout.length := by
  refine ⟨fun steps s h => ?_, ?_⟩
  · obtain ⟨rest, here⟩ := Option.isSome_iff_exists.1 h.past.onEdge
    refine ⟨?_, ?_, isValid_of_fromByte? here, ?_, ?_⟩
    · rw [← String.length_toList]
      exact h.past.steps_le
    · rw [← byteCount_toList, ← add_byteCount_of_fromByte? here]
      exact Nat.le_add_right _ _
    · intro c rest here
      have behind : fromByte? (s.position + byteCount [c]) layout.toList = some rest :=
        fromByte?_add here
      exact isValid_of_fromByte? behind
    · cases step : g.scanStep mode layout.toList s with
      | moved next =>
          refine .inr ⟨next, rfl, position_lt_of_moved step, ?_⟩
          rw [← byteCount_toList]
          exact position_le_of_moved step
      | finished form => exact .inl ⟨_, .finished step⟩
      | refused e => exact .inl ⟨_, .refused step⟩
      | offEdge => exact absurd step (scanStep_ne_offEdge h.past.onEdge)
  · obtain ⟨steps, last, outcome, visits, returns, run⟩ :=
      exists_returns (Visits.start : g.Visits mode layout.toList 0 .start)
    have whole : g.translate layout mode = outcome := by
      unfold translate
      simp only [run, Option.get_some]
    refine ⟨steps, last, visits, by rwa [whole], ?_⟩
    intro e failed
    rw [whole] at failed
    subst failed
    cases returns with
    | refused step =>
        rw [← String.length_toList]
        exact visits.past.steps_lt_of_refused step

end Grammar

end DateLayout
