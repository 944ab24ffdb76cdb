import DateLayout.Error
import DateLayout.Grammar.Basic
import DateLayout.NativeForm

/-!
# Scanning a layout

A scan reads a layout from left to right and makes its native form on the way. It keeps the byte
position of what it reads next. An escape makes the character after it stand for itself; otherwise
the longest token is taken, and a character that begins no token stands for itself. Reading a
layout with an ordinal token is refused where the token is.

The position has to be between two characters for a step to be possible. `onEdge_of_moved` says
that a step keeps it there, whatever the grammar, and `position_lt_of_moved` that it goes on, so
that every scan ends with a native form or a refusal (`isSome_scan`).
-/

namespace DateLayout

open DateLayout.Text

/-- How far a scan has come: the byte position in the layout, and what was made so far. -/
structure Scan where
  position : Nat
  draft : Draft

def Scan.start : Scan := ⟨0, .empty⟩

/-- What a step of a scan leads to. -/
inductive ScanOutcome where
  | moved (next : Scan)
  | finished (form : NativeForm)
  | refused (e : LayoutError)
  /-- The position is inside a character or past the end. -/
  | offEdge

namespace Scan

/-- A step at the escape: the character after it stands for itself, or the escape does where no
character follows. -/
def takeEscape (layout : List Char) (s : Scan) (escape : Char) : ScanOutcome :=
  match fromByte? (s.position + escape.utf8Size) layout with
  | some [] => .moved ⟨s.position + escape.utf8Size, s.draft.addPlain escape⟩
  | some (c :: _) =>
      .moved ⟨s.position + escape.utf8Size + c.utf8Size, s.draft.addPlain c⟩
  | none => .offEdge

/-- A step at a token, which goes on by the bytes of the token's own text. -/
def takeToken (mode : Mode) (s : Scan) (t : Token) : ScanOutcome :=
  match t.fragment, mode with
  | .native format _, .formatting => .moved ⟨s.position + t.size, s.draft.addNative format⟩
  | .native _ parse, .parsing => .moved ⟨s.position + t.size, s.draft.addNative parse⟩
  | .ordinal kind, .formatting => .moved ⟨s.position + t.size, s.draft.addOrdinal kind⟩
  | .ordinal _, .parsing => .refused (.ordinalNotReadable t.text s.position)

def takePlain (s : Scan) (c : Char) : ScanOutcome :=
  .moved ⟨s.position + c.utf8Size, s.draft.addPlain c⟩

/-- Whether the position is between two characters of the layout, or at one of its ends. -/
def OnEdge (layout : List Char) (s : Scan) : Prop :=
  (fromByte? s.position layout).isSome = true

end Scan

namespace Grammar

def scanStep (g : Grammar) (mode : Mode) (layout : List Char) (s : Scan) : ScanOutcome :=
  match fromByte? s.position layout with
  | none => .offEdge
  | some [] => .finished s.draft.finish
  | some (c :: rest) =>
      if c = g.escape then s.takeEscape layout c
      else
        match g.tokenAt? (c :: rest) with
        | some t => s.takeToken mode t
        | none => s.takePlain c

variable {g : Grammar} {mode : Mode} {layout : List Char} {s next : Scan}

theorem scanStep_end (here : fromByte? s.position layout = some []) :
    g.scanStep mode layout s = .finished s.draft.finish := by
  rw [scanStep, here]

theorem scanStep_escape {rest : List Char}
    (here : fromByte? s.position layout = some (g.escape :: rest)) :
    g.scanStep mode layout s = s.takeEscape layout g.escape := by
  rw [scanStep, here]
  exact if_pos rfl

theorem scanStep_token {c : Char} {rest : List Char} {t : Token}
    (here : fromByte? s.position layout = some (c :: rest)) (other : c ≠ g.escape)
    (found : g.tokenAt? (c :: rest) = some t) :
    g.scanStep mode layout s = s.takeToken mode t := by
  rw [scanStep, here]
  simp only []
  rw [if_neg other, found]

theorem scanStep_plain {c : Char} {rest : List Char}
    (here : fromByte? s.position layout = some (c :: rest)) (other : c ≠ g.escape)
    (found : g.tokenAt? (c :: rest) = none) :
    g.scanStep mode layout s = s.takePlain c := by
  rw [scanStep, here]
  simp only []
  rw [if_neg other, found]

/-- Behind the escape stands what follows it. -/
theorem takeEscape_eq {escape : Char} {rest : List Char}
    (here : fromByte? s.position layout = some (escape :: rest)) :
    s.takeEscape layout escape =
      match rest with
      | [] => .moved ⟨s.position + escape.utf8Size, s.draft.addPlain escape⟩
      | c :: _ => .moved ⟨s.position + escape.utf8Size + c.utf8Size, s.draft.addPlain c⟩ := by
  have after : fromByte? (s.position + byteCount [escape]) layout = some rest := fromByte?_add here
  rw [byteCount_cons, byteCount_nil, Nat.add_zero] at after
  rw [Scan.takeEscape, after]
  cases rest <;> rfl

/-- A step that goes on takes up a part of the layout, and leaves the position right after it. -/
theorem exists_front_of_moved (h : g.scanStep mode layout s = .moved next) :
    ∃ front rest, fromByte? s.position layout = some (front ++ rest) ∧
      next.position = s.position + byteCount front ∧ 0 < byteCount front := by
  cases here : fromByte? s.position layout with
  | none =>
      rw [scanStep, here] at h
      cases h
  | some rest =>
      cases rest with
      | nil =>
          rw [scanStep_end here] at h
          cases h
      | cons c rest =>
          have pos := c.utf8Size_pos
          by_cases hc : c = g.escape
          · subst hc
            rw [scanStep_escape here, takeEscape_eq here] at h
            cases rest with
            | nil =>
                cases h
                exact ⟨[g.escape], [], rfl, by simp, by simp; omega⟩
            | cons e rest =>
                cases h
                exact ⟨[g.escape, e], rest, rfl, by simp [Nat.add_assoc], by simp; omega⟩
          · cases found : g.tokenAt? (c :: rest) with
            | none =>
                rw [scanStep_plain here hc found] at h
                cases h
                exact ⟨[c], rest, rfl, by simp, by simp; omega⟩
            | some t =>
                have size := byteCount_take_of_startsWith (matchesStart_of_tokenAt? found)
                have bytes := length_le_byteCount t.chars
                have chars := length_chars_pos_of_tokenAt? found
                refine ⟨(c :: rest).take t.chars.length, (c :: rest).drop t.chars.length,
                  by rw [List.take_append_drop], ?_, by rw [size]; omega⟩
                rw [scanStep_token here hc found] at h
                rw [size]
                unfold Scan.takeToken at h
                split at h <;> cases h <;> rfl

theorem position_lt_of_moved (h : g.scanStep mode layout s = .moved next) :
    s.position < next.position := by
  obtain ⟨front, rest, -, moved, pos⟩ := exists_front_of_moved h
  omega

theorem position_le_of_moved (h : g.scanStep mode layout s = .moved next) :
    next.position ≤ byteCount layout := by
  obtain ⟨front, rest, here, moved, -⟩ := exists_front_of_moved h
  have whole := add_byteCount_of_fromByte? here
  rw [byteCount_append] at whole
  omega

theorem onEdge_of_moved (h : g.scanStep mode layout s = .moved next) : next.OnEdge layout := by
  obtain ⟨front, rest, here, moved, -⟩ := exists_front_of_moved h
  rw [Scan.OnEdge, moved, fromByte?_add here]
  rfl

/-- What a scan comes to in the end, if it does not leave the edges of characters. -/
def scanFrom (g : Grammar) (mode : Mode) (layout : List Char) (s : Scan) :
    Option (Except LayoutError NativeForm) :=
  match _ : g.scanStep mode layout s with
  | .moved next => g.scanFrom mode layout next
  | .finished form => some (.ok form)
  | .refused e => some (.error e)
  | .offEdge => none
termination_by byteCount layout - s.position
decreasing_by
  rename_i step
  have further := position_lt_of_moved step
  have inside := position_le_of_moved step
  omega

theorem scanFrom_of_moved (h : g.scanStep mode layout s = .moved next) :
    g.scanFrom mode layout s = g.scanFrom mode layout next := by
  rw [scanFrom]
  split <;> rename_i step <;> rw [h] at step <;> cases step
  rfl

theorem scanFrom_of_finished {form : NativeForm} (h : g.scanStep mode layout s = .finished form) :
    g.scanFrom mode layout s = some (.ok form) := by
  rw [scanFrom]
  split <;> rename_i step <;> rw [h] at step <;> cases step
  rfl

theorem scanFrom_of_refused {e : LayoutError} (h : g.scanStep mode layout s = .refused e) :
    g.scanFrom mode layout s = some (.error e) := by
  rw [scanFrom]
  split <;> rename_i step <;> rw [h] at step <;> cases step
  rfl

theorem scanStep_ne_offEdge (h : s.OnEdge layout) : g.scanStep mode layout s ≠ .offEdge := by
  obtain ⟨rest, here⟩ := Option.isSome_iff_exists.1 h
  cases rest with
  | nil =>
      rw [scanStep_end here]
      exact nofun
  | cons c rest =>
      by_cases hc : c = g.escape
      · subst hc
        rw [scanStep_escape here, takeEscape_eq here]
        cases rest <;> exact nofun
      · cases found : g.tokenAt? (c :: rest) with
        | none =>
            rw [scanStep_plain here hc found]
            exact nofun
        | some t =>
            rw [scanStep_token here hc found]
            unfold Scan.takeToken
            split <;> exact nofun

theorem isSome_scanFrom (h : s.OnEdge layout) : (g.scanFrom mode layout s).isSome = true := by
  fun_induction g.scanFrom mode layout s with
  | case1 s next step ih => exact ih (onEdge_of_moved step)
  | case2 => rfl
  | case3 => rfl
  | case4 s step => exact absurd step (scanStep_ne_offEdge h)

theorem isSome_scan (g : Grammar) (mode : Mode) (layout : List Char) :
    (g.scanFrom mode layout .start).isSome = true :=
  isSome_scanFrom (by rw [Scan.OnEdge, Scan.start, fromByte?_zero]; rfl)

def translate (g : Grammar) (layout : String) (mode : Mode) : Except LayoutError NativeForm :=
  (g.scanFrom mode layout.toList .start).get (isSome_scan g mode layout.toList)

end Grammar

end DateLayout
