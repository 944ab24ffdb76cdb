import DateLayout.Scan

/-!
# The pieces of a layout

What it means for a layout to consist of pieces, said without a scan. From left to right a piece
is an escape with the character after it, an escape that is the last character, a token in any
spelling of its letters, or a single other character; an escape comes before a token, and the
token is the one that the grammar picks for what is left of the layout.

`Grammar.Reads` is that relation. A layout has pieces (`exists_reads`) and no other ones
(`Reads.unique`), and written out they are the layout again (`Reads.source_eq`). The last part is
about layouts that are cut between two pieces: whatever stands before the cut is read in the same
way without what comes after it (`Reads.split`). This is where the order of the tokens in a class
matters: a shorter rest has fewer tokens that fit, so the first one that fits stays the first.
-/

namespace DateLayout

open DateLayout.Text

inductive Piece where
  /-- The escape character and a character that stands for itself. -/
  | escaped (escape c : Char)
  /-- The escape character at the very end, which stands for itself. -/
  | lastEscape (escape : Char)
  /-- A token in the spelling of the layout. -/
  | token (t : Token) (spelling : List Char)
  | plain (c : Char)

def Piece.source : Piece → List Char
  | .escaped escape c => [escape, c]
  | .lastEscape escape => [escape]
  | .token _ spelling => spelling
  | .plain c => [c]

def sourceOf (ps : List Piece) : List Char :=
  ps.flatMap Piece.source

@[simp] theorem sourceOf_nil : sourceOf [] = [] := rfl

@[simp] theorem sourceOf_cons (p : Piece) (ps : List Piece) :
    sourceOf (p :: ps) = p.source ++ sourceOf ps := rfl

@[simp] theorem sourceOf_append (ps qs : List Piece) :
    sourceOf (ps ++ qs) = sourceOf ps ++ sourceOf qs := by
  simp [sourceOf]

def Token.SpelledBy (t : Token) (spelling : List Char) : Prop :=
  spelling.map Char.toLower = t.chars.map Char.toLower

namespace Grammar

/-- The class for a character is the first one that has its lower case as lead. -/
def ClassAt (g : Grammar) (c : Char) (cls : TokenClass) : Prop :=
  ∃ before after, g.classes = before ++ cls :: after ∧
    (∀ other ∈ before, other.lead ≠ c.toLower) ∧ cls.lead = c.toLower

/-- The token that a grammar picks for a text that begins with `c`: the longest match in the class
for `c`. -/
def Picks (g : Grammar) (c : Char) (input : List Char) (t : Token) : Prop :=
  ∃ cls, g.ClassAt c cls ∧ cls.longestMatch? input = some t

/-- The layout consists of the pieces. -/
inductive Reads (g : Grammar) : List Char → List Piece → Prop where
  | done : g.Reads [] []
  | escaped {c : Char} {rest : List Char} {ps : List Piece} (tail : g.Reads rest ps) :
      g.Reads (g.escape :: c :: rest) (.escaped g.escape c :: ps)
  | lastEscape : g.Reads [g.escape] [.lastEscape g.escape]
  | token {c : Char} {input : List Char} {t : Token} {spelling rest : List Char}
      {ps : List Piece} (other : c ≠ g.escape) (picked : g.Picks c (c :: input) t)
      (spelled : t.SpelledBy spelling) (whole : c :: input = spelling ++ rest)
      (tail : g.Reads rest ps) : g.Reads (c :: input) (.token t spelling :: ps)
  | plain {c : Char} {rest : List Char} {ps : List Piece} (other : c ≠ g.escape)
      (unpicked : ∀ t, ¬ g.Picks c (c :: rest) t) (tail : g.Reads rest ps) :
      g.Reads (c :: rest) (.plain c :: ps)

variable {g : Grammar}

/-! ## Tokens picked by a grammar -/

theorem classFor?_eq_some_iff {c : Char} {cls : TokenClass} :
    g.classFor? c = some cls ↔ g.ClassAt c cls := by
  unfold classFor? ClassAt
  rw [List.find?_eq_some_iff_append]
  constructor
  · rintro ⟨fits, before, after, whole, others⟩
    refine ⟨before, after, whole, fun other mem => ?_, of_decide_eq_true fits⟩
    simpa using others other mem
  · rintro ⟨before, after, whole, others, fits⟩
    refine ⟨decide_eq_true fits, before, after, whole, ?_⟩
    intro other mem
    simpa using others other mem

theorem tokenAt?_eq_some_iff {c : Char} {rest : List Char} {t : Token} :
    g.tokenAt? (c :: rest) = some t ↔ g.Picks c (c :: rest) t := by
  unfold tokenAt? Picks
  rw [List.head?_cons, Option.bind_some, Option.bind_eq_some_iff]
  constructor
  · rintro ⟨cls, found, longest⟩
    exact ⟨cls, classFor?_eq_some_iff.1 found, longest⟩
  · rintro ⟨cls, found, longest⟩
    exact ⟨cls, classFor?_eq_some_iff.2 found, longest⟩

theorem tokenAt?_eq_none_iff {c : Char} {rest : List Char} :
    g.tokenAt? (c :: rest) = none ↔ ∀ t, ¬ g.Picks c (c :: rest) t := by
  rw [Option.eq_none_iff_forall_ne_some]
  exact forall_congr' fun t => not_congr tokenAt?_eq_some_iff

theorem ClassAt.unique {c : Char} {cls cls' : TokenClass} (h : g.ClassAt c cls)
    (h' : g.ClassAt c cls') : cls = cls' := by
  rw [← classFor?_eq_some_iff] at h h'
  exact Option.some.inj (h.symm.trans h')

theorem Picks.unique {c : Char} {input : List Char} {t t' : Token} (h : g.Picks c input t)
    (h' : g.Picks c input t') : t = t' := by
  obtain ⟨cls, here, longest⟩ := h
  obtain ⟨cls', here', longest'⟩ := h'
  rw [here.unique here', longest'] at longest
  exact (Option.some.inj longest).symm

theorem Picks.length_chars_pos {c : Char} {input : List Char} {t : Token}
    (h : g.Picks c input t) : 0 < t.chars.length := by
  obtain ⟨cls, here, longest⟩ := h
  have mem := List.mem_of_find?_eq_some (classFor?_eq_some_iff.2 here)
  exact length_chars_pos_of_longestMatch? mem longest

theorem Picks.matchesStart {c : Char} {input : List Char} {t : Token} (h : g.Picks c input t) :
    t.matchesStart input = true := by
  obtain ⟨cls, -, longest⟩ := h
  exact TokenClass.matchesStart_of_longestMatch? longest

end Grammar

namespace Token

variable {t : Token} {input spelling rest : List Char}

theorem SpelledBy.length_eq (h : t.SpelledBy spelling) :
    spelling.length = t.chars.length := by
  have lengths := congrArg List.length h
  simpa using lengths

theorem SpelledBy.byteCount_eq (h : t.SpelledBy spelling) : byteCount spelling = t.size := by
  rw [size, ← byteCount_map_toLower spelling, h, byteCount_map_toLower]

theorem matchesStart_iff :
    t.matchesStart input = true ↔
      ∃ spelling rest, input = spelling ++ rest ∧ t.SpelledBy spelling := by
  unfold matchesStart
  rw [startsWith_iff]
  constructor
  · rintro ⟨-, same⟩
    exact ⟨input.take t.chars.length, input.drop t.chars.length,
      (List.take_append_drop _ _).symm, same⟩
  · rintro ⟨spelling, rest, rfl, spelled⟩
    rw [← spelled.length_eq, List.take_left, List.length_append]
    exact ⟨Nat.le_add_right _ _, spelled⟩

theorem SpelledBy.unique {spelling' rest' : List Char} (h : t.SpelledBy spelling)
    (h' : t.SpelledBy spelling') (same : spelling ++ rest = spelling' ++ rest') :
    spelling = spelling' ∧ rest = rest' :=
  List.append_inj same (h.length_eq.trans h'.length_eq.symm)

end Token

/-! ## A layout has pieces, and no other ones -/

namespace Grammar

variable {g : Grammar}

theorem exists_reads (g : Grammar) (layout : List Char) : ∃ ps, g.Reads layout ps := by
  induction hn : layout.length using Nat.strongRecOn generalizing layout with
  | ind n ih =>
      subst hn
      match layout with
      | [] => exact ⟨[], .done⟩
      | c :: input =>
          by_cases hc : c = g.escape
          · subst hc
            match input with
            | [] => exact ⟨_, .lastEscape⟩
            | e :: rest =>
                have shorter : rest.length < (g.escape :: e :: rest).length := by
                  rw [List.length_cons, List.length_cons]
                  omega
                obtain ⟨ps, tail⟩ := ih rest.length shorter rest rfl
                exact ⟨_, .escaped tail⟩
          · cases found : g.tokenAt? (c :: input) with
            | none =>
                obtain ⟨ps, tail⟩ := ih input.length (by simp) input rfl
                exact ⟨_, .plain hc (tokenAt?_eq_none_iff.1 found) tail⟩
            | some t =>
                have picked := tokenAt?_eq_some_iff.1 found
                obtain ⟨spelling, rest, whole, spelled⟩ :=
                  Token.matchesStart_iff.1 picked.matchesStart
                have shorter : rest.length < (c :: input).length := by
                  rw [whole, List.length_append, spelled.length_eq]
                  have pos := picked.length_chars_pos
                  omega
                obtain ⟨ps, tail⟩ := ih rest.length shorter rest rfl
                exact ⟨_, .token hc picked spelled whole tail⟩

theorem Reads.source_eq {layout : List Char} {ps : List Piece} (h : g.Reads layout ps) :
    sourceOf ps = layout := by
  induction h with
  | done => rfl
  | escaped tail ih => rw [sourceOf_cons, ih]; rfl
  | lastEscape => rfl
  | token other picked spelled whole tail ih => rw [sourceOf_cons, ih, whole]; rfl
  | plain other unpicked tail ih => rw [sourceOf_cons, ih]; rfl

theorem Reads.unique {layout : List Char} {ps qs : List Piece} (h : g.Reads layout ps)
    (h' : g.Reads layout qs) : ps = qs := by
  induction h generalizing qs with
  | done =>
      cases h'
      rfl
  | escaped tail ih =>
      cases h' with
      | escaped tail' => rw [ih tail']
      | token other => exact absurd rfl other
      | plain other => exact absurd rfl other
  | lastEscape =>
      cases h' with
      | lastEscape => rfl
      | token other => exact absurd rfl other
      | plain other => exact absurd rfl other
  | token other picked spelled whole tail ih =>
      cases h' with
      | escaped => exact absurd rfl other
      | lastEscape => exact absurd rfl other
      | token other' picked' spelled' whole' tail' =>
          obtain rfl := picked.unique picked'
          obtain ⟨rfl, rfl⟩ := spelled.unique spelled' (whole.symm.trans whole')
          rw [ih tail']
      | plain other' unpicked' => exact absurd picked (unpicked' _)
  | plain other unpicked tail ih =>
      cases h' with
      | escaped => exact absurd rfl other
      | lastEscape => exact absurd rfl other
      | token other' picked' => exact absurd picked' (unpicked _)
      | plain other' unpicked' tail' => rw [ih tail']

/-! ## Cutting a layout between two pieces -/

/-- A text that is cut off has no matches which the whole text does not have. -/
theorem matchesStart_append {t : Token} {input : List Char} (h : t.matchesStart input = true)
    (rest : List Char) : t.matchesStart (input ++ rest) = true := by
  obtain ⟨spelling, back, rfl, spelled⟩ := Token.matchesStart_iff.1 h
  exact Token.matchesStart_iff.2
    ⟨spelling, back ++ rest, List.append_assoc _ _ _, spelled⟩

/-- The first token that fits is still the first one when the text is cut off behind it. -/
theorem Picks.cut {c : Char} {front back : List Char} {t : Token}
    (h : g.Picks c (front ++ back) t) (fits : t.matchesStart front = true) :
    g.Picks c front t := by
  obtain ⟨cls, here, longest⟩ := h
  refine ⟨cls, here, ?_⟩
  unfold TokenClass.longestMatch? at longest ⊢
  rw [List.find?_eq_some_iff_append] at longest ⊢
  obtain ⟨-, before, after, whole, misses⟩ := longest
  refine ⟨fits, before, after, whole, ?_⟩
  intro u hu
  have miss := misses u hu
  cases hit : u.matchesStart front with
  | false => rfl
  | true =>
      rw [matchesStart_append hit back] at miss
      cases miss

theorem Picks.of_cut {c : Char} {front : List Char} {t : Token} (h : g.Picks c front t)
    (back : List Char) : ∃ u, g.Picks c (front ++ back) u := by
  obtain ⟨cls, here, longest⟩ := h
  have fits := TokenClass.matchesStart_of_longestMatch? longest
  have mem : t ∈ cls.tokens := List.mem_of_find?_eq_some longest
  cases found : cls.longestMatch? (front ++ back) with
  | some u => exact ⟨u, cls, here, found⟩
  | none =>
      have misses := List.find?_eq_none.1 found t mem
      exact absurd (matchesStart_append fits back) misses

/-- Pieces before others are the pieces of what stands before them, read on its own. -/
theorem Reads.split {layout : List Char} {ps qs : List Piece} (h : g.Reads layout (ps ++ qs)) :
    g.Reads (sourceOf qs) qs ∧ (qs ≠ [] → g.Reads (sourceOf ps) ps) := by
  induction ps generalizing layout with
  | nil =>
      have whole := h.source_eq
      rw [List.nil_append] at h whole
      rw [whole]
      exact ⟨h, fun _ => .done⟩
  | cons p ps ih =>
      rw [List.cons_append] at h
      generalize hboth : ps ++ qs = both at h
      cases h with
      | escaped tail =>
          subst hboth
          obtain ⟨last, first⟩ := ih tail
          exact ⟨last, fun hqs => .escaped (first hqs)⟩
      | lastEscape =>
          obtain ⟨rfl, rfl⟩ := List.append_eq_nil_iff.1 hboth
          exact ⟨.done, fun hqs => absurd rfl hqs⟩
      | @token c input t spelling rest _ other picked spelled whole tail =>
          subst hboth
          obtain ⟨last, first⟩ := ih tail
          refine ⟨last, ?_⟩
          intro hqs
          have cut : c :: input = spelling ++ sourceOf ps ++ sourceOf qs := by
            rw [whole, ← tail.source_eq, sourceOf_append, List.append_assoc]
          have fits : t.matchesStart (spelling ++ sourceOf ps) = true :=
            Token.matchesStart_iff.2 ⟨spelling, sourceOf ps, rfl, spelled⟩
          rw [cut] at picked
          have picked' := picked.cut fits
          rw [sourceOf_cons]
          cases hfront : spelling ++ sourceOf ps with
          | nil =>
              have pos := picked.length_chars_pos
              have empty := List.append_eq_nil_iff.1 hfront
              rw [← spelled.length_eq, empty.1] at pos
              exact absurd pos (Nat.lt_irrefl 0)
          | cons d front =>
              rw [hfront] at cut picked'
              obtain ⟨rfl, -⟩ := List.cons.inj cut
              show g.Reads (spelling ++ sourceOf ps) _
              rw [hfront]
              exact .token other picked' spelled hfront.symm (first hqs)
      | @plain c rest _ other unpicked tail =>
          subst hboth
          obtain ⟨last, first⟩ := ih tail
          refine ⟨last, fun hqs => .plain other (fun t picked => ?_) (first hqs)⟩
          obtain ⟨u, taken⟩ := picked.of_cut (sourceOf qs)
          refine unpicked u ?_
          rwa [← tail.source_eq, sourceOf_append]

end Grammar

end DateLayout
