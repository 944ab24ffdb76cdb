import DateLayout.Grammar.Standard
import DateLayout.Proofs.Scan.Forms
import DateLayout.Strftime.Item

/-!
# Layouts with separators

The layouts of the standard language whose tokens stand apart. Between two tokens there are
characters that occur in no token, so that it can be seen where a token ends; a fraction is the
one token that follows another one, the second, directly. `Spaced` is that shape, from left to
right.

A layout of this shape consists of just the pieces that it was put together from
(`Spaced.reads`). The longest match finds the token that was meant: a longer one would have to go
on with the character behind it, which is in no token.
-/

namespace DateLayout

open DateLayout.Text

def Grammar.tokens (g : Grammar) : List Token :=
  g.classes.flatMap TokenClass.tokens

def Grammar.alphabet (g : Grammar) : List Char :=
  g.tokens.flatMap fun t => t.chars.map Char.toLower

/-- A character that can stand between two tokens: in no case does it occur in a token, and it is
neither a digit nor the escape. -/
structure Separator (c : Char) : Prop where
  foreign : c.toLower ∉ Grammar.standard.alphabet
  notDigit : c.isDigit = false
  notEscape : c ≠ Grammar.standard.escape

/-- A token that has a native layout in the standard language, other than a fraction. -/
structure Token.Plain (t : Token) : Prop where
  known : t ∈ Grammar.standard.tokens
  native : t.ordinal? = none
  whole : t ∉ Grammar.fractionTokens

/-- What may come behind a token: nothing, or a separator. The name of a zone reaches to the next
white space, and hours alone of an offset have to be the last. -/
def Token.Before (t : Token) : List Piece → Prop
  | [] => True
  | .plain c :: _ => (t.text = "zzz" → isBlank c = true) ∧ t.text ≠ "zh" ∧ t.text ≠ "zhh"
  | _ => False

/-- Pieces with separators between tokens. -/
inductive Spaced : List Piece → Prop where
  | done : Spaced []
  | separator {c : Char} {ps : List Piece} (between : Separator c) (tail : Spaced ps) :
      Spaced (.plain c :: ps)
  | token {t : Token} {spelling : List Char} {ps : List Piece} (plain : t.Plain)
      (spelled : t.SpelledBy spelling) (ends : t.Before ps) (tail : Spaced ps) :
      Spaced (.token t spelling :: ps)
  | fraction {t u : Token} {spelling digits : List Char} {ps : List Piece}
      (second : t ∈ Grammar.secondTokens) (spelled : t.SpelledBy spelling)
      (fraction : u ∈ Grammar.fractionTokens) (spelled' : u.SpelledBy digits)
      (ends : u.Before ps) (tail : Spaced ps) :
      Spaced (.token t spelling :: .token u digits :: ps)

namespace Grammar

theorem mem_tokens {g : Grammar} {cls : TokenClass} {t : Token} (hc : cls ∈ g.classes)
    (ht : t ∈ cls.tokens) : t ∈ g.tokens :=
  List.mem_flatMap.2 ⟨cls, hc, ht⟩

theorem mem_alphabet {g : Grammar} {t : Token} {c : Char} (ht : t ∈ g.tokens) (hc : c ∈ t.chars) :
    c.toLower ∈ g.alphabet :=
  List.mem_flatMap.2 ⟨t, ht, List.mem_map.2 ⟨c, hc, rfl⟩⟩

/-! ## The standard language -/

theorem leads_nodup : (standard.classes.map TokenClass.lead).Nodup := by decide

theorem lead_mem_alphabet : ∀ cls ∈ standard.classes, cls.lead ∈ standard.alphabet := by decide

theorem head_of_mem : ∀ cls ∈ standard.classes, ∀ t ∈ cls.tokens,
    t.chars.head?.map Char.toLower = some cls.lead := by decide

theorem eq_of_same_letters : ∀ t ∈ standard.tokens, ∀ u ∈ standard.tokens,
    t.chars.map Char.toLower = u.chars.map Char.toLower → t = u := by decide

theorem size_eq_length : ∀ t ∈ standard.tokens, t.size = t.chars.length := by decide

theorem escape_not_lead : ∀ cls ∈ standard.classes, cls.lead ≠ standard.escape.toLower := by decide

theorem secondTokens_subset : ∀ t ∈ secondTokens, t ∈ standard.tokens := by decide

theorem fractionTokens_subset : ∀ t ∈ fractionTokens, t ∈ standard.tokens := by decide

theorem fraction_head : ∀ t ∈ fractionTokens, t.chars.head?.map Char.toLower = some '.' := by
  decide

/-- No token of the class of the second goes on with a point. -/
theorem point_not_mem : ∀ cls ∈ standard.classes, ∀ t ∈ cls.tokens, t ∈ secondTokens →
    ∀ u ∈ cls.tokens, '.' ∉ u.chars.map Char.toLower := by decide

theorem classAt_of_mem {cls : TokenClass} (hc : cls ∈ standard.classes) {c : Char}
    (lead : c.toLower = cls.lead) : standard.ClassAt c cls := by
  obtain ⟨before, after, whole⟩ := List.append_of_mem hc
  refine ⟨before, after, whole, fun other mem same => ?_, lead.symm⟩
  have apart := leads_nodup
  rw [whole, List.map_append, List.map_cons, List.nodup_append] at apart
  refine apart.2.2 other.lead (List.mem_map.2 ⟨other, mem, rfl⟩) cls.lead (List.mem_cons_self ..) ?_
  rw [same, lead]

/-! ## Tokens that stand apart are found -/

/-- A token is picked where it stands, if what comes behind it is in no token of its class. -/
theorem picks_of_spelled {cls : TokenClass} {t : Token} {c : Char}
    {input spelling rest : List Char} (hc : cls ∈ standard.classes) (ht : t ∈ cls.tokens)
    (spelled : t.SpelledBy spelling) (whole : c :: input = spelling ++ rest)
    (stop : ∀ d, rest.head? = some d → ∀ u ∈ cls.tokens, d.toLower ∉ u.chars.map Char.toLower) :
    standard.Picks c (c :: input) t := by
  have pos := Token.length_chars_pos (standard.text_ne_empty cls hc t ht)
  rw [← spelled.length_eq] at pos
  have lead : c.toLower = cls.lead := by
    have first := head_of_mem cls hc t ht
    rw [← List.head?_map, ← spelled] at first
    cases spelling with
    | nil => exact absurd pos (Nat.lt_irrefl 0)
    | cons d letters =>
        obtain ⟨rfl, -⟩ := List.cons.inj whole
        exact Option.some.inj first
  have fits : t.matchesStart (c :: input) = true :=
    Token.matchesStart_iff.2 ⟨spelling, rest, whole, spelled⟩
  cases found : cls.longestMatch? (c :: input) with
  | none => exact absurd fits (List.find?_eq_none.1 found t ht)
  | some u =>
      have picked : standard.Picks c (c :: input) u := ⟨cls, classAt_of_mem hc lead, found⟩
      obtain ⟨c', cls', head, here, mem, match_, longest⟩ := picked.longestAt
      obtain rfl : c = c' := Option.some.inj head
      obtain rfl := here.unique (classAt_of_mem hc lead)
      have longer := longest t ht fits
      rw [size_eq_length t (mem_tokens hc ht), size_eq_length u (mem_tokens hc mem)] at longer
      obtain ⟨spelling', rest', whole', spelled'⟩ := Token.matchesStart_iff.1 match_
      rw [← spelled.length_eq, ← spelled'.length_eq] at longer
      rw [whole] at whole'
      suffices same : spelling' = spelling by
        have letters : u.chars.map Char.toLower = t.chars.map Char.toLower := by
          rw [← spelled, ← spelled', same]
        rwa [← eq_of_same_letters u (mem_tokens hc mem) t (mem_tokens hc ht) letters]
      rcases List.append_eq_append_iff.1 whole' with ⟨more, rfl, behind⟩ | ⟨more, rfl, -⟩
      · cases more with
        | nil => exact List.append_nil _
        | cons d more =>
            -- a longer token would go on with the character behind this one
            refine absurd ?_ (stop d (by rw [behind]; rfl) u mem)
            rw [← spelled']
            exact List.mem_map.2 ⟨d, List.mem_append_right _ (List.mem_cons_self ..), rfl⟩
      · rw [List.length_append] at longer
        have none : more = [] := List.length_eq_zero_iff.1 (by omega)
        rw [none, List.append_nil]

example : (standard.tokenAt? "Mmmm".toList).map Token.text = some "mmmm" := by decide

theorem not_picks_separator {c : Char} (h : Separator c) (input : List Char) (t : Token) :
    ¬ standard.Picks c input t := by
  rintro ⟨cls, ⟨before, after, whole, -, lead⟩, -⟩
  refine h.foreign ?_
  rw [← lead]
  refine lead_mem_alphabet cls ?_
  rw [whole]
  exact List.mem_append_right before (List.mem_cons_self ..)

theorem separator_stops {c : Char} (h : Separator c) {cls : TokenClass}
    (hc : cls ∈ standard.classes) {u : Token} (hu : u ∈ cls.tokens) :
    c.toLower ∉ u.chars.map Char.toLower := by
  intro mem
  obtain ⟨d, hd, same⟩ := List.mem_map.1 mem
  refine h.foreign ?_
  rw [← same]
  exact mem_alphabet (mem_tokens hc hu) hd

theorem Reads.cons_token {t : Token} {spelling rest : List Char} {ps : List Piece}
    (tail : standard.Reads rest ps) {cls : TokenClass} (hc : cls ∈ standard.classes)
    (ht : t ∈ cls.tokens) (spelled : t.SpelledBy spelling)
    (stop : ∀ d, rest.head? = some d → ∀ u ∈ cls.tokens, d.toLower ∉ u.chars.map Char.toLower) :
    standard.Reads (spelling ++ rest) (.token t spelling :: ps) := by
  have pos := Token.length_chars_pos (standard.text_ne_empty cls hc t ht)
  rw [← spelled.length_eq] at pos
  cases hs : spelling ++ rest with
  | nil =>
      rw [(List.append_eq_nil_iff.1 hs).1] at pos
      exact absurd pos (Nat.lt_irrefl 0)
  | cons c input =>
      have picked := picks_of_spelled hc ht spelled hs.symm stop
      refine .token ?_ picked spelled hs.symm tail
      rintro rfl
      obtain ⟨cls', ⟨before, after, whole, -, lead⟩, -⟩ := picked
      have mem : cls' ∈ standard.classes := by
        rw [whole]
        exact List.mem_append_right before (List.mem_cons_self ..)
      exact escape_not_lead cls' mem lead

end Grammar

variable {ps : List Piece}

theorem Token.Before.exists_separator {t : Token} (h : t.Before ps) (spaced : Spaced ps) :
    ps = [] ∨ ∃ c qs, ps = .plain c :: qs ∧ Separator c := by
  cases ps with
  | nil => exact .inl rfl
  | cons p qs =>
      cases spaced with
      | separator between tail => exact .inr ⟨_, qs, rfl, between⟩
      | token => exact h.elim
      | fraction => exact h.elim

theorem Token.Before.stops {t : Token} (h : t.Before ps) (spaced : Spaced ps) {cls : TokenClass}
    (hc : cls ∈ Grammar.standard.classes) :
    ∀ d, (sourceOf ps).head? = some d → ∀ u ∈ cls.tokens, d.toLower ∉ u.chars.map Char.toLower := by
  intro d head u hu
  rcases h.exists_separator spaced with rfl | ⟨c, qs, rfl, between⟩
  · cases head
  · cases head
    exact Grammar.separator_stops between hc hu

/-- A spaced layout consists of the pieces that it was put together from. -/
theorem Spaced.reads (h : Spaced ps) : Grammar.standard.Reads (sourceOf ps) ps := by
  induction h with
  | done => exact .done
  | separator between tail ih =>
      exact .plain between.notEscape (fun t => Grammar.not_picks_separator between _ t) ih
  | token plain spelled ends tail ih =>
      obtain ⟨cls, hc, ht⟩ := List.mem_flatMap.1 plain.known
      exact Grammar.Reads.cons_token ih hc ht spelled (ends.stops tail hc)
  | @fraction t u spelling digits ps second spelled fraction spelled' ends tail ih =>
      obtain ⟨cls', hc', hu⟩ := List.mem_flatMap.1 (Grammar.fractionTokens_subset u fraction)
      have behind := Grammar.Reads.cons_token ih hc' hu spelled' (ends.stops tail hc')
      obtain ⟨cls, hc, ht⟩ := List.mem_flatMap.1 (Grammar.secondTokens_subset t second)
      refine Grammar.Reads.cons_token behind hc ht spelled ?_
      intro d head v hv
      have point : d.toLower = '.' := by
        have first := Grammar.fraction_head u fraction
        rw [← List.head?_map, ← spelled'] at first
        cases digits with
        | nil => cases first
        | cons e digits =>
            cases head
            exact Option.some.inj first
      rw [point]
      exact Grammar.point_not_mem cls hc t ht second v hv

/-! ## Checking the shape -/

instance (c : Char) : Decidable (Separator c) :=
  decidable_of_iff
    (c.toLower ∉ Grammar.standard.alphabet ∧ c.isDigit = false ∧ c ≠ Grammar.standard.escape)
    ⟨fun h => ⟨h.1, h.2.1, h.2.2⟩, fun h => ⟨h.foreign, h.notDigit, h.notEscape⟩⟩

instance (t : Token) : Decidable t.Plain :=
  decidable_of_iff
    (t ∈ Grammar.standard.tokens ∧ t.ordinal? = none ∧ t ∉ Grammar.fractionTokens)
    ⟨fun h => ⟨h.1, h.2.1, h.2.2⟩, fun h => ⟨h.known, h.native, h.whole⟩⟩

instance (t : Token) : (ps : List Piece) → Decidable (t.Before ps)
  | [] => .isTrue trivial
  | .plain c :: _ =>
      inferInstanceAs
        (Decidable ((t.text = "zzz" → isBlank c = true) ∧ t.text ≠ "zh" ∧ t.text ≠ "zhh"))
  | .escaped .. :: _ | .lastEscape _ :: _ | .token .. :: _ => .isFalse id

instance (t : Token) (spelling : List Char) : Decidable (t.SpelledBy spelling) :=
  inferInstanceAs (Decidable (_ = _))

/-- Whether pieces are spaced, as can be seen from left to right. -/
def isSpaced : List Piece → Bool
  | [] => true
  | .plain c :: ps => decide (Separator c) && isSpaced ps
  | .token t spelling :: .token u digits :: ps =>
      decide (t ∈ Grammar.secondTokens ∧ t.SpelledBy spelling ∧ u ∈ Grammar.fractionTokens ∧
        u.SpelledBy digits ∧ u.Before ps) && isSpaced ps
  | .token t spelling :: ps =>
      decide (t.Plain ∧ t.SpelledBy spelling ∧ t.Before ps) && isSpaced ps
  | _ => false

theorem spaced_of_isSpaced (h : isSpaced ps = true) : Spaced ps := by
  induction ps using isSpaced.induct with
  | case1 => exact .done
  | case2 c ps ih =>
      rw [isSpaced, Bool.and_eq_true, decide_eq_true_eq] at h
      exact .separator h.1 (ih h.2)
  | case3 t spelling u digits ps ih =>
      rw [isSpaced, Bool.and_eq_true, decide_eq_true_eq] at h
      obtain ⟨⟨second, spelled, fraction, spelled', ends⟩, tail⟩ := h
      exact .fraction second spelled fraction spelled' ends (ih tail)
  | case4 t spelling ps other ih =>
      rw [isSpaced, Bool.and_eq_true, decide_eq_true_eq] at h
      · obtain ⟨⟨plain, spelled, ends⟩, tail⟩ := h
        exact .token plain spelled ends (ih tail)
      · exact other
  | case5 ps =>
      rw [isSpaced] at h
      · cases h
      all_goals assumption

end DateLayout
