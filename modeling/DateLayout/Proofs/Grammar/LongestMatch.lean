import DateLayout.Grammar.Basic

/-!
# Longest matches

A class looks for its longest match by taking the first token that fits, so it is the order of the
tokens that makes the match a longest one. `longestFirst` brings the tokens into this order by
insertion, and an insertion passes only tokens that are longer than the new one. Hence the tokens
of one length, taken by themselves, stay as they were given (`filter_longestFirst`).

Where several tokens fit, the first hit has the greatest length, and it is the first of the tokens
of this length that fit, both in the class and, because of that law, in the list that the class
was made of. `longestMatch?_ofTokens` says so for any list of tokens: a text may occur in it more
than once, in several cases of its letters, and may be empty.
-/

namespace DateLayout

open DateLayout.Text

/-- The bytes of the text begin with those of the token, ASCII letters counting as the same in
either case. -/
def Token.Fits (t : Token) (input : List Char) : Prop :=
  ∃ front back, bytes input = front ++ back ∧
    front.map lowerByte = (bytes t.text.toList).map lowerByte

/-- Of the tokens that fit, one with the most bytes, and the first one with so many in the order
of the list. -/
structure FirstLongest (tokens : List Token) (input : List Char) (t : Token) : Prop where
  fits : t.Fits input
  longest : ∀ u ∈ tokens, u.Fits input → u.text.utf8ByteSize ≤ t.text.utf8ByteSize
  first : ∃ before after, tokens = before ++ t :: after ∧
    ∀ u ∈ before, u.Fits input → u.text.utf8ByteSize < t.text.utf8ByteSize

theorem Token.size_eq_utf8ByteSize (t : Token) : t.size = t.text.utf8ByteSize :=
  byteCount_toList t.text

theorem Token.matchesStart_iff_fits {t : Token} {input : List Char} :
    t.matchesStart input = true ↔ t.Fits input := by
  rw [matchesStart, startsWith, List.isPrefixOf_iff_prefix, List.prefix_iff_exists_eq_append]
  constructor
  · rintro ⟨rest, whole⟩
    obtain ⟨front, back, same, fits, -⟩ := List.map_eq_append_iff.1 whole
    exact ⟨front, back, same, fits⟩
  · rintro ⟨front, back, same, fits⟩
    exact ⟨back.map lowerByte, by rw [same, List.map_append, fits]; rfl⟩

/-! ## The order of the tokens -/

theorem insertByLength_perm (t : Token) (tokens : List Token) :
    (insertByLength t tokens).Perm (t :: tokens) := by
  induction tokens with
  | nil => exact .refl _
  | cons u rest ih =>
      rw [insertByLength]
      split
      · exact .refl _
      · exact (ih.cons u).trans (.swap t u rest)

theorem longestFirst_perm (tokens : List Token) : (longestFirst tokens).Perm tokens := by
  induction tokens with
  | nil => exact .refl _
  | cons t rest ih => exact (insertByLength_perm t (longestFirst rest)).trans (ih.cons t)

/-- A token that is inserted comes before those of its own length. -/
theorem filter_insertByLength (n : Nat) (t : Token) (tokens : List Token) :
    (insertByLength t tokens).filter (fun u => u.size = n) =
      (t :: tokens).filter fun u => u.size = n := by
  induction tokens with
  | nil => rfl
  | cons u rest ih =>
      rw [insertByLength]
      split
      · rfl
      · next longer =>
          -- the token is passed on to the rest, so at most one of the two has `n` bytes
          have apart : ¬ (t.size = n ∧ u.size = n) := by omega
          rw [List.filter_cons, ih]
          by_cases ht : t.size = n
          · have hu : ¬ u.size = n := fun hu => apart ⟨ht, hu⟩
            simp [ht, hu]
          · simp [ht, List.filter_cons]

theorem filter_longestFirst (n : Nat) (tokens : List Token) :
    (longestFirst tokens).filter (fun u => u.size = n) =
      tokens.filter fun u => u.size = n := by
  induction tokens with
  | nil => rfl
  | cons t rest ih =>
      show (insertByLength t (longestFirst rest)).filter _ = _
      rw [filter_insertByLength, List.filter_cons, List.filter_cons, ih]

/-! ## The first hit -/

namespace TokenClass

variable {cls : TokenClass} {input : List Char} {t : Token}

theorem longestMatch?_eq_none_iff :
    cls.longestMatch? input = none ↔ ∀ t ∈ cls.tokens, ¬ t.Fits input := by
  rw [longestMatch?, List.find?_eq_none]
  exact forall₂_congr fun t _ => not_congr Token.matchesStart_iff_fits

/-- The first hit is the first one of its own length, too. -/
theorem find?_of_longestMatch? (h : cls.longestMatch? input = some t) :
    cls.tokens.find? (fun u => decide (u.size = t.size) && u.matchesStart input) = some t := by
  obtain ⟨fits, before, after, whole, misses⟩ := List.find?_eq_some_iff_append.1 h
  refine List.find?_eq_some_iff_append.2 ⟨?_, before, after, whole, ?_⟩
  · rw [decide_eq_true rfl, fits]
    rfl
  · intro u hu
    have miss := misses u hu
    rw [Bool.not_eq_true'] at miss
    rw [miss, Bool.and_false]
    rfl

/-- Among the tokens of one length the order of the class is the one they were given in, and so is
the first hit. -/
theorem find?_longestFirst (n : Nat) (p : Token → Bool) (tokens : List Token) :
    (longestFirst tokens).find? (fun u => decide (u.size = n) && p u) =
      tokens.find? fun u => decide (u.size = n) && p u := by
  have same := congrArg (List.find? p) (filter_longestFirst n tokens)
  simpa only [List.find?_filter, Bool.decide_and, Bool.decide_eq_true] using same

variable {lead : Char} {tokens : List Token}

theorem mem_ofTokens {u : Token} : u ∈ (ofTokens lead tokens).tokens ↔ u ∈ tokens :=
  (longestFirst_perm tokens).mem_iff

theorem firstLongest_of_longestMatch? (h : (ofTokens lead tokens).longestMatch? input = some t) :
    FirstLongest tokens input t := by
  have longest : ∀ u ∈ tokens, u.Fits input → u.size ≤ t.size :=
    fun u hu fits => size_le_of_longestMatch? h u (mem_ofTokens.2 hu)
      (Token.matchesStart_iff_fits.2 fits)
  have fits : t.Fits input := Token.matchesStart_iff_fits.1 (matchesStart_of_longestMatch? h)
  have hit := find?_of_longestMatch? h
  rw [ofTokens, find?_longestFirst] at hit
  obtain ⟨-, before, after, whole, misses⟩ := List.find?_eq_some_iff_append.1 hit
  simp only [Token.size_eq_utf8ByteSize] at longest misses
  refine ⟨fits, longest, before, after, whole, ?_⟩
  intro u hu other
  have le := longest u (by rw [whole]; exact List.mem_append_left _ hu) other
  have miss := misses u hu
  rw [Token.matchesStart_iff_fits.2 other, Bool.and_true, Bool.not_eq_true',
    decide_eq_false_iff_not] at miss
  omega

end TokenClass

namespace FirstLongest

variable {tokens : List Token} {input : List Char} {t u : Token}

theorem mem (h : FirstLongest tokens input t) : t ∈ tokens := by
  obtain ⟨before, after, whole, -⟩ := h.first
  rw [whole]
  exact List.mem_append_right before (List.mem_cons_self ..)

theorem find?_eq (h : FirstLongest tokens input t) :
    tokens.find? (fun u => decide (u.size = t.size) && u.matchesStart input) = some t := by
  obtain ⟨before, after, whole, shorter⟩ := h.first
  refine List.find?_eq_some_iff_append.2 ⟨?_, before, after, whole, ?_⟩
  · rw [decide_eq_true rfl, Token.matchesStart_iff_fits.2 h.fits]
    rfl
  · intro u hu
    by_cases fits : u.Fits input
    · have less := shorter u hu fits
      rw [← u.size_eq_utf8ByteSize, ← t.size_eq_utf8ByteSize] at less
      rw [decide_eq_false (Nat.ne_of_lt less)]
      rfl
    · rw [Bool.eq_false_iff.2 fun hit => fits (Token.matchesStart_iff_fits.1 hit), Bool.and_false]
      rfl

/-- No two tokens are both longest and first. -/
theorem unique (ht : FirstLongest tokens input t) (hu : FirstLongest tokens input u) : t = u := by
  have same : t.size = u.size := by
    rw [t.size_eq_utf8ByteSize, u.size_eq_utf8ByteSize]
    exact Nat.le_antisymm (hu.longest t ht.mem ht.fits) (ht.longest u hu.mem hu.fits)
  have hit := ht.find?_eq
  rw [same, hu.find?_eq] at hit
  exact (Option.some.inj hit).symm

end FirstLongest

/-- A class of any tokens holds them from the longest to the shortest, those of equal length in the
order given. Its match is one of the tokens that fit, with the most bytes of all and the first
given of those, and there is none only where no token fits. -/
theorem TokenClass.longestMatch?_ofTokens (lead : Char) (tokens : List Token) :
    (ofTokens lead tokens).tokens.Perm tokens ∧
      (ofTokens lead tokens).tokens.Pairwise
        (fun t u => u.text.utf8ByteSize ≤ t.text.utf8ByteSize) ∧
      (∀ n, (ofTokens lead tokens).tokens.filter (fun t => t.text.utf8ByteSize = n) =
        tokens.filter fun t => t.text.utf8ByteSize = n) ∧
      ∀ input,
        ((ofTokens lead tokens).longestMatch? input = none ↔ ∀ t ∈ tokens, ¬ t.Fits input) ∧
        ∀ t, (ofTokens lead tokens).longestMatch? input = some t ↔
          FirstLongest tokens input t := by
  simp only [← Token.size_eq_utf8ByteSize]
  refine ⟨longestFirst_perm tokens, longestFirst_sorted tokens,
    fun n => filter_longestFirst n tokens, fun input => ⟨?_, fun t => ?_⟩⟩
  · rw [longestMatch?_eq_none_iff]
    exact forall_congr' fun t => imp_congr_left mem_ofTokens
  · refine ⟨firstLongest_of_longestMatch?, fun first => ?_⟩
    cases found : (ofTokens lead tokens).longestMatch? input with
    | none =>
        exact absurd first.fits (longestMatch?_eq_none_iff.1 found t (mem_ofTokens.2 first.mem))
    | some u => rw [(firstLongest_of_longestMatch? found).unique first]

example :
    (TokenClass.ofTokens 'Q' [.native "q" "%d", .native "" "%j", .native "é" "%m",
      .native "QQ" "%y", .native "qq" "%Y"]).longestMatch? "qQq".toList =
        some (.native "QQ" "%y") := by
  decide

end DateLayout
