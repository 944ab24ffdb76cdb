import DateLayout.Grammar.Token

/-!
# Layout languages

A grammar is an escape character and classes of tokens, each kept under the character that its
tokens begin with. A class holds its tokens from the longest to the shortest, so that the first
one that matches is a longest one; tokens of equal length stay in the order they were given in.
-/

namespace DateLayout

/-- Puts a token before the first one that is not longer than it. -/
def insertByLength (t : Token) (tokens : List Token) : List Token :=
  match tokens with
  | [] => [t]
  | u :: rest => if u.size ≤ t.size then t :: u :: rest else u :: insertByLength t rest

/-- Tokens from the longest to the shortest. Those of equal length keep their order. -/
def longestFirst (tokens : List Token) : List Token :=
  tokens.foldr insertByLength []

theorem mem_insertByLength {t u : Token} {tokens : List Token} :
    u ∈ insertByLength t tokens ↔ u = t ∨ u ∈ tokens := by
  induction tokens with
  | nil => simp [insertByLength]
  | cons v rest ih =>
      rw [insertByLength]
      split
      · simp
      · simp only [List.mem_cons, ih]
        exact or_left_comm

theorem insertByLength_sorted {t : Token} {tokens : List Token}
    (h : tokens.Pairwise fun a b => b.size ≤ a.size) :
    (insertByLength t tokens).Pairwise fun a b => b.size ≤ a.size := by
  induction tokens with
  | nil => exact List.pairwise_singleton _ _
  | cons u rest ih =>
      obtain ⟨first, others⟩ := List.pairwise_cons.1 h
      rw [insertByLength]
      split
      · rename_i le
        refine List.pairwise_cons.2 ⟨fun v hv => ?_, h⟩
        rcases List.mem_cons.1 hv with rfl | hv
        · exact le
        · exact Nat.le_trans (first v hv) le
      · rename_i lt
        refine List.pairwise_cons.2 ⟨fun v hv => ?_, ih others⟩
        rcases mem_insertByLength.1 hv with rfl | hv
        · exact Nat.le_of_lt (Nat.lt_of_not_le lt)
        · exact first v hv

theorem longestFirst_sorted (tokens : List Token) :
    (longestFirst tokens).Pairwise fun a b => b.size ≤ a.size := by
  induction tokens with
  | nil => exact .nil
  | cons t rest ih => exact insertByLength_sorted ih

/-- The tokens that begin with one character, longest first. -/
structure TokenClass where
  lead : Char
  tokens : List Token
  lead_lower : lead.toLower = lead
  sorted : tokens.Pairwise fun a b => b.size ≤ a.size

namespace TokenClass

/-- The class of the given tokens. The lead is put in lower case. -/
def ofTokens (lead : Char) (tokens : List Token) : TokenClass where
  lead := lead.toLower
  tokens := longestFirst tokens
  lead_lower := Text.toLower_toLower lead
  sorted := longestFirst_sorted tokens

def longestMatch? (cls : TokenClass) (input : List Char) : Option Token :=
  cls.tokens.find? fun t => t.matchesStart input

theorem matchesStart_of_longestMatch? {cls : TokenClass} {input : List Char} {t : Token}
    (h : cls.longestMatch? input = some t) : t.matchesStart input = true := by
  unfold longestMatch? at h
  have found := List.find?_some h
  exact found

/-- No token that fits is longer than the first hit: the ones before it do not fit, the ones after
it are not longer. -/
theorem size_le_of_longestMatch? {cls : TokenClass} {input : List Char} {t : Token}
    (h : cls.longestMatch? input = some t) :
    ∀ u ∈ cls.tokens, u.matchesStart input = true → u.size ≤ t.size := by
  intro u hu hit
  obtain ⟨-, before, after, whole, misses⟩ := List.find?_eq_some_iff_append.1 h
  have sorted := cls.sorted
  rw [whole] at sorted hu
  rcases List.mem_append.1 hu with hu | hu
  · have miss := misses u hu
    rw [hit] at miss
    cases miss
  · rcases List.mem_cons.1 hu with rfl | hu
    · exact Nat.le_refl _
    · exact (List.pairwise_cons.1 (List.pairwise_append.1 sorted).2.1).1 u hu

end TokenClass

/-- Classes of tokens and an escape. No token is empty, so that taking one always makes
progress. -/
structure Grammar where
  classes : List TokenClass
  escape : Char
  text_ne_empty : ∀ cls ∈ classes, ∀ t ∈ cls.tokens, t.text ≠ ""

namespace Grammar

def classFor? (g : Grammar) (c : Char) : Option TokenClass :=
  g.classes.find? fun cls => cls.lead = c.toLower

def tokenAt? (g : Grammar) (input : List Char) : Option Token :=
  input.head?.bind g.classFor? |>.bind fun cls => cls.longestMatch? input

theorem length_chars_pos_of_longestMatch? {g : Grammar} {cls : TokenClass} (mem : cls ∈ g.classes)
    {input : List Char} {t : Token} (h : cls.longestMatch? input = some t) :
    0 < t.chars.length :=
  Token.length_chars_pos (g.text_ne_empty cls mem t (List.mem_of_find?_eq_some h))

theorem length_chars_pos_of_tokenAt? {g : Grammar} {input : List Char} {t : Token}
    (h : g.tokenAt? input = some t) : 0 < t.chars.length := by
  obtain ⟨cls, found, longest⟩ := Option.bind_eq_some_iff.1 h
  obtain ⟨c, -, here⟩ := Option.bind_eq_some_iff.1 found
  exact length_chars_pos_of_longestMatch? (List.mem_of_find?_eq_some here) longest

theorem matchesStart_of_tokenAt? {g : Grammar} {input : List Char} {t : Token}
    (h : g.tokenAt? input = some t) : t.matchesStart input = true := by
  obtain ⟨cls, -, hcls⟩ := Option.bind_eq_some_iff.1 h
  exact TokenClass.matchesStart_of_longestMatch? hcls

end Grammar

end DateLayout
