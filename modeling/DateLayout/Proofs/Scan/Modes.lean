import DateLayout.Proofs.Scan.Forms

/-!
# The two modes agree on what is an ordinal

A layout is translated twice, once for writing and once for reading. The first run takes every
piece, the second one ends at the first ordinal. Both read the same pieces, so one of them meets
an ordinal exactly when the other does.

What stands before the first ordinal is a layout of its own. Its pieces are the ones before the
ordinal (`Reads.split`), which is why its native layout is what the form of the whole layout
begins with. Without ordinals the two native layouts are made piece by piece, and only a token
that is written and read differently can make them differ.
-/

namespace DateLayout

open DateLayout.Text

/-- A token with one native layout for writing and another one for reading. -/
def Token.IsSplit (t : Token) : Prop :=
  t.native? .formatting ≠ t.native? .parsing

/-- A grammar where no token is split. -/
def Grammar.Unsplit (g : Grammar) : Prop :=
  ∀ cls ∈ g.classes, ∀ t ∈ cls.tokens, ¬ t.IsSplit

variable {g : Grammar} {mode : Mode} {ps : List Piece}

theorem ordinalsOf_append (ps qs : List Piece) :
    ordinalsOf (ps ++ qs) = ordinalsOf ps ++ ordinalsOf qs :=
  List.filterMap_append

/-- The first group of pieces is what stands before the first ordinal. -/
theorem nativesOf_of_first {p : Piece} {before after : List Piece} {kind : OrdinalKind}
    (first : ordinalsOf before = []) (h : p.ordinal? = some kind) :
    nativesOf mode (before ++ p :: after) =
      nativeOf mode before :: nativesOf mode after := by
  induction before with
  | nil => exact nativesOf_cons_some h
  | cons q before ih =>
      cases hq : q.ordinal? with
      | some kind =>
          rw [ordinalsOf_cons_some hq] at first
          cases first
      | none =>
          rw [ordinalsOf_cons_none hq] at first
          rw [List.cons_append, nativesOf_cons_none hq, ih first, List.modifyHead_cons,
            nativeOf_cons]

theorem native_eq_of_not_split {p : Piece}
    (h : ∀ t spelling, p = .token t spelling → ¬ t.IsSplit) :
    p.native .formatting = p.native .parsing := by
  cases p with
  | token t spelling =>
      have same : t.native? .formatting = t.native? .parsing :=
        Decidable.not_not.1 (h t spelling rfl)
      rw [Piece.native, Piece.native, same]
  | escaped => rfl
  | lastEscape => rfl
  | plain => rfl

theorem nativeOf_eq_of_natives_eq
    (h : ∀ p ∈ ps, p.native .formatting = p.native .parsing) :
    nativeOf .formatting ps = nativeOf .parsing ps := by
  rw [nativeOf, nativeOf, List.map_congr_left h]

namespace Grammar

theorem Reads.not_split {layout : List Char} (unsplit : g.Unsplit) (h : g.Reads layout ps) :
    ∀ p ∈ ps, ∀ t spelling, p = .token t spelling → ¬ t.IsSplit := by
  rintro p mem t spelling rfl
  obtain ⟨before, after, rfl⟩ := List.append_of_mem mem
  obtain ⟨c, cls, -, ⟨front, back, classes, -⟩, taken, -⟩ := h.longestAt
  have among : cls ∈ g.classes := by
    rw [classes]
    exact List.mem_append_right front (List.mem_cons_self ..)
  exact unsplit cls among t taken

theorem translate_parsing_ne_segments (g : Grammar) (layout : String) (parts : List Segment) :
    g.translate layout .parsing ≠ .ok (.segments parts) := by
  obtain ⟨ps, h⟩ := g.exists_reads layout.toList
  by_cases plain : ordinalsOf ps = []
  · rw [translate_literal h plain]
    exact nofun
  · obtain ⟨before, t, spelling, after, kind, rfl, first, ordinal⟩ := exists_first_ordinal plain
    rw [translate_refused h first ordinal]
    exact nofun

theorem translate_parsing_eq_error_iff (g : Grammar) (layout : String) :
    (∃ e, g.translate layout .parsing = .error e) ↔
      ∃ parts, g.translate layout .formatting = .ok (.segments parts) := by
  obtain ⟨ps, h⟩ := g.exists_reads layout.toList
  by_cases plain : ordinalsOf ps = []
  · constructor
    · rintro ⟨e, he⟩
      rw [translate_literal h plain] at he
      cases he
    · rintro ⟨parts, hparts⟩
      rw [translate_literal h plain] at hparts
      cases hparts
  · obtain ⟨before, t, spelling, after, kind, rfl, first, ordinal⟩ := exists_first_ordinal plain
    exact ⟨fun _ => ⟨_, translate_segments h plain⟩,
      fun _ => ⟨_, translate_refused h first ordinal⟩⟩

/-- A layout falls at its first ordinal into what stands before it and a rest that begins with
the ordinal. -/
structure FirstOrdinal (g : Grammar) (layout : String) (t : Token) (front back : String) :
    Prop where
  whole : layout = front ++ back
  ordinal : t.ordinal?.isSome = true
  pieces : ∃ before spelling after, g.Reads layout.toList (before ++ .token t spelling :: after) ∧
    ordinalsOf before = [] ∧ sourceOf before = front.toList
  fits : startsWith back.toList t.text.toList = true

theorem FirstOrdinal.isValid {layout front back : String} {t : Token}
    (h : g.FirstOrdinal layout t front back) :
    (String.Pos.Raw.mk front.utf8ByteSize).IsValid layout :=
  String.Pos.Raw.isValid_iff_exists_append.2 ⟨front, back, h.whole, rfl⟩

/-- A refusal tells the first ordinal and the byte where it is. -/
theorem exists_firstOrdinal_of_error {layout : String} {e : LayoutError}
    (h : g.translate layout .parsing = .error e) :
    ∃ t front back, g.FirstOrdinal layout t front back ∧
      e = .ordinalNotReadable t.text front.utf8ByteSize := by
  obtain ⟨ps, reads⟩ := g.exists_reads layout.toList
  by_cases plain : ordinalsOf ps = []
  · rw [translate_literal reads plain] at h
    cases h
  · obtain ⟨before, t, spelling, after, kind, rfl, first, ordinal⟩ := exists_first_ordinal plain
    rw [translate_refused reads first ordinal] at h
    cases h
    refine ⟨t, String.ofList (sourceOf before), String.ofList (spelling ++ sourceOf after),
      ⟨?_, by rw [ordinal]; rfl, ⟨before, spelling, after, reads, first, ?_⟩, ?_⟩, ?_⟩
    · rw [← String.ofList_append, ← String.ofList_toList (s := layout), ← reads.source_eq,
        sourceOf_append]
      rfl
    · rw [String.toList_ofList]
    · obtain ⟨c, cls, -, -, -, fits, -⟩ := reads.longestAt
      rw [String.toList_ofList]
      exact fits
    · rw [byteCount_eq_utf8ByteSize_ofList]

/-- What stands before the first ordinal, translated alone, is what the form begins with. -/
theorem FirstOrdinal.translate_front {layout front back : String} {t : Token}
    (h : g.FirstOrdinal layout t front back) :
    ∃ native parts, g.translate layout .formatting = .ok (.segments (.literal native :: parts)) ∧
      g.translate front .formatting = .ok (.literal native) := by
  obtain ⟨before, spelling, after, reads, first, source⟩ := h.pieces
  obtain ⟨kind, ordinal⟩ := Option.isSome_iff_exists.1 h.ordinal
  have here : (Piece.token t spelling).ordinal? = some kind := ordinal
  have alone : g.Reads front.toList before := by
    rw [← source]
    exact reads.split.2 (List.cons_ne_nil _ _)
  have kinds : ordinalsOf (before ++ .token t spelling :: after) = kind :: ordinalsOf after := by
    rw [ordinalsOf_append, first, ordinalsOf_cons_some here, List.nil_append]
  have mixed : ordinalsOf (before ++ .token t spelling :: after) ≠ [] := by
    rw [kinds]
    exact List.cons_ne_nil _ _
  refine ⟨nativeOf .formatting before,
    .ordinal kind :: alternate (nativesOf .formatting after) (ordinalsOf after), ?_,
    translate_literal alone first⟩
  rw [translate_segments reads mixed, kinds, nativesOf_of_first first here, alternate]

theorem translate_both {layout written read : String}
    (hw : g.translate layout .formatting = .ok (.literal written))
    (hr : g.translate layout .parsing = .ok (.literal read)) :
    ∃ ps, g.Reads layout.toList ps ∧ written = nativeOf .formatting ps ∧
      read = nativeOf .parsing ps := by
  obtain ⟨ps, h⟩ := g.exists_reads layout.toList
  by_cases plain : ordinalsOf ps = []
  · rw [translate_literal h plain] at hw hr
    cases hw
    cases hr
    exact ⟨ps, h, rfl, rfl⟩
  · rw [translate_segments h plain] at hw
    cases hw

/-- The two translations of a layout agree on its ordinals, and on everything but split tokens. -/
theorem translate_modes_agree (g : Grammar) (layout : String) :
    (∃ form, g.translate layout .formatting = .ok form) ∧
    (∀ parts, g.translate layout .parsing ≠ .ok (.segments parts)) ∧
    ((∃ e, g.translate layout .parsing = .error e) ↔
      ∃ parts, g.translate layout .formatting = .ok (.segments parts)) ∧
    (∀ e, g.translate layout .parsing = .error e →
      ∃ t front back, g.FirstOrdinal layout t front back ∧
        e = .ordinalNotReadable t.text front.utf8ByteSize ∧
        (String.Pos.Raw.mk front.utf8ByteSize).IsValid layout ∧
        ∃ native parts,
          g.translate layout .formatting = .ok (.segments (.literal native :: parts)) ∧
          g.translate front .formatting = .ok (.literal native)) ∧
    (∀ written read, g.translate layout .formatting = .ok (.literal written) →
      g.translate layout .parsing = .ok (.literal read) →
      (∃ ps, g.Reads layout.toList ps ∧ written = nativeOf .formatting ps ∧
        read = nativeOf .parsing ps ∧
        ∀ p ∈ ps, (∀ t spelling, p = .token t spelling → ¬ t.IsSplit) →
          p.native .formatting = p.native .parsing) ∧
      (g.Unsplit → written = read)) := by
  refine ⟨g.exists_translate_formatting layout, g.translate_parsing_ne_segments layout,
    g.translate_parsing_eq_error_iff layout, fun e he => ?_, fun written read hw hr => ?_⟩
  · obtain ⟨t, front, back, first, rfl⟩ := exists_firstOrdinal_of_error he
    exact ⟨t, front, back, first, rfl, first.isValid, first.translate_front⟩
  · obtain ⟨ps, h, rfl, rfl⟩ := translate_both hw hr
    refine ⟨⟨ps, h, rfl, rfl, fun p _ => native_eq_of_not_split⟩, ?_⟩
    intro unsplit
    exact nativeOf_eq_of_natives_eq fun p mem =>
      native_eq_of_not_split (h.not_split unsplit p mem)

end Grammar

end DateLayout
