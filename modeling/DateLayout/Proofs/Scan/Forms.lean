import DateLayout.Proofs.Scan.Pieces

/-!
# A scan is the reading of the pieces

The native form that a scan makes is a function of the pieces of the layout, and so is the place
where it is refused. One step of a scan takes exactly the next piece (`scanStep_of_reads`); from
this a run takes the pieces one after the other, with the draft as its state. What the draft comes
to in the end is then a fact about lists of pieces alone: they fall into groups between the
ordinals, and the native form has one native layout for each group and the ordinals between them.

The literals of `alternate` are one more than its ordinals, so a form with `k` ordinals has
`2 * k + 1` parts. `translate_eq_of_pieces` puts this together with the pieces being there and
being unique.
-/

namespace DateLayout

open DateLayout.Text

def Token.ordinal? (t : Token) : Option OrdinalKind :=
  match t.fragment with
  | .ordinal kind => some kind
  | .native _ _ => none

def Token.native? (t : Token) (mode : Mode) : Option String :=
  match t.fragment, mode with
  | .native format _, .formatting => some format
  | .native _ parse, .parsing => some parse
  | .ordinal _, _ => none

def Piece.ordinal? : Piece → Option OrdinalKind
  | .token t _ => t.ordinal?
  | _ => none

/-- The native layout of a piece that is not an ordinal token. -/
def Piece.native (mode : Mode) : Piece → String
  | .escaped _ c => plainNative c
  | .lastEscape escape => plainNative escape
  | .token t _ => (t.native? mode).getD ""
  | .plain c => plainNative c

def nativeOf (mode : Mode) (ps : List Piece) : String :=
  String.join (ps.map (Piece.native mode))

def ordinalsOf (ps : List Piece) : List OrdinalKind :=
  ps.filterMap Piece.ordinal?

/-- The pieces before, between and after the ordinals. -/
def groupsOf (ps : List Piece) : List (List Piece) :=
  ps.splitOnP fun p => p.ordinal?.isSome

/-! ## One step, one piece -/

/-- The scan after a piece. -/
def Scan.behind (mode : Mode) (s : Scan) (p : Piece) : Scan :=
  ⟨s.position + byteCount p.source,
    match p.ordinal? with
    | some kind => s.draft.addOrdinal kind
    | none => s.draft.addNative (p.native mode)⟩

variable {g : Grammar} {mode : Mode} {layout rest : List Char} {s : Scan} {p : Piece}
  {ps : List Piece}

theorem Scan.behind_of_none (h : p.ordinal? = none) :
    s.behind mode p = ⟨s.position + byteCount p.source, s.draft.addNative (p.native mode)⟩ := by
  rw [behind, h]

theorem Scan.behind_of_some {kind : OrdinalKind} (h : p.ordinal? = some kind) :
    s.behind mode p = ⟨s.position + byteCount p.source, s.draft.addOrdinal kind⟩ := by
  rw [behind, h]

theorem takeToken_eq_moved {t : Token} {spelling : List Char} (spelled : t.SpelledBy spelling)
    (allowed : mode = .formatting ∨ t.ordinal? = none) :
    s.takeToken mode t = .moved (s.behind mode (.token t spelling)) := by
  have size : byteCount spelling = t.size := spelled.byteCount_eq
  unfold Scan.takeToken
  split
  · next format parse hf =>
      have native : t.native? .formatting = some format := by unfold Token.native?; rw [hf]
      rw [Scan.behind_of_none (by rw [Piece.ordinal?, Token.ordinal?, hf]), Piece.source, size,
        Piece.native, native]
      rfl
  · next format parse hf =>
      have native : t.native? .parsing = some parse := by unfold Token.native?; rw [hf]
      rw [Scan.behind_of_none (by rw [Piece.ordinal?, Token.ordinal?, hf]), Piece.source, size,
        Piece.native, native]
      rfl
  · next kind hf =>
      have ordinal : (Piece.token t spelling).ordinal? = some kind := by
        rw [Piece.ordinal?, Token.ordinal?, hf]
      rw [Scan.behind_of_some ordinal, Piece.source, size]
  · next kind hf =>
      rw [Token.ordinal?, hf] at allowed
      rcases allowed with h | h <;> cases h

namespace Grammar

/-- A step takes the next piece, if it is one that the mode allows. -/
theorem scanStep_of_reads (here : fromByte? s.position layout = some rest)
    (h : g.Reads rest (p :: ps)) (allowed : mode = .formatting ∨ p.ordinal? = none) :
    g.scanStep mode layout s = .moved (s.behind mode p) := by
  cases h with
  | escaped tail =>
      rw [scanStep_escape here, takeEscape_eq here, Scan.behind_of_none rfl]
      simp only [Piece.source, byteCount_cons, byteCount_nil, Nat.add_zero, Nat.add_assoc]
      rfl
  | lastEscape =>
      rw [scanStep_escape here, takeEscape_eq here]
      rfl
  | token other picked spelled whole tail =>
      rw [scanStep_token here other (tokenAt?_eq_some_iff.2 picked)]
      exact takeToken_eq_moved spelled allowed
  | plain other unpicked tail =>
      rw [scanStep_plain here other (tokenAt?_eq_none_iff.2 unpicked)]
      rfl

theorem scanStep_refused {t : Token} {spelling : List Char} {kind : OrdinalKind}
    (here : fromByte? s.position layout = some rest)
    (h : g.Reads rest (.token t spelling :: ps)) (ordinal : t.ordinal? = some kind) :
    g.scanStep .parsing layout s = .refused (.ordinalNotReadable t.text s.position) := by
  cases h with
  | token other picked spelled whole tail =>
      rw [scanStep_token here other (tokenAt?_eq_some_iff.2 picked)]
      unfold Scan.takeToken
      rw [Token.ordinal?] at ordinal
      split <;> simp_all

theorem Reads.tail (h : g.Reads rest (p :: ps)) : g.Reads (sourceOf ps) ps := by
  have cut : g.Reads rest ([p] ++ ps) := h
  exact cut.split.1

/-- Behind a piece stand the pieces after it. -/
theorem fromByte?_behind (here : fromByte? s.position layout = some rest)
    (h : g.Reads rest (p :: ps)) :
    fromByte? (s.behind mode p).position layout = some (sourceOf ps) := by
  rw [← h.source_eq, sourceOf_cons] at here
  exact fromByte?_add here

/-! ## A run, all pieces -/

/-- A run that may take the pieces at the front goes on behind them. -/
theorem scanFrom_behind {qs : List Piece} (here : fromByte? s.position layout = some rest)
    (h : g.Reads rest (ps ++ qs)) (allowed : mode = .formatting ∨ ordinalsOf ps = []) :
    g.scanFrom mode layout s = g.scanFrom mode layout (ps.foldl (Scan.behind mode) s) ∧
      fromByte? (ps.foldl (Scan.behind mode) s).position layout = some (sourceOf qs) := by
  induction ps generalizing s rest with
  | nil =>
      rw [← h.source_eq] at here
      exact ⟨rfl, here⟩
  | cons p ps ih =>
      rw [List.cons_append] at h
      have first : mode = .formatting ∨ p.ordinal? = none := by
        refine allowed.imp_right ?_
        intro plain
        cases hp : p.ordinal? with
        | none => rfl
        | some kind =>
            rw [ordinalsOf, List.filterMap_cons_some hp] at plain
            cases plain
      have others : mode = .formatting ∨ ordinalsOf ps = [] := by
        refine allowed.imp_right ?_
        intro plain
        rw [ordinalsOf, List.filterMap_eq_nil_iff] at plain ⊢
        exact fun q hq => plain q (List.mem_cons_of_mem p hq)
      obtain ⟨run, there⟩ := ih (fromByte?_behind here h) h.tail others
      exact ⟨(scanFrom_of_moved (scanStep_of_reads here h first)).trans run, there⟩

theorem fromByte?_start (layout : List Char) :
    fromByte? Scan.start.position layout = some layout :=
  fromByte?_zero layout

/-- A layout without ordinals, or one for writing, is scanned to its end. -/
theorem translate_of_reads {layout : String} (h : g.Reads layout.toList ps)
    (allowed : mode = .formatting ∨ ordinalsOf ps = []) :
    g.translate layout mode = .ok (ps.foldl (Scan.behind mode) .start).draft.finish := by
  have all : g.Reads layout.toList (ps ++ []) := by rwa [List.append_nil]
  obtain ⟨run, there⟩ := scanFrom_behind (fromByte?_start layout.toList) all allowed
  unfold translate
  simp only [run, scanFrom_of_finished (scanStep_end there)]
  rfl

theorem translate_refused {layout : String} {t : Token} {spelling : List Char}
    {kind : OrdinalKind} {qs : List Piece}
    (h : g.Reads layout.toList (ps ++ .token t spelling :: qs)) (first : ordinalsOf ps = [])
    (ordinal : t.ordinal? = some kind) :
    g.translate layout .parsing =
      .error (.ordinalNotReadable t.text (byteCount (sourceOf ps))) := by
  have allowed : Mode.parsing = .formatting ∨ ordinalsOf ps = [] := .inr first
  obtain ⟨run, there⟩ := scanFrom_behind (fromByte?_start layout.toList) h allowed
  have position : (ps.foldl (Scan.behind .parsing) .start).position = byteCount (sourceOf ps) := by
    have whole := add_byteCount_of_fromByte? there
    rw [← h.source_eq, sourceOf_append, byteCount_append] at whole
    omega
  unfold translate
  simp only [run, scanFrom_of_refused (scanStep_refused there h.split.1 ordinal), position]
  rfl

end Grammar

/-! ## What the draft comes to -/

def alternate : List String → List OrdinalKind → List Segment
  | native :: natives, kind :: kinds =>
      .literal native :: .ordinal kind :: alternate natives kinds
  | native :: _, [] => [.literal native]
  | [], _ => []

def nativesOf (mode : Mode) (ps : List Piece) : List String :=
  (groupsOf ps).map (nativeOf mode)

theorem nativeOf_cons (p : Piece) (ps : List Piece) :
    nativeOf mode (p :: ps) = p.native mode ++ nativeOf mode ps := by
  rw [nativeOf, List.map_cons, String.join_cons, nativeOf]

theorem ordinalsOf_cons_none (h : p.ordinal? = none) :
    ordinalsOf (p :: ps) = ordinalsOf ps :=
  List.filterMap_cons_none h

theorem ordinalsOf_cons_some {kind : OrdinalKind} (h : p.ordinal? = some kind) :
    ordinalsOf (p :: ps) = kind :: ordinalsOf ps :=
  List.filterMap_cons_some h

theorem groupsOf_cons_none (h : p.ordinal? = none) :
    groupsOf (p :: ps) = (groupsOf ps).modifyHead (p :: ·) := by
  rw [groupsOf, List.splitOnP_cons_eq_if_modifyHead, h, if_neg (by simp), groupsOf]

theorem groupsOf_cons_some {kind : OrdinalKind} (h : p.ordinal? = some kind) :
    groupsOf (p :: ps) = [] :: groupsOf ps := by
  rw [groupsOf, List.splitOnP_cons_eq_if_modifyHead, h, if_pos (Option.isSome_some), groupsOf]

theorem exists_groupsOf_eq_cons (ps : List Piece) :
    ∃ group groups, groupsOf ps = group :: groups := by
  cases h : groupsOf ps with
  | nil => exact absurd h (List.splitOnP_ne_nil _ ps)
  | cons group groups => exact ⟨group, groups, rfl⟩

/-- The pieces of the groups are those that are no ordinals. -/
theorem exists_mem_groupsOf_iff :
    (∃ group ∈ groupsOf ps, p ∈ group) ↔ p ∈ ps ∧ p.ordinal? = none := by
  induction ps with
  | nil => exact iff_of_false (by simp [groupsOf]) (by simp)
  | cons q ps ih =>
      cases hq : q.ordinal? with
      | some kind =>
          simp only [groupsOf_cons_some hq, List.mem_cons, exists_eq_or_imp, List.not_mem_nil,
            false_or, ih]
          constructor
          · rintro ⟨mem, plain⟩
            exact ⟨.inr mem, plain⟩
          · rintro ⟨rfl | mem, plain⟩
            · rw [plain] at hq
              cases hq
            · exact ⟨mem, plain⟩
      | none =>
          obtain ⟨group, groups, hs⟩ := exists_groupsOf_eq_cons ps
          simp only [hs, List.mem_cons, exists_eq_or_imp] at ih
          simp only [groupsOf_cons_none hq, hs, List.modifyHead_cons, List.mem_cons,
            exists_eq_or_imp, or_assoc, ih]
          constructor
          · rintro (rfl | ⟨mem, plain⟩)
            · exact ⟨.inl rfl, hq⟩
            · exact ⟨.inr mem, plain⟩
          · rintro ⟨rfl | mem, plain⟩
            · exact .inl rfl
            · exact .inr ⟨mem, plain⟩

theorem nativesOf_cons_none (h : p.ordinal? = none) :
    nativesOf mode (p :: ps) = (nativesOf mode ps).modifyHead (p.native mode ++ ·) := by
  obtain ⟨group, groups, hs⟩ := exists_groupsOf_eq_cons ps
  rw [nativesOf, nativesOf, groupsOf_cons_none h, hs, List.modifyHead_cons, List.map_cons,
    List.map_cons, List.modifyHead_cons, nativeOf_cons]

theorem nativesOf_cons_some {kind : OrdinalKind} (h : p.ordinal? = some kind) :
    nativesOf mode (p :: ps) = "" :: nativesOf mode ps := by
  rw [nativesOf, groupsOf_cons_some h]
  rfl

theorem exists_nativesOf_eq_cons (mode : Mode) (ps : List Piece) :
    ∃ native natives, nativesOf mode ps = native :: natives := by
  obtain ⟨group, groups, hs⟩ := exists_groupsOf_eq_cons ps
  exact ⟨_, _, by rw [nativesOf, hs]; rfl⟩

theorem length_nativesOf (mode : Mode) (ps : List Piece) :
    (nativesOf mode ps).length = (ordinalsOf ps).length + 1 := by
  induction ps with
  | nil => rfl
  | cons p ps ih =>
      cases hp : p.ordinal? with
      | none => rw [nativesOf_cons_none hp, ordinalsOf_cons_none hp, List.length_modifyHead, ih]
      | some kind =>
          rw [nativesOf_cons_some hp, ordinalsOf_cons_some hp, List.length_cons,
            List.length_cons, ih]

/-- Once a draft has an ordinal, pieces add the groups and ordinals among them to its segments;
the first group goes on with the native layout that the draft was at. -/
theorem finish_foldl_of_some {parts : List Segment} (h : s.draft.segments = some parts) :
    (ps.foldl (Scan.behind mode) s).draft.finish =
      .segments (parts ++
        alternate ((nativesOf mode ps).modifyHead (s.draft.current ++ ·)) (ordinalsOf ps)) := by
  induction ps generalizing s parts with
  | nil =>
      show s.draft.finish = .segments (parts ++ [.literal (s.draft.current ++ "")])
      rw [Draft.finish, h, String.append_empty]
  | cons p ps ih =>
      obtain ⟨native, natives, hn⟩ := exists_nativesOf_eq_cons mode ps
      rw [List.foldl_cons]
      cases hp : p.ordinal? with
      | none =>
          have after : (s.behind mode p).draft.segments = some parts := by
            rw [Scan.behind_of_none hp]
            exact h
          rw [ih after, Scan.behind_of_none hp, nativesOf_cons_none hp, ordinalsOf_cons_none hp, hn]
          simp only [List.modifyHead_cons, Draft.addNative, String.append_assoc]
      | some kind =>
          have after : (s.behind mode p).draft.segments =
              some (parts ++ [.literal s.draft.current, .ordinal kind]) := by
            rw [Scan.behind_of_some hp, Draft.addOrdinal, h, Option.getD_some]
          rw [ih after, Scan.behind_of_some hp, nativesOf_cons_some hp, ordinalsOf_cons_some hp, hn]
          simp only [List.modifyHead_cons, Draft.addOrdinal, alternate, String.empty_append,
            String.append_empty, List.append_assoc, List.cons_append, List.nil_append]

theorem finish_foldl_of_no_ordinal (h : s.draft.segments = none) (plain : ordinalsOf ps = []) :
    (ps.foldl (Scan.behind mode) s).draft.finish =
      .literal (s.draft.current ++ nativeOf mode ps) := by
  induction ps generalizing s with
  | nil =>
      show s.draft.finish = .literal (s.draft.current ++ "")
      rw [Draft.finish, h, String.append_empty]
  | cons p ps ih =>
      rw [List.foldl_cons]
      cases hp : p.ordinal? with
      | none =>
          have after : (s.behind mode p).draft.segments = none := by
            rw [Scan.behind_of_none hp]
            exact h
          rw [ordinalsOf_cons_none hp] at plain
          rw [ih after plain, Scan.behind_of_none hp, nativeOf_cons]
          simp only [Draft.addNative, String.append_assoc]
      | some kind =>
          rw [ordinalsOf_cons_some hp] at plain
          cases plain

theorem finish_foldl_of_ordinals (h : s.draft.segments = none) (mixed : ordinalsOf ps ≠ []) :
    (ps.foldl (Scan.behind mode) s).draft.finish =
      .segments (alternate ((nativesOf mode ps).modifyHead (s.draft.current ++ ·))
        (ordinalsOf ps)) := by
  induction ps generalizing s with
  | nil => exact absurd rfl mixed
  | cons p ps ih =>
      obtain ⟨native, natives, hn⟩ := exists_nativesOf_eq_cons mode ps
      rw [List.foldl_cons]
      cases hp : p.ordinal? with
      | none =>
          have after : (s.behind mode p).draft.segments = none := by
            rw [Scan.behind_of_none hp]
            exact h
          rw [ordinalsOf_cons_none hp] at mixed
          rw [ih after mixed, Scan.behind_of_none hp, nativesOf_cons_none hp,
            ordinalsOf_cons_none hp, hn]
          simp only [List.modifyHead_cons, Draft.addNative, String.append_assoc]
      | some kind =>
          rw [Scan.behind_of_some hp, finish_foldl_of_some rfl, nativesOf_cons_some hp,
            ordinalsOf_cons_some hp, hn, Draft.addOrdinal, h]
          simp only [List.modifyHead_cons, alternate, String.empty_append, String.append_empty,
            Option.getD_none, List.cons_append, List.nil_append]

/-! ## The parts of a form -/

theorem length_alternate {natives : List String} {kinds : List OrdinalKind}
    (h : natives.length = kinds.length + 1) :
    (alternate natives kinds).length = 2 * kinds.length + 1 := by
  induction kinds generalizing natives with
  | nil =>
      obtain ⟨native, rfl⟩ := List.length_eq_one_iff.1 h
      rfl
  | cons kind kinds ih =>
      cases natives with
      | nil => cases h
      | cons native natives =>
          rw [alternate, List.length_cons, List.length_cons, ih (Nat.succ.inj h),
            List.length_cons]
          omega

/-- Every part at an even place is a native layout, every part at an odd place an ordinal. -/
theorem getElem?_alternate {natives : List String} {kinds : List OrdinalKind}
    (h : natives.length = kinds.length + 1) (i : Nat) :
    (alternate natives kinds)[2 * i]? = natives[i]?.map .literal ∧
      (alternate natives kinds)[2 * i + 1]? = kinds[i]?.map .ordinal := by
  induction kinds generalizing natives i with
  | nil =>
      obtain ⟨native, rfl⟩ := List.length_eq_one_iff.1 h
      cases i with
      | zero => exact ⟨rfl, rfl⟩
      | succ i => exact ⟨by simp [alternate], by simp [alternate]⟩
  | cons kind kinds ih =>
      cases natives with
      | nil => cases h
      | cons native natives =>
          cases i with
          | zero => exact ⟨rfl, rfl⟩
          | succ i => exact ih (Nat.succ.inj h) i

namespace Grammar

/-- Every layout can be translated for writing. -/
theorem exists_translate_formatting (g : Grammar) (layout : String) :
    ∃ form, g.translate layout .formatting = .ok form := by
  obtain ⟨ps, h⟩ := g.exists_reads layout.toList
  exact ⟨_, translate_of_reads h (.inl rfl)⟩

theorem translate_literal {layout : String} (h : g.Reads layout.toList ps)
    (plain : ordinalsOf ps = []) :
    g.translate layout mode = .ok (.literal (nativeOf mode ps)) := by
  rw [translate_of_reads h (.inr plain), finish_foldl_of_no_ordinal rfl plain]
  rfl

theorem translate_segments {layout : String} (h : g.Reads layout.toList ps)
    (mixed : ordinalsOf ps ≠ []) :
    g.translate layout .formatting =
      .ok (.segments (alternate (nativesOf .formatting ps) (ordinalsOf ps))) := by
  rw [translate_of_reads h (.inl rfl), finish_foldl_of_ordinals rfl mixed]
  obtain ⟨native, natives, hn⟩ := exists_nativesOf_eq_cons .formatting ps
  rw [hn, List.modifyHead_cons, Scan.start, Draft.empty, String.empty_append]

/-- A text begins with a token of the class for its first character, and with no longer one of
that class. -/
def LongestAt (g : Grammar) (input : List Char) (t : Token) : Prop :=
  ∃ c cls, input.head? = some c ∧ g.ClassAt c cls ∧ t ∈ cls.tokens ∧
    t.matchesStart input = true ∧
    ∀ u ∈ cls.tokens, u.matchesStart input = true → u.size ≤ t.size

theorem Picks.longestAt {c : Char} {input : List Char} {t : Token}
    (h : g.Picks c (c :: input) t) : g.LongestAt (c :: input) t := by
  obtain ⟨cls, here, longest⟩ := h
  exact ⟨c, cls, rfl, here, List.mem_of_find?_eq_some longest,
    TokenClass.matchesStart_of_longestMatch? longest,
    TokenClass.size_le_of_longestMatch? longest⟩

theorem Reads.longestAt {input : List Char} {before after : List Piece} {t : Token}
    {spelling : List Char} (h : g.Reads input (before ++ .token t spelling :: after)) :
    g.LongestAt (spelling ++ sourceOf after) t := by
  have here : g.Reads (spelling ++ sourceOf after) (.token t spelling :: after) := h.split.1
  cases hrest : spelling ++ sourceOf after with
  | nil =>
      rw [hrest] at here
      cases here
  | cons c rest =>
      rw [hrest] at here
      cases here with
      | token other picked => exact picked.longestAt

theorem exists_first_ordinal (h : ordinalsOf ps ≠ []) :
    ∃ before t spelling after kind, ps = before ++ .token t spelling :: after ∧
      ordinalsOf before = [] ∧ t.ordinal? = some kind := by
  induction ps with
  | nil => exact absurd rfl h
  | cons p ps ih =>
      cases hp : p.ordinal? with
      | none =>
          rw [ordinalsOf_cons_none hp] at h
          obtain ⟨before, t, spelling, after, kind, rfl, first, ordinal⟩ := ih h
          exact ⟨p :: before, t, spelling, after, kind, rfl,
            by rw [ordinalsOf_cons_none hp, first], ordinal⟩
      | some kind =>
          cases p with
          | token t spelling => exact ⟨[], t, spelling, ps, kind, rfl, rfl, hp⟩
          | escaped => cases hp
          | lastEscape => cases hp
          | plain => cases hp

/-- A layout falls into pieces in one way, and its native forms are made of them. -/
theorem translate_eq_of_pieces (g : Grammar) (layout : String) :
    ∃ ps, (∀ qs, g.Reads layout.toList qs ↔ qs = ps) ∧ sourceOf ps = layout.toList ∧
      (∀ before t spelling after, ps = before ++ .token t spelling :: after →
        g.LongestAt (spelling ++ sourceOf after) t) ∧
      (ordinalsOf ps = [] →
        ∀ mode, g.translate layout mode = .ok (.literal (nativeOf mode ps))) ∧
      (ordinalsOf ps ≠ [] →
        (∃ parts, g.translate layout .formatting = .ok (.segments parts) ∧
          parts.length = 2 * (ordinalsOf ps).length + 1 ∧
          ∀ i, parts[2 * i]? =
              (groupsOf ps)[i]?.map (fun group => .literal (nativeOf .formatting group)) ∧
            parts[2 * i + 1]? = (ordinalsOf ps)[i]?.map .ordinal) ∧
        ∃ before t spelling after, ps = before ++ .token t spelling :: after ∧
          ordinalsOf before = [] ∧ t.ordinal?.isSome = true ∧
          g.translate layout .parsing =
            .error (.ordinalNotReadable t.text (byteCount (sourceOf before)))) := by
  obtain ⟨ps, h⟩ := g.exists_reads layout.toList
  refine ⟨ps, fun qs => ⟨fun h' => h'.unique h, fun same => same ▸ h⟩, h.source_eq, ?_,
    fun plain mode => translate_literal h plain, fun mixed => ⟨?_, ?_⟩⟩
  · rintro before t spelling after rfl
    exact h.longestAt
  · have lengths := length_nativesOf .formatting ps
    refine ⟨_, translate_segments h mixed, length_alternate lengths, ?_⟩
    intro i
    obtain ⟨even, odd⟩ := getElem?_alternate lengths i
    refine ⟨?_, odd⟩
    rw [even, nativesOf, List.getElem?_map, Option.map_map]
    rfl
  · obtain ⟨before, t, spelling, after, kind, rfl, first, ordinal⟩ := exists_first_ordinal mixed
    exact ⟨before, t, spelling, after, rfl, first, by rw [ordinal]; rfl,
      translate_refused h first ordinal⟩

end Grammar

end DateLayout
