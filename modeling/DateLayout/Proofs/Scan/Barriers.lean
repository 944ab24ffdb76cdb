import DateLayout.Proofs.RoundTrip.Escaped
import DateLayout.Proofs.Scan.Modes

/-!
# Escaped runs are barriers

An escaped text in the middle of a layout keeps what stands before it apart from what stands after
it. Where the escape is in no token, a token before it ends before it, since a longer one would have
to contain the escape (`picks_append_iff`), and the escape itself is paired within the run. So the
pieces of the whole are those of the parts (`Reads.append`).

Forms are put together like pieces. `NativeForm.join` puts one form behind another and makes one
native layout of the two that meet, and the form of pieces in front of others is the join of the
forms (`join_assembled`). Only an ordinal in a layout for reading is in the way of it, and its place
is counted from the start of the whole (`translated_append`). A scan comes to what its pieces come
to, so the claim about layouts is one about lists of pieces.
-/

namespace DateLayout

open DateLayout.Text

variable {g : Grammar} {mode : Mode} {front back : List Char} {ps qs : List Piece}

/-! ## Cutting in front of a character that no token has -/

namespace Grammar

/-- The last piece of a layout is an escape with nothing behind it. -/
def EndsInEscape (g : Grammar) (layout : List Char) : Prop :=
  ∃ ps, g.Reads layout (ps ++ [.lastEscape g.escape])

theorem Picks.mem_tokens {c : Char} {input : List Char} {t : Token}
    (h : g.Picks c (c :: input) t) : t ∈ g.tokens := by
  obtain ⟨d, cls, -, ⟨before, after, whole, -⟩, mem, -⟩ := h.longestAt
  refine Grammar.mem_tokens ?_ mem
  rw [whole]
  exact List.mem_append_right before (List.mem_cons_self ..)

/-- A token does not reach over a character that is in no token. -/
theorem matchesStart_of_append {t : Token} (known : t ∈ g.tokens)
    (stop : ∀ d, back.head? = some d → d.toLower ∉ g.alphabet)
    (h : t.matchesStart (front ++ back) = true) : t.matchesStart front = true := by
  obtain ⟨spelling, rest, whole, spelled⟩ := Token.matchesStart_iff.1 h
  rcases List.append_eq_append_iff.1 whole with ⟨more, rfl, behind⟩ | ⟨more, rfl, -⟩
  · cases more with
    | nil =>
        rw [List.append_nil] at spelled
        exact Token.matchesStart_iff.2 ⟨front, [], (List.append_nil front).symm, spelled⟩
    | cons d more =>
        refine absurd ?_ (stop d (by rw [behind]; rfl))
        have among : d.toLower ∈ (front ++ d :: more).map Char.toLower :=
          List.mem_map_of_mem (List.mem_append_right front (List.mem_cons_self ..))
        rw [spelled] at among
        exact List.mem_flatMap.2 ⟨t, known, among⟩
  · exact Token.matchesStart_iff.2 ⟨spelling, more, rfl, spelled⟩

theorem picks_append_iff {c : Char} {t : Token}
    (stop : ∀ d, back.head? = some d → d.toLower ∉ g.alphabet) :
    g.Picks c (c :: front ++ back) t ↔ g.Picks c (c :: front) t := by
  have cut : ∀ u, g.Picks c (c :: front ++ back) u → g.Picks c (c :: front) u := by
    intro u picked
    exact picked.cut (matchesStart_of_append picked.mem_tokens stop picked.matchesStart)
  constructor
  · exact cut t
  · intro picked
    obtain ⟨u, taken⟩ := picked.of_cut back
    rwa [picked.unique (cut u taken)]

/-- The pieces of two parts are the pieces of the whole, if no piece of the first part could go on
into the second. -/
theorem Reads.append (h : g.Reads front ps) (closed : ∀ escape, .lastEscape escape ∉ ps)
    (stop : ∀ d, back.head? = some d → d.toLower ∉ g.alphabet) (tail : g.Reads back qs) :
    g.Reads (front ++ back) (ps ++ qs) := by
  induction h with
  | done => exact tail
  | escaped _ ih =>
      exact .escaped (ih fun escape mem => closed escape (List.mem_cons_of_mem _ mem))
  | lastEscape => exact absurd (List.mem_singleton_self _) (closed g.escape)
  | token other picked spelled whole _ ih =>
      refine .token other ((picks_append_iff stop).2 picked) spelled ?_
        (ih fun escape mem => closed escape (List.mem_cons_of_mem _ mem))
      rw [← List.append_assoc, ← whole]
      rfl
  | plain other unpicked _ ih =>
      exact .plain other (fun t picked => unpicked t ((picks_append_iff stop).1 picked))
        (ih fun escape mem => closed escape (List.mem_cons_of_mem _ mem))

/-- An escape with nothing behind it is the end of the layout. -/
theorem Reads.lastEscape_not_mem (h : g.Reads front ps) (closed : ¬ g.EndsInEscape front)
    (escape : Char) : .lastEscape escape ∉ ps := by
  intro mem
  obtain ⟨before, after, rfl⟩ := List.append_of_mem mem
  have last := h.split.1
  generalize sourceOf (.lastEscape escape :: after) = rest at last
  cases last with
  | lastEscape => exact closed ⟨before, h⟩

theorem Reads.barrier (foreign : g.escape.toLower ∉ g.alphabet) (closed : ¬ g.EndsInEscape front)
    {c : Char} {cs : List Char} (first : g.Reads front ps) (last : g.Reads back qs) :
    g.Reads (front ++ (escapedChars g.escape (c :: cs) ++ back))
      (ps ++ (escapedPieces g.escape (c :: cs) ++ qs)) := by
  have behind : g.Reads (escapedChars g.escape (c :: cs) ++ back)
      (escapedPieces g.escape (c :: cs) ++ qs) := by
    generalize c :: cs = middle
    induction middle with
    | nil => exact last
    | cons d middle ih => exact .escaped ih
  refine first.append (first.lastEscape_not_mem closed) ?_ behind
  intro d head
  obtain rfl : g.escape = d := Option.some.inj head
  exact foreign

end Grammar

/-! ## The join of two forms -/

namespace NativeForm

/-- The parts of a form, whether it is one native layout or several. -/
def parts : NativeForm → List Segment
  | .literal native => [.literal native]
  | .segments parts => parts

/-- Puts segments behind others. Where two native layouts meet, they become one. -/
def fuse : List Segment → List Segment → List Segment
  | [], ss => ss
  | [.literal native], .literal more :: ss => .literal (native ++ more) :: ss
  | s :: rest, ss => s :: fuse rest ss

/-- Puts a form behind another one. -/
def join (first second : NativeForm) : NativeForm :=
  match first, second with
  | .literal native, .literal more => .literal (native ++ more)
  | first, second => .segments (fuse first.parts second.parts)

end NativeForm

open NativeForm (fuse)

/-- The native layout of a segment behind another one. -/
def Segment.behind (native : String) : Segment → Segment
  | .literal more => .literal (native ++ more)
  | .ordinal kind => .ordinal kind

/-- The native layouts of pieces and the ordinals between them. -/
def partsOf (mode : Mode) (ps : List Piece) : List Segment :=
  alternate (nativesOf mode ps) (ordinalsOf ps)

/-- The form that pieces come to. -/
def assembled (mode : Mode) (ps : List Piece) : NativeForm :=
  if ordinalsOf ps = [] then .literal (nativeOf mode ps) else .segments (partsOf mode ps)

variable {p : Piece}

theorem exists_partsOf_eq_cons (mode : Mode) (ps : List Piece) :
    ∃ native rest, partsOf mode ps = .literal native :: rest := by
  obtain ⟨native, natives, hn⟩ := exists_nativesOf_eq_cons mode ps
  obtain ⟨rest, hrest⟩ := exists_alternate_cons natives (ordinalsOf ps)
  exact ⟨native, rest, by rw [partsOf, hn, hrest]⟩

theorem partsOf_cons_none (h : p.ordinal? = none) :
    partsOf mode (p :: ps) = (partsOf mode ps).modifyHead (Segment.behind (p.native mode)) := by
  obtain ⟨native, natives, hn⟩ := exists_nativesOf_eq_cons mode ps
  obtain ⟨rest, hrest⟩ := exists_alternate_cons natives (ordinalsOf ps)
  rw [partsOf, partsOf, nativesOf_cons_none h, ordinalsOf_cons_none h, hn, List.modifyHead_cons,
    hrest, hrest]
  rfl

theorem partsOf_cons_some {kind : OrdinalKind} (h : p.ordinal? = some kind) :
    partsOf mode (p :: ps) = .literal "" :: .ordinal kind :: partsOf mode ps := by
  rw [partsOf, nativesOf_cons_some h, ordinalsOf_cons_some h]
  rfl

theorem partsOf_of_no_ordinal (plain : ordinalsOf ps = []) :
    partsOf mode ps = [.literal (nativeOf mode ps)] := by
  rw [partsOf, nativesOf, groupsOf_of_no_ordinal plain, plain]
  rfl

theorem fuse_modifyHead {s : Segment} {ss rest : List Segment} (native : String) :
    fuse ((s :: ss).modifyHead (Segment.behind native)) rest =
      (fuse (s :: ss) rest).modifyHead (Segment.behind native) := by
  cases s with
  | ordinal kind => rfl
  | literal more =>
      cases ss with
      | cons => rfl
      | nil =>
          rcases rest with _ | ⟨most | kind, rest⟩
          · rfl
          · simp only [List.modifyHead_cons, Segment.behind, fuse, String.append_assoc]
          · rfl

/-- The parts of pieces in front of others fuse with those of the others. -/
theorem fuse_partsOf (mode : Mode) (ps qs : List Piece) :
    fuse (partsOf mode ps) (partsOf mode qs) = partsOf mode (ps ++ qs) := by
  induction ps with
  | nil =>
      obtain ⟨native, rest, hq⟩ := exists_partsOf_eq_cons mode qs
      rw [List.nil_append, hq]
      show fuse [.literal ""] (.literal native :: rest) = _
      rw [fuse, String.empty_append]
  | cons p ps ih =>
      rw [List.cons_append]
      cases hp : p.ordinal? with
      | none =>
          obtain ⟨native, rest, hps⟩ := exists_partsOf_eq_cons mode ps
          rw [partsOf_cons_none hp, partsOf_cons_none hp, ← ih, hps, fuse_modifyHead]
      | some kind =>
          rw [partsOf_cons_some hp, partsOf_cons_some hp, ← ih]
          rfl

theorem parts_assembled (mode : Mode) (ps : List Piece) :
    (assembled mode ps).parts = partsOf mode ps := by
  rw [assembled]
  split
  · next plain => exact (partsOf_of_no_ordinal plain).symm
  · rfl

theorem nativeOf_append (mode : Mode) (ps qs : List Piece) :
    nativeOf mode (ps ++ qs) = nativeOf mode ps ++ nativeOf mode qs := by
  rw [nativeOf, List.map_append, String.join_append, nativeOf, nativeOf]

/-- Forms are joined as pieces are. -/
theorem join_assembled (mode : Mode) (ps qs : List Piece) :
    (assembled mode ps).join (assembled mode qs) = assembled mode (ps ++ qs) := by
  have fused := fuse_partsOf mode ps qs
  rw [← parts_assembled mode ps, ← parts_assembled mode qs] at fused
  rw [assembled.eq_def mode (ps ++ qs), ordinalsOf_append, ← fused]
  by_cases plain : ordinalsOf ps = []
  · by_cases plain' : ordinalsOf qs = []
    · rw [if_pos (by rw [plain, plain']; rfl), nativeOf_append, assembled, if_pos plain, assembled,
        if_pos plain']
      rfl
    · rw [if_neg (by simp [plain']), assembled, if_pos plain, assembled, if_neg plain']
      rfl
  · rw [if_neg (by simp [plain]), assembled, if_neg plain]
    rfl

/-! ## Translating pieces -/

/-- An error about a layout that has something else in front of it. -/
def LayoutError.movedBy (bytes : Nat) : LayoutError → LayoutError
  | .ordinalNotReadable token position => .ordinalNotReadable token (position + bytes)
  | e => e

theorem LayoutError.movedBy_movedBy (e : LayoutError) (n m : Nat) :
    (e.movedBy n).movedBy m = e.movedBy (m + n) := by
  cases e with
  | ordinalNotReadable token position =>
      rw [movedBy, movedBy, movedBy, Nat.add_assoc, Nat.add_comm n m]
  | _ => rfl

/-- Why a piece at the start of a layout cannot be read. -/
def Piece.refusal? : Piece → Option LayoutError
  | .token t _ => t.ordinal?.map fun _ => .ordinalNotReadable t.text 0
  | _ => none

/-- Why a layout of the pieces cannot be read. The first ordinal counts. -/
def refusal? : List Piece → Option LayoutError
  | [] => none
  | p :: ps => p.refusal?.or ((refusal? ps).map (.movedBy (byteCount p.source)))

/-- What a layout of the pieces is translated to. -/
def translated (mode : Mode) (ps : List Piece) : Except LayoutError NativeForm :=
  match mode with
  | .formatting => .ok (assembled .formatting ps)
  | .parsing =>
      match refusal? ps with
      | some e => .error e
      | none => .ok (assembled .parsing ps)

theorem Piece.refusal?_eq_none_iff : p.refusal? = none ↔ p.ordinal? = none := by
  cases p with
  | token t spelling => exact Option.map_eq_none_iff
  | escaped | lastEscape | plain => exact iff_of_true rfl rfl

theorem refusal?_eq_none_iff : refusal? ps = none ↔ ordinalsOf ps = [] := by
  induction ps with
  | nil => exact iff_of_true rfl rfl
  | cons p ps ih =>
      rw [refusal?, Option.or_eq_none_iff, Option.map_eq_none_iff, ih, Piece.refusal?_eq_none_iff]
      cases hp : p.ordinal? with
      | none => rw [ordinalsOf_cons_none hp]; exact and_iff_right rfl
      | some kind => rw [ordinalsOf_cons_some hp]; exact iff_of_false nofun nofun

/-- An error behind other pieces is that of the pieces alone, further on. -/
theorem refusal?_append (ps qs : List Piece) :
    refusal? (ps ++ qs) =
      (refusal? ps).or ((refusal? qs).map (.movedBy (byteCount (sourceOf ps)))) := by
  induction ps with
  | nil =>
      show refusal? qs = (refusal? qs).map (.movedBy 0)
      rcases refusal? qs with _ | ⟨_ | _ | _ | _⟩ <;> rfl
  | cons p ps ih =>
      rw [List.cons_append, refusal?, refusal?, ih]
      cases p.refusal? with
      | some e => rfl
      | none =>
          cases refusal? ps with
          | some e => rfl
          | none =>
              cases refusal? qs with
              | none => rfl
              | some e =>
                  rw [sourceOf_cons, byteCount_append]
                  exact congrArg some (e.movedBy_movedBy _ _)

theorem refusal?_of_first {before after : List Piece} {t : Token} {spelling : List Char}
    {kind : OrdinalKind} (plain : ordinalsOf before = []) (ordinal : t.ordinal? = some kind) :
    refusal? (before ++ .token t spelling :: after) =
      some (.ordinalNotReadable t.text (byteCount (sourceOf before))) := by
  have here : (Piece.token t spelling).refusal? = some (.ordinalNotReadable t.text 0) := by
    rw [Piece.refusal?, ordinal]
    rfl
  rw [refusal?_append, refusal?_eq_none_iff.2 plain, refusal?, here]
  show some (LayoutError.ordinalNotReadable t.text (0 + _)) = _
  rw [Nat.zero_add]

theorem translated_of_no_ordinal (plain : ordinalsOf ps = []) :
    translated mode ps = .ok (assembled mode ps) := by
  cases mode with
  | formatting => rfl
  | parsing => rw [translated, refusal?_eq_none_iff.2 plain]

/-- The first part that is refused decides, and its error is told where it is in the whole. -/
theorem translated_append (mode : Mode) (ps qs : List Piece) :
    translated mode (ps ++ qs) = do
      let first ← translated mode ps
      let last ← (translated mode qs).mapError (.movedBy (byteCount (sourceOf ps)))
      return first.join last := by
  cases mode with
  | formatting =>
      rw [translated, ← join_assembled]
      rfl
  | parsing =>
      rw [translated, translated, translated, refusal?_append, ← join_assembled]
      cases refusal? ps with
      | some e => rfl
      | none =>
          cases refusal? qs with
          | some e => rfl
          | none => rfl

/-- A scan comes to what the pieces of the layout come to. -/
theorem Grammar.translate_eq_translated {layout : String} (h : g.Reads layout.toList ps)
    (mode : Mode) : g.translate layout mode = translated mode ps := by
  by_cases plain : ordinalsOf ps = []
  · rw [translate_literal h plain, translated_of_no_ordinal plain, assembled, if_pos plain]
  · cases mode with
    | formatting => rw [translate_segments h plain, translated, assembled, if_neg plain, partsOf]
    | parsing =>
        obtain ⟨before, t, spelling, after, kind, rfl, first, ordinal⟩ := exists_first_ordinal plain
        rw [translate_refused h first ordinal, translated, refusal?_of_first first ordinal]

/-! ## Translating across a barrier -/

/-- A text with every percent sign written twice. -/
def percentsDoubled (text : String) : String :=
  String.ofList (text.toList.flatMap fun c => if c = '%' then ['%', '%'] else [c])

theorem translated_escapedPieces (mode : Mode) (escape : Char) (text : String) :
    translated mode (escapedPieces escape text.toList) = .ok (.literal (percentsDoubled text)) := by
  have plain := ordinalsOf_escapedPieces escape text.toList
  rw [translated_of_no_ordinal plain, assembled, if_pos plain, percentsDoubled]
  refine congrArg (Except.ok ∘ NativeForm.literal) ?_
  induction text.toList with
  | nil => rfl
  | cons c cs ih =>
      rw [← String.toList_inj, nativeOf_escapedPieces_cons, ih, plainNative_toList]
      simp only [String.toList_ofList, List.flatMap_cons]

namespace Grammar

theorem Reads.across (foreign : g.escape.toLower ∉ g.alphabet) {front middle back : String}
    (closed : ¬ g.EndsInEscape front.toList) (barrier : middle ≠ "")
    (first : g.Reads front.toList ps) (last : g.Reads back.toList qs) :
    g.Reads (front ++ escapedText g.escape middle ++ back).toList
      (ps ++ (escapedPieces g.escape middle.toList ++ qs)) := by
  rw [String.toList_append, String.toList_append, List.append_assoc, escapedText,
    String.toList_ofList]
  cases hm : middle.toList with
  | nil => exact absurd (String.toList_eq_nil_iff.1 hm) barrier
  | cons c cs => exact Reads.barrier foreign closed first last

/-- An escaped text is a barrier: what stands before and after it is translated as if it stood
alone. The first error counts, and one behind the barrier is told where it is in the whole. -/
theorem translate_barrier (g : Grammar) (foreign : g.escape.toLower ∉ g.alphabet) (mode : Mode)
    (front middle back : String) (closed : ¬ g.EndsInEscape front.toList)
    (barrier : middle ≠ "") :
    g.translate (front ++ escapedText g.escape middle ++ back) mode = do
      let first ← g.translate front mode
      let last ← (g.translate back mode).mapError
        (.movedBy (front.utf8ByteSize + (escapedText g.escape middle).utf8ByteSize))
      return (first.join (.literal (percentsDoubled middle))).join last := by
  obtain ⟨ps, first⟩ := g.exists_reads front.toList
  obtain ⟨qs, last⟩ := g.exists_reads back.toList
  have whole := Reads.across foreign closed barrier first last
  have position : byteCount (sourceOf (ps ++ escapedPieces g.escape middle.toList)) =
      front.utf8ByteSize + (escapedText g.escape middle).utf8ByteSize := by
    rw [sourceOf_append, byteCount_append, first.source_eq, (g.reads_escaped _).source_eq,
      byteCount_toList, escapedText, ← byteCount_eq_utf8ByteSize_ofList]
  rw [← List.append_assoc] at whole
  rw [translate_eq_translated whole, translate_eq_translated first, translate_eq_translated last,
    translated_append, translated_append, translated_escapedPieces, position]
  cases translated mode ps <;> rfl

/-- The escape at the end is itself behind an escape. -/
theorem not_endsInEscape_paired : ¬ standard.EndsInEscape "dt\\\\".toList := by
  have found : (standard.tokenAt? "dt\\\\".toList).map Token.text = some "dt" := by decide
  obtain ⟨t, picked, text⟩ := Option.map_eq_some_iff.1 found
  have spelled : t.SpelledBy ['d', 't'] := by
    rw [Token.SpelledBy, Token.chars, text]
    rfl
  have reads : standard.Reads "dt\\\\".toList [.token t ['d', 't'], .escaped '\\' '\\'] :=
    .token (by decide) (tokenAt?_eq_some_iff.1 picked) spelled rfl (.escaped .done)
  rintro ⟨ps, other⟩
  have last := congrArg List.getLast? (reads.unique other)
  rw [List.getLast?_concat] at last
  cases last

/-- An ordinal on either side, an escape right before the barrier and one at the very end. -/
theorem translate_barrier_ordinals :
    standard.escape.toLower ∉ standard.alphabet ∧
      ¬ standard.EndsInEscape "dt\\\\".toList ∧ "d%" ≠ "" ∧
      standard.translate ("dt\\\\" ++ escapedText '\\' "d%" ++ "mt\\") .formatting = do
        let first ← standard.translate "dt\\\\" .formatting
        let last ← (standard.translate "mt\\" .formatting).mapError
          (.movedBy ("dt\\\\".utf8ByteSize + (escapedText '\\' "d%").utf8ByteSize))
        return (first.join (.literal (percentsDoubled "d%"))).join last :=
  ⟨by decide, not_endsInEscape_paired, by decide,
    translate_barrier standard (by decide) .formatting "dt\\\\" "d%" "mt\\" not_endsInEscape_paired
      (by decide)⟩

end Grammar

end DateLayout
