import DateLayout.Proofs.Scan.Barriers
import Mathlib.Data.List.Forall2

/-!
# Layouts in other letter case

Three rules about letter case meet in a scan. The lead of a class is compared in lower case, and so
are the letters of a token; the escape is compared as it is. For an escape that is no letter they
fit together: a layout in other letter case has pieces of the same kinds at the same bytes, with
the same tokens (`Reads.recased`). The induction is on the pieces of the first layout, and what
carries it is that the two rests are the same letters again.

The rest is about what pieces come to. Whatever relation the native layouts of the pieces are in,
provided that it goes through putting texts behind each other, the forms are in it too
(`sameUpTo_assembled`). It is used twice: with letter case left out of account, and with equality
where no letter stands for itself.
-/

namespace DateLayout

open DateLayout.Text

namespace Text

/-- The texts are the same but for the case of ASCII letters. -/
def SameLetters (cs ds : List Char) : Prop :=
  cs.map Char.toLower = ds.map Char.toLower

instance (cs ds : List Char) : Decidable (SameLetters cs ds) :=
  inferInstanceAs (Decidable (_ = _))

variable {c d : Char} {cs ds es fs : List Char}

theorem SameLetters.append (h : SameLetters cs ds) (h' : SameLetters es fs) :
    SameLetters (cs ++ es) (ds ++ fs) := by
  rw [SameLetters, List.map_append, List.map_append, h, h']

theorem SameLetters.drop (h : SameLetters cs ds) (n : Nat) :
    SameLetters (cs.drop n) (ds.drop n) := by
  rw [SameLetters, List.map_drop, List.map_drop, h]

theorem SameLetters.length_eq (h : SameLetters cs ds) : cs.length = ds.length := by
  have lengths := congrArg List.length h
  rwa [List.length_map, List.length_map] at lengths

theorem SameLetters.byteCount_eq (h : SameLetters cs ds) : byteCount cs = byteCount ds := by
  rw [← byteCount_map_toLower cs, h, byteCount_map_toLower]

theorem SameLetters.exists_of_cons (h : SameLetters (c :: cs) ds) :
    ∃ d ds', ds = d :: ds' ∧ c.toLower = d.toLower ∧ SameLetters cs ds' := by
  cases ds with
  | nil => cases h
  | cons d ds' =>
      obtain ⟨head, tail⟩ := List.cons.inj h
      exact ⟨d, ds', rfl, head, tail⟩

theorem SameLetters.exists_of_append (h : SameLetters (cs ++ es) ds) :
    ∃ front back, ds = front ++ back ∧ SameLetters cs front ∧ SameLetters es back := by
  rw [SameLetters, List.map_append] at h
  obtain ⟨front, back, rfl, first, last⟩ := List.map_eq_append_iff.1 h.symm
  exact ⟨front, back, rfl, first.symm, last.symm⟩

/-- What a text begins with does not depend on its letter case. -/
theorem startsWith_of_sameLetters (h : SameLetters cs ds) (text : List Char) :
    startsWith cs text = startsWith ds text := by
  rw [startsWith_eq_isPrefixOf, startsWith_eq_isPrefixOf, h]

/-- A character that is no letter has no other case. -/
theorem eq_of_toLower_eq (plain : c.isAlpha = false) (same : c.toLower = d.toLower) : c = d := by
  obtain ⟨notUpper, notLower⟩ := Bool.or_eq_false_iff.1 plain
  have kept : c.toLower = c := dif_neg (of_decide_eq_false notUpper)
  have notLower : ¬ (c.val ≥ 'a'.val ∧ c.val ≤ 'z'.val) := fun lower =>
    Bool.eq_false_iff.1 notLower
      (Bool.and_eq_true_iff.2 ⟨decide_eq_true lower.1, decide_eq_true lower.2⟩)
  rw [kept] at same
  by_cases upper : d.val ≥ 'A'.val ∧ d.val ≤ 'Z'.val
  · have shifted : d.toLower.val = d.val + ('a'.val - 'A'.val) :=
      congrArg Char.val (dif_pos upper)
    rw [same, shifted] at notLower
    simp only [ge_iff_le, UInt32.le_iff_toNat_le, UInt32.toNat_add, seval] at upper notLower
    omega
  · rw [same]
    exact dif_neg upper

end Text

/-! ## Pieces in other letter case -/

/-- The same piece in other letter case: the same token, or a character that is the same but for
its case. The escape is the same character. -/
inductive Piece.Recased : Piece → Piece → Prop where
  | escaped {escape c d : Char} (same : c.toLower = d.toLower) :
      Recased (.escaped escape c) (.escaped escape d)
  | lastEscape {escape : Char} : Recased (.lastEscape escape) (.lastEscape escape)
  | token {t : Token} {spelling spelling' : List Char} (same : SameLetters spelling spelling') :
      Recased (.token t spelling) (.token t spelling')
  | plain {c d : Char} (same : c.toLower = d.toLower) : Recased (.plain c) (.plain d)

/-- The character that a piece stands for, if it is no token. -/
def Piece.character? : Piece → Option Char
  | .escaped _ c => some c
  | .lastEscape escape => some escape
  | .token _ _ => none
  | .plain c => some c

variable {g : Grammar} {mode : Mode} {p q : Piece} {ps qs : List Piece}

theorem Piece.Recased.source (h : p.Recased q) : SameLetters p.source q.source := by
  cases h with
  | escaped same => rw [SameLetters, Piece.source, Piece.source]; simp [same]
  | lastEscape => rfl
  | token same => exact same
  | plain same => rw [SameLetters, Piece.source, Piece.source]; simp [same]

theorem sameLetters_sourceOf (h : List.Forall₂ Piece.Recased ps qs) :
    SameLetters (sourceOf ps) (sourceOf qs) := by
  induction h with
  | nil => rfl
  | cons head tail ih => exact head.source.append ih

theorem Piece.Recased.ordinal?_eq (h : p.Recased q) : p.ordinal? = q.ordinal? := by
  cases h <;> rfl

theorem sameLetters_plainNative {c d : Char} (same : c.toLower = d.toLower) :
    SameLetters (plainNative c).toList (plainNative d).toList := by
  rw [plainNative_toList, plainNative_toList]
  by_cases hc : c = '%'
  · rw [eq_of_toLower_eq (by rw [hc]; rfl) same]
    rfl
  · have hd : d ≠ '%' := fun hd =>
      hc ((eq_of_toLower_eq (by rw [hd]; rfl) same.symm).symm.trans hd)
    rw [if_neg hc, if_neg hd, SameLetters, List.map_singleton, List.map_singleton, same]

theorem Piece.Recased.native (h : p.Recased q) (mode : Mode) :
    SameLetters (p.native mode).toList (q.native mode).toList := by
  cases h with
  | escaped same => exact sameLetters_plainNative same
  | lastEscape => rfl
  | token => rfl
  | plain same => exact sameLetters_plainNative same

theorem Piece.Recased.native_eq (h : p.Recased q) (mode : Mode)
    (plain : ∀ c, p.character? = some c → c.isAlpha = false) :
    p.native mode = q.native mode := by
  cases h with
  | escaped same => rw [Piece.native, Piece.native, eq_of_toLower_eq (plain _ rfl) same]
  | lastEscape => rfl
  | token => rfl
  | plain same => rw [Piece.native, Piece.native, eq_of_toLower_eq (plain _ rfl) same]

theorem ordinalsOf_eq_of_recased (h : List.Forall₂ Piece.Recased ps qs) :
    ordinalsOf ps = ordinalsOf qs := by
  induction h with
  | nil => rfl
  | @cons p q ps qs head tail ih =>
      cases hp : p.ordinal? with
      | none => rw [ordinalsOf_cons_none hp, ordinalsOf_cons_none (head.ordinal?_eq ▸ hp), ih]
      | some kind =>
          rw [ordinalsOf_cons_some hp, ordinalsOf_cons_some (head.ordinal?_eq ▸ hp), ih]

theorem Piece.Recased.refusal?_eq (h : p.Recased q) : p.refusal? = q.refusal? := by
  cases h <;> rfl

/-- What cannot be read is the same ordinal at the same byte. -/
theorem refusal?_eq_of_recased (h : List.Forall₂ Piece.Recased ps qs) :
    refusal? ps = refusal? qs := by
  induction h with
  | nil => rfl
  | cons head tail ih => rw [refusal?, refusal?, head.refusal?_eq, head.source.byteCount_eq, ih]

/-! ## Reading a layout in other letter case -/

namespace Grammar

variable {c d : Char} {input input' : List Char} {t : Token}

theorem picks_recased_iff (lead : c.toLower = d.toLower) (same : SameLetters input input') :
    g.Picks c input t ↔ g.Picks d input' t := by
  simp only [Picks, ClassAt, TokenClass.longestMatch?, Token.matchesStart, lead,
    startsWith_of_sameLetters same]

/-- A layout in other letter case has the same pieces in other letter case. -/
theorem Reads.recased (escape : g.escape.isAlpha = false) (h : g.Reads input ps)
    (same : SameLetters input input') :
    ∃ qs, g.Reads input' qs ∧ List.Forall₂ Piece.Recased ps qs := by
  induction h generalizing input' with
  | done =>
      obtain rfl : input' = [] := List.map_eq_nil_iff.1 same.symm
      exact ⟨[], .done, .nil⟩
  | escaped tail ih =>
      obtain ⟨e, rest', rfl, head, behind⟩ := same.exists_of_cons
      obtain rfl := eq_of_toLower_eq escape head
      obtain ⟨d, rest'', rfl, next, last⟩ := behind.exists_of_cons
      obtain ⟨qs, reads, recased⟩ := ih last
      exact ⟨_, .escaped reads, .cons (.escaped next) recased⟩
  | lastEscape =>
      obtain ⟨e, rest', rfl, head, last⟩ := same.exists_of_cons
      obtain rfl := eq_of_toLower_eq escape head
      obtain rfl : rest' = [] := List.map_eq_nil_iff.1 last.symm
      exact ⟨_, .lastEscape, .cons .lastEscape .nil⟩
  | @token c input t spelling rest ps other picked spelled whole tail ih =>
      obtain ⟨d, input', rfl, head, -⟩ := same.exists_of_cons
      have other' : d ≠ g.escape := by
        rintro rfl
        exact other (eq_of_toLower_eq escape head.symm).symm
      have picked' := (picks_recased_iff head same).1 picked
      rw [whole] at same
      obtain ⟨spelling', rest', whole', first, last⟩ := same.exists_of_append
      obtain ⟨qs, reads, recased⟩ := ih last
      exact ⟨_, .token other' picked' (first.symm.trans spelled) whole' reads,
        .cons (.token first) recased⟩
  | @plain c rest ps other unpicked tail ih =>
      obtain ⟨d, rest', rfl, head, last⟩ := same.exists_of_cons
      have other' : d ≠ g.escape := by
        rintro rfl
        exact other (eq_of_toLower_eq escape head.symm).symm
      have unpicked' : ∀ t, ¬ g.Picks d (d :: rest') t :=
        fun t picked => unpicked t ((picks_recased_iff head same).2 picked)
      obtain ⟨qs, reads, recased⟩ := ih last
      exact ⟨_, .plain other' unpicked' reads, .cons (.plain head) recased⟩

end Grammar

/-! ## Forms with native layouts in a relation -/

variable {R : String → String → Prop}

/-- The same segment, but for native layouts in the relation. -/
inductive Segment.SameUpTo (R : String → String → Prop) : Segment → Segment → Prop where
  | literal {native native' : String} (h : R native native') :
      SameUpTo R (.literal native) (.literal native')
  | ordinal {kind : OrdinalKind} : SameUpTo R (.ordinal kind) (.ordinal kind)

/-- The same form, but for native layouts in the relation. -/
inductive NativeForm.SameUpTo (R : String → String → Prop) : NativeForm → NativeForm → Prop where
  | literal {native native' : String} (h : R native native') :
      SameUpTo R (.literal native) (.literal native')
  | segments {parts parts' : List Segment} (h : List.Forall₂ (Segment.SameUpTo R) parts parts') :
      SameUpTo R (.segments parts) (.segments parts')

theorem Segment.SameUpTo.eq {s s' : Segment} (h : s.SameUpTo Eq s') : s = s' := by
  cases h with
  | literal same => rw [same]
  | ordinal => rfl

theorem NativeForm.SameUpTo.eq {form form' : NativeForm} (h : form.SameUpTo Eq form') :
    form = form' := by
  cases h with
  | literal same => rw [same]
  | segments same =>
      have equal := same.imp fun _ _ h => h.eq
      rw [List.forall₂_eq_eq_eq] at equal
      rw [equal]

/-- Pieces that are the same ordinal, or no ordinals and in the relation. -/
def Piece.AlikeIn (R : String → String → Prop) (mode : Mode) (p q : Piece) : Prop :=
  p.ordinal? = q.ordinal? ∧ R (p.native mode) (q.native mode)

section Relation

variable (empty : R "" "")
  (append : ∀ {s s' t t' : String}, R s s' → R t t' → R (s ++ t) (s' ++ t'))
  (alike : List.Forall₂ (Piece.AlikeIn R mode) ps qs)

include empty append alike

theorem nativeOf_alike : R (nativeOf mode ps) (nativeOf mode qs) := by
  induction alike with
  | nil => exact empty
  | cons head tail ih =>
      rw [nativeOf_cons, nativeOf_cons]
      exact append head.2 ih

theorem partsOf_alike :
    List.Forall₂ (Segment.SameUpTo R) (partsOf mode ps) (partsOf mode qs) := by
  induction alike with
  | nil => exact .cons (.literal empty) .nil
  | @cons p q ps qs head tail ih =>
      obtain ⟨native, rest, hps⟩ := exists_partsOf_eq_cons mode ps
      obtain ⟨native', rest', hqs⟩ := exists_partsOf_eq_cons mode qs
      cases hp : p.ordinal? with
      | some kind =>
          rw [partsOf_cons_some hp, partsOf_cons_some (head.1 ▸ hp)]
          exact .cons (.literal empty) (.cons .ordinal ih)
      | none =>
          rw [partsOf_cons_none hp, partsOf_cons_none (head.1 ▸ hp)]
          rw [hps, hqs] at ih ⊢
          cases ih with
          | cons first others =>
              cases first with
              | literal same => exact .cons (.literal (append head.2 same)) others

theorem sameUpTo_assembled (ordinals : ordinalsOf ps = ordinalsOf qs) :
    (assembled mode ps).SameUpTo R (assembled mode qs) := by
  rw [assembled, assembled, ← ordinals]
  split
  · exact .literal (nativeOf_alike empty append alike)
  · exact .segments (partsOf_alike empty append alike)

end Relation

/-! ## Translating in other letter case -/

theorem assembled_recased (mode : Mode) (h : List.Forall₂ Piece.Recased ps qs) :
    (assembled mode ps).SameUpTo (fun native native' => SameLetters native.toList native'.toList)
      (assembled mode qs) := by
  have alike := h.imp fun _ _ recased => And.intro recased.ordinal?_eq (recased.native mode)
  refine sameUpTo_assembled rfl ?_ alike (ordinalsOf_eq_of_recased h)
  intro s s' t t' first last
  rw [String.toList_append, String.toList_append]
  exact first.append last

theorem assembled_eq_of_recased (mode : Mode) (h : List.Forall₂ Piece.Recased ps qs)
    (plain : ∀ p ∈ ps, ∀ c, p.character? = some c → c.isAlpha = false) :
    assembled mode ps = assembled mode qs := by
  have alike := (List.forall₂_and_left _ _).2 ⟨plain, h⟩ |>.imp fun _ _ both =>
    And.intro both.2.ordinal?_eq (both.2.native_eq mode both.1)
  refine (sameUpTo_assembled rfl ?_ alike (ordinalsOf_eq_of_recased h)).eq
  intro s s' t t' first last
  rw [first, last]

namespace Grammar

/-- Both layouts are translated piece by piece, or both are refused at the same ordinal. -/
theorem translate_both_recased (mode : Mode) {layout layout' : String}
    (reads : g.Reads layout.toList ps) (reads' : g.Reads layout'.toList qs)
    (recased : List.Forall₂ Piece.Recased ps qs) :
    (∃ before t spelling after, ps = before ++ .token t spelling :: after ∧
      g.translate layout mode = .error (.ordinalNotReadable t.text (byteCount (sourceOf before))) ∧
      g.translate layout' mode =
        .error (.ordinalNotReadable t.text (byteCount (sourceOf before)))) ∨
    (g.translate layout mode = .ok (assembled mode ps) ∧
      g.translate layout' mode = .ok (assembled mode qs)) := by
  have refusals := refusal?_eq_of_recased recased
  rw [translate_eq_translated reads, translate_eq_translated reads']
  cases mode with
  | formatting => exact .inr ⟨rfl, rfl⟩
  | parsing =>
      rw [translated, translated, ← refusals]
      by_cases plain : ordinalsOf ps = []
      · rw [refusal?_eq_none_iff.2 plain]
        exact .inr ⟨rfl, rfl⟩
      · obtain ⟨before, t, spelling, after, kind, rfl, first, ordinal⟩ := exists_first_ordinal plain
        rw [refusal?_of_first first ordinal]
        exact .inl ⟨before, t, spelling, after, rfl, rfl, rfl⟩

/-- Letter case does not count in tokens, and nowhere else does a scan look past it: the pieces are
the same but for case, and what is written of a character has the case of the layout. -/
theorem translate_recased (g : Grammar) (escape : g.escape.isAlpha = false)
    (layout layout' : String) (same : SameLetters layout.toList layout'.toList) :
    ∃ ps qs, (∀ rs, g.Reads layout.toList rs ↔ rs = ps) ∧
      (∀ rs, g.Reads layout'.toList rs ↔ rs = qs) ∧
      List.Forall₂ Piece.Recased ps qs ∧
      (∀ i, byteCount (sourceOf (ps.take i)) = byteCount (sourceOf (qs.take i))) ∧
      ∀ mode,
        ((∃ before t spelling after, ps = before ++ .token t spelling :: after ∧
            g.translate layout mode =
              .error (.ordinalNotReadable t.text (byteCount (sourceOf before))) ∧
            g.translate layout' mode =
              .error (.ordinalNotReadable t.text (byteCount (sourceOf before)))) ∨
          (g.translate layout mode = .ok (assembled mode ps) ∧
            g.translate layout' mode = .ok (assembled mode qs) ∧
            (assembled mode ps).SameUpTo
              (fun native native' => SameLetters native.toList native'.toList)
              (assembled mode qs))) ∧
        ((∀ p ∈ ps, ∀ c, p.character? = some c → c.isAlpha = false) →
          g.translate layout mode = g.translate layout' mode) := by
  obtain ⟨ps, reads⟩ := g.exists_reads layout.toList
  obtain ⟨qs, reads', recased⟩ := reads.recased escape same
  refine ⟨ps, qs, fun rs => ⟨fun h => h.unique reads, fun h => h ▸ reads⟩,
    fun rs => ⟨fun h => h.unique reads', fun h => h ▸ reads'⟩, recased, ?_, ?_⟩
  · intro i
    exact (sameLetters_sourceOf (List.forall₂_take i recased)).byteCount_eq
  · intro mode
    rcases translate_both_recased mode reads reads' recased with refused | ⟨first, last⟩
    · refine ⟨.inl refused, fun _ => ?_⟩
      obtain ⟨before, t, spelling, after, -, first, last⟩ := refused
      rw [first, last]
    · refine ⟨.inr ⟨first, last, assembled_recased mode recased⟩, fun plain => ?_⟩
      rw [first, last, assembled_eq_of_recased mode recased plain]

/-- An ordinal and a year in two spellings, and two letters that stand for themselves. -/
theorem translate_recased_ordinal :
    standard.escape.isAlpha = false ∧
      SameLetters "Dt\\dYYYY x".toList "dT\\DyyYy X".toList ∧
      ∃ ps qs, (∀ rs, standard.Reads "Dt\\dYYYY x".toList rs ↔ rs = ps) ∧
        (∀ rs, standard.Reads "dT\\DyyYy X".toList rs ↔ rs = qs) ∧
        List.Forall₂ Piece.Recased ps qs ∧
        (∀ i, byteCount (sourceOf (ps.take i)) = byteCount (sourceOf (qs.take i))) ∧
        ∀ mode,
          ((∃ before t spelling after, ps = before ++ .token t spelling :: after ∧
              standard.translate "Dt\\dYYYY x" mode =
                .error (.ordinalNotReadable t.text (byteCount (sourceOf before))) ∧
              standard.translate "dT\\DyyYy X" mode =
                .error (.ordinalNotReadable t.text (byteCount (sourceOf before)))) ∨
            (standard.translate "Dt\\dYYYY x" mode = .ok (assembled mode ps) ∧
              standard.translate "dT\\DyyYy X" mode = .ok (assembled mode qs) ∧
              (assembled mode ps).SameUpTo
                (fun native native' => SameLetters native.toList native'.toList)
                (assembled mode qs))) ∧
          ((∀ p ∈ ps, ∀ c, p.character? = some c → c.isAlpha = false) →
            standard.translate "Dt\\dYYYY x" mode = standard.translate "dT\\DyyYy X" mode) :=
  ⟨by decide, by decide,
    translate_recased standard (by decide) "Dt\\dYYYY x" "dT\\DyyYy X" (by decide)⟩

end Grammar

end DateLayout
