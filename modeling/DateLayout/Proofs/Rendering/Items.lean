import DateLayout.Proofs.RoundTrip.Remains
import DateLayout.Proofs.Strftime.Merging

/-!
# The items of a native layout are those of its pieces

A layout is cut into pieces, the native layouts of the pieces are put together, and the result is
cut into items. The second cut does not know of the first one. It comes to the same all the same:
up to merging, the items of the whole are the items that each piece has by itself, in order
(`merged_items_nativeOf`). What makes it so is that a token of the standard language stands for
one specifier that ends where it ends, and that a percent sign of the layout is doubled.

So no token takes anything from its neighbours, and none of the items is unknown
(`unknown_not_mem_items`).
-/

namespace DateLayout

open DateLayout.Strftime DateLayout.Text

/-- The items of a piece by itself: the character that it stands for, or what the native layout
of its token consists of. -/
def Piece.ownItems (mode : Mode) : Piece → List Item
  | .escaped _ c | .lastEscape c | .plain c => [textItem c]
  | .token t _ => Strftime.items ((t.native? mode).getD "").toList

/-- Pieces all of whose tokens are of the standard language. -/
def Known (ps : List Piece) : Prop :=
  ∀ t spelling, .token t spelling ∈ ps → t ∈ Grammar.standard.tokens

variable {mode : Mode} {p : Piece} {ps qs : List Piece} {t : Token}

theorem Known.tail (h : Known (p :: ps)) : Known ps := by
  intro t spelling mem
  exact h t spelling (List.mem_cons_of_mem p mem)

theorem Known.of_mem (h : Known ps) (mem : p ∈ ps) :
    ∀ t spelling, p = .token t spelling → t ∈ Grammar.standard.tokens := by
  rintro t spelling rfl
  exact h t spelling mem

theorem Grammar.Reads.mem_tokens {g : Grammar} {layout : List Char} (h : g.Reads layout ps)
    {spelling : List Char} (mem : .token t spelling ∈ ps) : t ∈ g.tokens := by
  obtain ⟨before, after, rfl⟩ := List.append_of_mem mem
  obtain ⟨c, cls, -, ⟨front, back, classes, -⟩, taken, -⟩ := h.longestAt
  refine Grammar.mem_tokens ?_ taken
  rw [classes]
  exact List.mem_append_right front (List.mem_cons_self ..)

theorem Grammar.Reads.known {layout : List Char} (h : Grammar.standard.Reads layout ps) :
    Known ps := by
  intro t spelling mem
  exact h.mem_tokens mem

/-! ## Tokens -/

theorem specifier_of_listed : ∀ e ∈ standardItems, e.2.isText = false ∧ e.2 ≠ .unknown := by
  decide

theorem isText_reader (i : Item) : i.reader.isText = i.isText :=
  Item.kind_reader rfl i

theorem reader_eq_unknown_iff (i : Item) : i.reader = .unknown ↔ i = .unknown := by
  unfold Item.reader
  split
  · simp
  · exact Iff.rfl

theorem Grammar.exists_item_of_mode (h : t ∈ Grammar.standard.tokens) (native : t.ordinal? = none)
    (mode : Mode) : ∃ i, t.item? mode = some i ∧ i.isText = false ∧ i ≠ .unknown := by
  obtain ⟨i, written, read, listed⟩ := Grammar.exists_item h native
  obtain ⟨text, known⟩ := specifier_of_listed _ listed
  cases mode with
  | formatting => exact ⟨i, written, text, known⟩
  | parsing =>
      refine ⟨i.reader, read, ?_, ?_⟩
      · rw [isText_reader]
        exact text
      · intro same
        exact known ((reader_eq_unknown_iff i).1 same)

theorem ownItems_of_item? {i : Item} (h : t.item? mode = some i) (spelling : List Char) :
    (Piece.token t spelling).ownItems mode = [i] := by
  have alone := items_of_item? h spelling []
  rw [List.append_nil, items_nil] at alone
  exact alone

/-- A token that has a native layout is one specifier, and one with a meaning. -/
theorem exists_specifier (h : t ∈ Grammar.standard.tokens) (native : t.ordinal? = none)
    (mode : Mode) (spelling : List Char) :
    ∃ i, (Piece.token t spelling).ownItems mode = [i] ∧ i.isText = false ∧ i ≠ .unknown := by
  obtain ⟨i, item, other⟩ := Grammar.exists_item_of_mode h native mode
  exact ⟨i, ownItems_of_item? item spelling, other⟩

theorem native?_of_ordinal {kind : OrdinalKind} (h : t.ordinal? = some kind) (mode : Mode) :
    t.native? mode = none := by
  unfold Token.ordinal? at h
  unfold Token.native?
  split at h
  · next fragment => rw [fragment]
  · cases h

/-! ## Pieces in front of a layout -/

theorem merged_append (is js : List Item) : merged (is ++ js) = is.foldr Item.join (merged js) :=
  List.foldr_append

theorem merged_items_plainNative (c : Char) (rest : List Char) :
    merged (items ((plainNative c).toList ++ rest)) = (textItem c).join (merged (items rest)) := by
  rw [plainNative_toList]
  split
  · next percent =>
      subst percent
      exact merged_items_percent rest
  · next other => exact merged_items_char other rest

/-- In front of any layout a piece has the items that it has by itself. -/
theorem merged_items_native (h : ∀ t spelling, p = .token t spelling → t ∈ Grammar.standard.tokens)
    (mode : Mode) (rest : List Char) :
    merged (items ((p.native mode).toList ++ rest)) = merged (p.ownItems mode ++ items rest) := by
  rw [merged_append]
  cases p with
  | escaped escape c => exact merged_items_plainNative c rest
  | lastEscape escape => exact merged_items_plainNative escape rest
  | plain c => exact merged_items_plainNative c rest
  | token t spelling =>
      cases ordinal : t.ordinal? with
      | none =>
          obtain ⟨i, item, -⟩ := Grammar.exists_item_of_mode (h t spelling rfl) ordinal mode
          rw [items_of_item? item, ownItems_of_item? item, merged_cons]
          rfl
      | some kind =>
          have nothing := native?_of_ordinal ordinal mode
          rw [Piece.native, Piece.ownItems, nothing]
          show merged (items rest) = (items []).foldr Item.join (merged (items rest))
          rw [items_nil]
          rfl

/-- Up to merging, the items of a native layout are the items of the pieces that it is made of. -/
theorem merged_items_nativeOf (h : Known ps) (mode : Mode) :
    merged (items (nativeOf mode ps).toList) = merged (ps.flatMap (Piece.ownItems mode)) := by
  induction ps with
  | nil =>
      show merged (items []) = _
      rw [items_nil]
      rfl
  | cons p ps ih =>
      have first := h.of_mem (List.mem_cons_self ..)
      rw [nativeOf_toList_cons, merged_items_native first, merged_append, ih h.tail,
        List.flatMap_cons, merged_append]

/-- Which specifiers there are in a native layout can be seen from its pieces. -/
theorem any_items_nativeOf (h : Known ps) {kind : Item → Bool}
    (other : ∀ i, i.isText = true → kind i = false) (mode : Mode) :
    (items (nativeOf mode ps).toList).any kind = ps.any fun p => (p.ownItems mode).any kind := by
  rw [← any_merged other, merged_items_nativeOf h, any_merged other, List.any_flatMap]

/-! ## Kinds of items -/

variable {names : List String} {kind : Item → Bool}

/-- A token is of the kind that its name says, for reading too where the kind is one that does not
tell an item from its reader. -/
theorem any_ownItems (table : Table names kind)
    (reader : mode = .parsing → ∀ i, kind i.reader = kind i)
    (other : ∀ i, i.isText = true → kind i = false)
    (h : ∀ t spelling, p = .token t spelling → t ∈ Grammar.standard.tokens)
    (native : p.ordinal? = none) : (p.ownItems mode).any kind = p.isNamed names := by
  have text : ∀ c, [textItem c].any kind = false := by
    intro c
    rw [List.any_cons, other _ (isText_textItem c)]
    rfl
  cases p with
  | escaped escape c => exact text c
  | lastEscape escape => exact text escape
  | plain c => exact text c
  | token t spelling =>
      obtain ⟨i, written, read, listed⟩ := Grammar.exists_item (h t spelling rfl) native
      cases mode with
      | formatting =>
          rw [ownItems_of_item? written, List.any_cons, List.any_nil, Bool.or_false]
          exact table _ listed
      | parsing =>
          rw [ownItems_of_item? read, List.any_cons, List.any_nil, Bool.or_false, reader rfl]
          exact table _ listed

/-- The kinds of items in a native layout without ordinals are those of the tokens in it. -/
theorem any_items_eq_shows (mode : Mode) (table : Table names kind)
    (reader : mode = .parsing → ∀ i, kind i.reader = kind i)
    (other : ∀ i, i.isText = true → kind i = false) (known : Known ps)
    (native : ∀ p ∈ ps, p.ordinal? = none) :
    (items (nativeOf mode ps).toList).any kind = shows names ps := by
  rw [any_items_nativeOf known other, shows, Bool.eq_iff_iff, List.any_eq_true, List.any_eq_true]
  refine exists_congr fun p => and_congr_right fun mem => ?_
  rw [any_ownItems table reader other (known.of_mem mem) (native p mem)]

theorem unknown_not_mem_ownItems
    (h : ∀ t spelling, p = .token t spelling → t ∈ Grammar.standard.tokens) (mode : Mode) :
    .unknown ∉ p.ownItems mode := by
  have text : ∀ c, .unknown ∉ [textItem c] := by
    intro c mem
    have same := isText_textItem c
    rw [← List.mem_singleton.1 mem] at same
    cases same
  cases p with
  | escaped escape c => exact text c
  | lastEscape escape => exact text escape
  | plain c => exact text c
  | token t spelling =>
      cases ordinal : t.ordinal? with
      | none =>
          obtain ⟨i, own, -, known⟩ := exists_specifier (h t spelling rfl) ordinal mode spelling
          rw [own, List.mem_singleton]
          exact known.symm
      | some kind =>
          have nothing := native?_of_ordinal ordinal mode
          rw [Piece.ownItems, nothing]
          show Item.unknown ∉ items []
          rw [items_nil]
          exact nofun

/-- A native layout that is made of pieces can be understood all through. -/
theorem unknown_not_mem_items (h : Known ps) (mode : Mode) :
    .unknown ∉ items (nativeOf mode ps).toList := by
  intro mem
  have found : (items (nativeOf mode ps).toList).any (fun i => i = .unknown) = true :=
    List.any_eq_true.2 ⟨.unknown, mem, decide_eq_true rfl⟩
  rw [any_items_nativeOf h (ne_of_isText rfl), List.any_eq_true] at found
  obtain ⟨p, here, found⟩ := found
  obtain ⟨i, mine, unknown⟩ := List.any_eq_true.1 found
  obtain rfl := of_decide_eq_true unknown
  exact unknown_not_mem_ownItems (h.of_mem here) mode mine

end DateLayout
