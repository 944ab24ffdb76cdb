import DateLayout.Proofs.Strftime.ReadBack

/-!
# Native layouts character by character

A native layout is cut into items by its runs of plain text and of white space, so an item can
depend on many characters. What a layout writes and reads does not: a character that stands for
itself writes itself and reads itself, and the rest of the layout does what it does alone. White
space is the exception, since a run of it reads any amount of white space; there the text must
not have more of it than the layout (`readItems_blank`).

A specifier ends where it ends whatever comes after it (`specifier_append`), unless it is one
that cannot be understood.
-/

namespace DateLayout.Strftime

open DateLayout.Text

variable {c : Char} {cs rest : List Char} {is : List Item} {i : Item} {f : Fields} {s : Stamp}

@[simp] theorem items_nil : items [] = [] := by
  rw [items]

theorem items_percent (cs : List Char) :
    items ('%' :: cs) = (specifier cs).1 ++ items (specifier cs).2 := by
  rw [items, if_pos rfl]

theorem items_blank (h : isBlank c = true) (rest : List Char) :
    items (c :: rest) =
      .blank (c :: rest.takeWhile isBlank) :: items (rest.dropWhile isBlank) := by
  have other : c ≠ '%' := by
    rintro rfl
    cases h
  rw [items, if_neg other, if_pos h]

theorem items_plain (h : isPlain c = true) (rest : List Char) :
    items (c :: rest) =
      .literal (c :: rest.takeWhile isPlain) :: items (rest.dropWhile isPlain) := by
  simp only [isPlain, Bool.and_eq_true, bne_iff_ne, ne_eq, Bool.not_eq_true'] at h
  rw [items, if_neg h.1, if_neg (by rw [h.2]; decide)]

/-- A letter that means something is a specifier by itself: no longer one begins with it. -/
theorem specifier_letter (h : letterItems c ≠ [.unknown]) (rest : List Char) :
    specifier (c :: rest) = (letterItems c, rest) := by
  generalize whole : c :: rest = cs
  unfold specifier
  split
  case h_15 =>
      obtain ⟨rfl, rfl⟩ := List.cons.inj whole
      rfl
  case h_16 => cases whole
  all_goals
    obtain ⟨rfl, -⟩ := List.cons.inj whole
    exact absurd rfl h

/-- A specifier that can be understood ends before whatever follows it. -/
theorem specifier_append (h : specifier cs = ([i], [])) (known : i ≠ .unknown)
    (rest : List Char) : specifier (cs ++ rest) = ([i], rest) := by
  have other : [i] ≠ [.unknown] := fun same => known (List.cons.inj same).1
  unfold specifier at h
  split at h
  case h_15 =>
      obtain ⟨letter, rfl⟩ := Prod.mk.inj h
      rw [← letter] at other ⊢
      exact specifier_letter other rest
  case h_16 => exact absurd (Prod.mk.inj h).1.symm other
  all_goals
    obtain ⟨same, rfl⟩ := Prod.mk.inj h
    rw [← same]
    rfl

theorem items_specifier (h : specifier cs = ([i], [])) (known : i ≠ .unknown)
    (rest : List Char) : items ('%' :: cs ++ rest) = i :: items rest := by
  rw [List.cons_append, items_percent, specifier_append h known]
  rfl

/-! ## What characters write -/

theorem writeItems_cons (written : i.write s = some cs) (is : List Item) :
    writeItems (i :: is) s = (writeItems is s).map (cs ++ ·) := by
  rw [writeItems, written]
  cases writeItems is s <;> rfl

/-- A run writes its first character and what is left of it. -/
theorem writeItems_run {run : Char → Bool} {item : List Char → Item}
    (text : ∀ cs, (item cs).write s = some cs)
    (cut : ∀ {c}, run c = true → ∀ rest,
      items (c :: rest) = item (c :: rest.takeWhile run) :: items (rest.dropWhile run))
    (h : run c = true) (rest : List Char) :
    writeItems (items (c :: rest)) s = (writeItems (items rest) s).map (c :: ·) := by
  rw [cut h, writeItems_cons (text _)]
  cases rest with
  | nil => rfl
  | cons d rest =>
      cases hd : run d with
      | true =>
          rw [cut hd, writeItems_cons (text _), List.takeWhile_cons, List.dropWhile_cons, hd,
            if_pos rfl, if_pos rfl, Option.map_map]
          rfl
      | false =>
          rw [List.takeWhile_cons, List.dropWhile_cons, hd, if_neg (by decide),
            if_neg (by decide)]
          rfl

theorem writeItems_percent (rest : List Char) :
    writeItems (items ('%' :: '%' :: rest)) s = (writeItems (items rest) s).map ('%' :: ·) := by
  have item : items ('%' :: '%' :: rest) = .literal ['%'] :: items rest := items_percent _
  rw [item, writeItems_cons rfl]
  rfl

theorem writeItems_char (h : c ≠ '%') (rest : List Char) :
    writeItems (items (c :: rest)) s = (writeItems (items rest) s).map (c :: ·) := by
  cases hc : isBlank c with
  | true => exact writeItems_run (fun _ => rfl) items_blank hc rest
  | false =>
      have plain : isPlain c = true := by
        rw [isPlain, hc, bne_iff_ne.2 h]
        rfl
      exact writeItems_run (fun _ => rfl) items_plain plain rest

/-! ## What characters read -/

theorem readItems_cons {entry : Entry} (h : i.read cs = .ok (entry, rest)) (is : List Item)
    (f : Fields) :
    readItems (i :: is) f cs = (do
      let f ← f.enter entry
      readItems is f rest) := by
  rw [readItems, h]
  rfl

theorem read_literal_cons (c : Char) (text cs : List Char) :
    Item.read (.literal (c :: text)) (c :: cs) = Item.read (.literal text) cs := by
  unfold Item.read
  simp only [byteCount_cons, List.isPrefixOf_cons_cons, BEq.rfl, Bool.true_and, List.length_cons,
    List.drop_succ_cons, Nat.add_lt_add_iff_left]

theorem readItems_literal_cons (text : List Char) (is : List Item) (f : Fields) (cs : List Char) :
    readItems (.literal (c :: text) :: is) f (c :: cs) =
      readItems (.literal text :: is) f cs := by
  rw [readItems, readItems, read_literal_cons]

theorem readItems_literal_nil (is : List Item) (f : Fields) (cs : List Char) :
    readItems (.literal [] :: is) f cs = readItems is f cs := by
  have read : Item.read (.literal []) cs = .ok (.nothing, cs) := by
    show (if byteCount cs < 0 then Except.error Fault.tooShort else _) = _
    rw [if_neg (Nat.not_lt_zero _)]
    rfl
  rw [readItems_cons read]
  rfl

theorem readItems_percent (rest : List Char) (f : Fields) (cs : List Char) :
    readItems (items ('%' :: '%' :: rest)) f ('%' :: cs) = readItems (items rest) f cs := by
  have item : items ('%' :: '%' :: rest) = .literal ['%'] :: items rest := items_percent _
  rw [item, readItems_literal_cons, readItems_literal_nil]

theorem readItems_plain (h : isPlain c = true) (rest : List Char) (f : Fields)
    (cs : List Char) : readItems (items (c :: rest)) f (c :: cs) = readItems (items rest) f cs := by
  rw [items_plain h, readItems_literal_cons]
  cases rest with
  | nil =>
      rw [List.takeWhile_nil, List.dropWhile_nil, readItems_literal_nil]
  | cons d rest =>
      cases hd : isPlain d with
      | true =>
          rw [items_plain hd, List.takeWhile_cons, List.dropWhile_cons, hd, if_pos rfl,
            if_pos rfl]
      | false =>
          rw [List.takeWhile_cons, List.dropWhile_cons, hd, if_neg (by decide),
            if_neg (by decide), readItems_literal_nil]

/-- White space reads white space. If the text has more of it, then so must the layout. -/
theorem readItems_blank (h : isBlank c = true) (f : Fields)
    (same : (∃ d back, rest = d :: back ∧ isBlank d = true) ∨ cs.dropWhile isBlank = cs) :
    readItems (items (c :: rest)) f (c :: cs) = readItems (items rest) f cs := by
  have here : (c :: cs).dropWhile isBlank = cs.dropWhile isBlank := by
    rw [List.dropWhile_cons, if_pos h]
  have run : readItems (items (c :: rest)) f (c :: cs) =
      readItems (items (rest.dropWhile isBlank)) f (cs.dropWhile isBlank) := by
    rw [items_blank h, ← here]
    rfl
  rw [run]
  cases rest with
  | nil =>
      rcases same with ⟨d, back, ⟨⟩, -⟩ | same
      rw [same, List.dropWhile_nil]
  | cons d rest =>
      cases hd : isBlank d with
      | true =>
          rw [items_blank hd, List.dropWhile_cons, if_pos hd]
          rfl
      | false =>
          rcases same with ⟨e, back, whole, he⟩ | same
          · obtain ⟨rfl, -⟩ := List.cons.inj whole
            rw [hd] at he
            cases he
          · rw [same, List.dropWhile_cons, hd, if_neg (by decide)]

end DateLayout.Strftime
