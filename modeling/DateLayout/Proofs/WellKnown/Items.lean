import DateLayout.Proofs.Strftime.Runs
import DateLayout.WellKnown

/-!
# The items of well known layouts

Cutting a layout into items goes on with what is left behind an item, which is a recursion that
does not unfold by itself. `itemsWithin` is the same with a bound on the number of items, and
unfolds: with a bound of the length of the layout it finds all items (`itemsWithin_eq`). Facts
about the well known layouts, which are a table, are decided with it.
-/

namespace DateLayout

open DateLayout.Strftime DateLayout.Text

namespace Strftime

/-- The items of a layout, if there are not more of them than the bound. -/
def itemsWithin (bound : Nat) (layout : List Char) : List Item :=
  match bound, layout with
  | _, [] => []
  | 0, _ :: _ => []
  | bound + 1, c :: rest =>
      if c = '%' then
        (specifier rest).1 ++ itemsWithin bound (specifier rest).2
      else if isBlank c then
        .blank (c :: rest.takeWhile isBlank) :: itemsWithin bound (rest.dropWhile isBlank)
      else
        .literal (c :: rest.takeWhile isPlain) :: itemsWithin bound (rest.dropWhile isPlain)

theorem itemsWithin_eq {bound : Nat} {layout : List Char} (h : layout.length ≤ bound) :
    itemsWithin bound layout = items layout := by
  induction bound generalizing layout with
  | zero =>
      obtain rfl : layout = [] := List.length_eq_zero_iff.1 (Nat.le_zero.1 h)
      rw [itemsWithin, items_nil]
  | succ bound ih =>
      cases layout with
      | nil => rw [itemsWithin, items_nil]
      | cons c rest =>
          have fits : rest.length ≤ bound := Nat.le_of_succ_le_succ h
          have behind := length_specifier_le rest
          have blanks := length_dropWhile_le isBlank rest
          have plains := length_dropWhile_le isPlain rest
          rw [itemsWithin, items, ih (by omega), ih (by omega), ih (by omega)]

end Strftime

namespace WellKnown

variable {layout : String} {tier : Nat} {known : WellKnown}

theorem mem_of_find? (h : find? layout tier = some known) : known ∈ all :=
  List.mem_of_find?_eq_some h

theorem head_native : ∀ known ∈ all, known.native.toList.head? = some '%' := by
  decide +kernel

/-- Well known layouts begin with a specifier. -/
theorem find?_eq_none_of_head (h : layout.toList.head? ≠ some '%') : find? layout tier = none := by
  cases found : find? layout tier with
  | none => rfl
  | some known =>
      have head := head_native known (mem_of_find? found)
      rw [native_of_find? found] at head
      exact absurd head h

/-- Every item of a well known layout has a meaning, and one for writing. -/
theorem writable_of_mem (h : known ∈ all) :
    ∀ i ∈ items known.native.toList, i ≠ .unknown ∧ i ≠ .offset .anyLength := by
  rw [← itemsWithin_eq (Nat.le_refl _)]
  revert known
  decide +kernel

end WellKnown

end DateLayout
