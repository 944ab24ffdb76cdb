import DateLayout.Proofs.Rendering.Segments

/-!
# Layouts mean what their pieces say

The native form of a layout of the standard language says what the layout says, piece by piece. In
each of its native layouts stand the items of the pieces between two ordinals and no others, and
what is written of a value is what the pieces stand for, one after the other (`MeansPieces`).

A translator comes to the form by way of its cache. As long as the cache holds only what the
translator itself has put there, this makes no difference.
-/

namespace DateLayout

open DateLayout.Strftime DateLayout.Text

variable {ps : List Piece}

theorem Known.group (h : Known ps) {group : List Piece} (mem : group ∈ groupsOf ps) :
    Known group := by
  intro t spelling here
  exact h t spelling (exists_mem_groupsOf_iff.1 ⟨group, mem, here⟩).1

theorem native_of_mem_groupsOf {group : List Piece} (mem : group ∈ groupsOf ps) :
    ∀ p ∈ group, p.ordinal? = none :=
  fun _ here => (exists_mem_groupsOf_iff.1 ⟨group, mem, here⟩).2

end DateLayout
