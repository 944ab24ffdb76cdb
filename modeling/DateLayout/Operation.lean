import DateLayout.Error
import DateLayout.Journal

/-!
# Operations on a journal

An operation gives a result or an error and leaves a journal behind in either case. `runOn` is
the view of an operation that statements use: what it does to one journal. There is an equation
for each way in which operations are put together.
-/

namespace DateLayout

/-- An operation that uses a journal and can fail. -/
abbrev Operation (α : Type) := ExceptT LayoutError (StateM Journal) α

namespace Operation

variable {α β : Type}

def runOn (op : Operation α) (j : Journal) : Except LayoutError α × Journal :=
  op.run.run j

/-- The operation with a given outcome, which leaves the journal alone. -/
def ofExcept (result : Except LayoutError α) : Operation α :=
  ExceptT.mk (pure result)

@[simp] theorem runOn_ofExcept (result : Except LayoutError α) (j : Journal) :
    (ofExcept result).runOn j = (result, j) := rfl

@[simp] theorem runOn_pure (a : α) (j : Journal) : runOn (pure a) j = (.ok a, j) := rfl

@[simp] theorem runOn_throw (e : LayoutError) (j : Journal) :
    runOn (throw e : Operation α) j = (.error e, j) := rfl

/-- An operation that depends on the outcome of another runs on the journal that this leaves
behind, if it does not fail. -/
theorem runOn_bind (op : Operation α) (next : α → Operation β) (j : Journal) :
    runOn (op >>= next) j =
      match op.runOn j with
      | (.ok a, j') => (next a).runOn j'
      | (.error e, j') => (.error e, j') := by
  show (match op.runOn j with | (a, j') => (ExceptT.bindCont next a).run j') = _
  rcases op.runOn j with ⟨_ | _, _⟩ <;> rfl

/-- Where only the outcome goes on, the journal is the one that the operation leaves. -/
theorem runOn_bind_ofExcept (op : Operation α) (next : α → Except LayoutError β) (j : Journal) :
    runOn (op >>= fun a => ofExcept (next a)) j =
      ((op.runOn j).1.bind next, (op.runOn j).2) := by
  rw [runOn_bind]
  rcases op.runOn j with ⟨_ | _, _⟩ <;> rfl

@[simp] theorem runOn_map (f : α → β) (op : Operation α) (j : Journal) :
    runOn (f <$> op) j = ((op.runOn j).1.map f, (op.runOn j).2) := by
  rw [map_eq_pure_bind, runOn_bind]
  rcases op.runOn j with ⟨_ | _, _⟩ <;> rfl

end Operation

def askCache (r : Cache.Request) : Operation Cache.Reply := do
  let j ← get
  set (j.after r)
  return j.cache.answer r

@[simp] theorem runOn_askCache (r : Cache.Request) (j : Journal) :
    (askCache r).runOn j = (.ok (j.cache.answer r), j.after r) := rfl

end DateLayout
