import DateLayout.Proofs.Scan.Forms
import DateLayout.Session

/-!
# Faithful caches

A cache is faithful to a translator if every native form in it is the one that the translator's
grammar makes of the layout it is kept under, for the mode it is kept for. The invariant is about
one entry at a time, so it says nothing of which entries there are: a cache that is turned off is
as faithful as one that has been filled for a long time.

What makes the invariant useful is `Settles`. An operation settles on an outcome if it has this
outcome on every journal whose cache is faithful, and leaves such a journal behind. Settling goes
through the ways in which operations are put together, so it is enough to look at the one place
where the cache is asked, `settles_translate`; the other operations follow by the shape of their
definitions. The outcomes are written without any cache, which makes them the translator that a
caller of a faithful one sees.
-/

namespace DateLayout

open DateLayout.Calendar

/-- Every native form in the cache is the one that the grammar makes of its own key. -/
def Cache.Faithful (c : Cache) (t : Translator) : Prop :=
  ∀ layout mode form, c.get? layout mode = some form →
    t.grammar.translate layout mode = .ok form

variable {t : Translator} {c : Cache} {j : Journal}

theorem faithful_disabled (t : Translator) : Cache.disabled.Faithful t := by
  intro layout mode form h
  cases h

theorem faithful_enabled (t : Translator) : Cache.enabled.Faithful t := by
  intro layout mode form h
  rw [Cache.get?_enabled] at h
  cases h

/-- A form made by the grammar can be kept. Where the cache is turned off nothing is. -/
theorem faithful_insert (hc : c.Faithful t) {layout : String} {mode : Mode} {form : NativeForm}
    (h : t.grammar.translate layout mode = .ok form) :
    (c.insert layout mode form).Faithful t := by
  intro layout' mode' form' hget
  cases on : c.isEnabled with
  | true =>
      rw [Cache.get?_insert on] at hget
      split at hget
      · next same =>
          cases hget
          obtain ⟨rfl, rfl⟩ := Prod.mk.inj same
          exact h
      · exact hc layout' mode' form' hget
  | false =>
      rw [Cache.insert_of_disabled on] at hget
      exact hc layout' mode' form' hget

/-! ## Settling -/

/-- The operation has one and the same outcome on every journal whose cache is faithful, and keeps
the cache faithful, also when it fails. -/
def Operation.Settles {α : Type} (t : Translator) (op : Operation α)
    (outcome : Except LayoutError α) : Prop :=
  ∀ j : Journal, j.cache.Faithful t →
    (op.runOn j).1 = outcome ∧ (op.runOn j).2.cache.Faithful t

namespace Operation.Settles

variable {α β : Type} {op : Operation α} {outcome : Except LayoutError α}

theorem ofExcept (outcome : Except LayoutError α) :
    Settles t (Operation.ofExcept outcome) outcome :=
  fun _ hj => ⟨rfl, hj⟩

theorem pure (a : α) : Settles t (Pure.pure a) (.ok a) :=
  fun _ hj => ⟨rfl, hj⟩

theorem throw (e : LayoutError) : Settles t (MonadExcept.throw e : Operation α) (.error e) :=
  fun _ hj => ⟨rfl, hj⟩

/-- The second operation runs on the journal that the first one leaves, and that is all it can see
of the first one besides its result. -/
theorem bind {next : α → Operation β} {following : α → Except LayoutError β}
    (first : Settles t op outcome) (second : ∀ a, Settles t (next a) (following a)) :
    Settles t (op >>= next) (outcome >>= following) := by
  intro j hj
  obtain ⟨same, kept⟩ := first j hj
  rw [Operation.runOn_bind]
  rcases hrun : op.runOn j with ⟨result, j'⟩
  rw [hrun] at same kept
  subst same
  cases result with
  | ok a => exact second a j' kept
  | error e => exact ⟨rfl, kept⟩

theorem map (f : α → β) (h : Settles t op outcome) : Settles t (f <$> op) (outcome.map f) := by
  intro j hj
  obtain ⟨same, kept⟩ := h j hj
  rw [Operation.runOn_map]
  exact ⟨congrArg (Except.map f) same, kept⟩

end Operation.Settles

/-! ## The operations of a translator -/

namespace Translator

open Operation (Settles)

/-- The native form of a layout, made anew every time. -/
def formOf (t : Translator) (layout : String) (mode : Mode) : Except LayoutError NativeForm :=
  match WellKnown.find? layout t.tier with
  | some known => .ok (.literal known.native)
  | none => t.grammar.translate layout mode

/-- There is always a form for writing. -/
theorem exists_formOf_formatting (t : Translator) (layout : String) :
    ∃ form, t.formOf layout .formatting = .ok form := by
  rw [formOf]
  cases WellKnown.find? layout t.tier with
  | some known => exact ⟨_, rfl⟩
  | none => exact t.grammar.exists_translate_formatting layout

def nativeOf (t : Translator) (layout : String) : Except LayoutError String := do
  match ← t.formOf layout .parsing with
  | .literal native => .ok native
  | .segments _ => .error (t.ordinalError layout)

def formatted {α : Type} [Timestamp α] (t : Translator) (value : α) (layout : String) :
    Except LayoutError String := do
  let form ← t.formOf layout .formatting
  form.render value

def parsed (t : Translator) (layout text : String) : Except LayoutError Moment := do
  let native ← t.nativeOf layout
  (Reader.readMoment native text).mapError (.notReadable native text)

def parsedIn (t : Translator) (layout text : String) (zone : Zone) :
    Except LayoutError ZonedMoment := do
  let native ← t.nativeOf layout
  (Reader.readMomentIn native text zone).mapError (.notReadable native text)

def converted (t : Translator) (text source target : String) : Except LayoutError String :=
  if source = target then .ok text
  else do
    let form ← t.formOf source .formatting
    if form.hasOrdinals then .error (.ordinalsInSource source)
    else do
      let m ← t.parsed source text
      t.formatted m target

/-- The only place where the cache is asked. A kept form is the one that would be made, since the
cache is faithful, and a form that is made may be kept for the same reason. -/
theorem settles_translate (t : Translator) (layout : String) (mode : Mode) :
    Settles t (t.translate layout mode) (t.formOf layout mode) := by
  intro j hj
  rw [runOn_translate, formOf]
  cases WellKnown.find? layout t.tier with
  | some known => exact ⟨rfl, hj⟩
  | none =>
      simp only []
      cases hget : j.cache.get? layout mode with
      | some kept => exact ⟨(hj layout mode kept hget).symm, hj⟩
      | none =>
          simp only []
          cases hmade : t.grammar.translate layout mode with
          | ok form => exact ⟨rfl, faithful_insert hj hmade⟩
          | error e => exact ⟨rfl, hj⟩

theorem settles_nativeForParsing (t : Translator) (layout : String) :
    Settles t (t.nativeForParsing layout) (t.nativeOf layout) := by
  refine (settles_translate t layout .parsing).bind ?_
  intro form
  cases form with
  | literal native => exact .pure native
  | segments parts => exact .throw (t.ordinalError layout)

theorem settles_format {α : Type} [Timestamp α] (t : Translator) (value : α) (layout : String) :
    Settles t (t.format value layout) (t.formatted value layout) :=
  (settles_translate t layout .formatting).bind fun form => .ofExcept (form.render value)

theorem settles_parse (t : Translator) (layout text : String) :
    Settles t (t.parse layout text) (t.parsed layout text) :=
  (settles_nativeForParsing t layout).bind fun _ => .ofExcept _

theorem settles_parseIn (t : Translator) (layout text : String) (zone : Zone) :
    Settles t (t.parseIn layout text zone) (t.parsedIn layout text zone) :=
  (settles_nativeForParsing t layout).bind fun _ => .ofExcept _

theorem settles_convert (t : Translator) (text source target : String) :
    Settles t (t.convert text source target) (t.converted text source target) := by
  rw [convert, converted]
  split
  · exact .pure text
  · refine (settles_translate t source .formatting).bind ?_
    intro form
    split
    · exact .throw (.ordinalsInSource source)
    · exact (settles_parse t source text).bind fun m => settles_format t m target

end Translator

end DateLayout
