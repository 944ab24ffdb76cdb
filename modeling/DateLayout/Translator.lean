import DateLayout.Grammar.Standard
import DateLayout.NativeForm.Rendering
import DateLayout.Operation
import DateLayout.Reader
import DateLayout.Scan
import DateLayout.WellKnown

/-!
# Translators

A translator formats, parses and converts with the layouts of a grammar. Well known layouts up to
its tier are used as they stand. Any other layout is translated to its native form when it is
needed first, and the form is kept in the cache. All operations act on a journal, also when they
fail; `runOn_translate` says where a native form comes from.
-/

namespace DateLayout

open DateLayout.Calendar

/-- A grammar and the tier of the well known layouts that count. -/
structure Translator where
  grammar : Grammar
  tier : Nat

namespace Translator

def standard : Translator := ⟨.standard, WellKnown.highestTier⟩

/-- Makes the native form of a layout and records it. A failure is not recorded. -/
def translateAnew (t : Translator) (layout : String) (mode : Mode) : Operation NativeForm := do
  let form ← Operation.ofExcept (t.grammar.translate layout mode)
  modify fun j => j.record layout mode form
  return form

def translate (t : Translator) (layout : String) (mode : Mode) : Operation NativeForm :=
  match WellKnown.find? layout t.tier with
  | some known => return .literal known.native
  | none => do
      let j ← get
      match j.cache.get? layout mode with
      | some kept => return kept
      | none => t.translateAnew layout mode

/-- Translating looks in three places: well known layouts, the cache, and the grammar. -/
theorem runOn_translate (t : Translator) (layout : String) (mode : Mode) (j : Journal) :
    (t.translate layout mode).runOn j =
      match WellKnown.find? layout t.tier with
      | some known => (.ok (.literal known.native), j)
      | none =>
          match j.cache.get? layout mode with
          | some kept => (.ok kept, j)
          | none =>
              match t.grammar.translate layout mode with
              | .ok form => (.ok form, j.record layout mode form)
              | .error e => (.error e, j) := by
  unfold translate
  cases WellKnown.find? layout t.tier with
  | some known => rfl
  | none =>
      show Operation.runOn (match j.cache.get? layout mode with | some _ => _ | none => _) j = _
      cases j.cache.get? layout mode with
      | some kept => rfl
      | none =>
          rw [translateAnew, Operation.runOn_bind, Operation.runOn_ofExcept]
          cases t.grammar.translate layout mode <;> rfl

/-- The error for a layout whose native form for reading has ordinals. Only a cache that others
wrote to can hold one; the grammar may still name the token. -/
def ordinalError (t : Translator) (layout : String) : LayoutError :=
  match t.grammar.translate layout .parsing with
  | .error e => e
  | .ok _ => .ordinalsInSource layout

def nativeForParsing (t : Translator) (layout : String) : Operation String := do
  match ← t.translate layout .parsing with
  | .literal native => return native
  | .segments _ => throw (t.ordinalError layout)

def format {α : Type} [Timestamp α] (t : Translator) (value : α) (layout : String) :
    Operation String := do
  let form ← t.translate layout .formatting
  Operation.ofExcept (form.render value)

/-- Reads a moment with a layout. A text without an offset is in UTC. -/
def parse (t : Translator) (layout text : String) : Operation Moment := do
  let native ← t.nativeForParsing layout
  Operation.ofExcept ((Reader.readMoment native text).mapError (.notReadable native text))

/-- Reads a moment with a layout and shows it in a zone. A text without an offset is a local time
there. -/
def parseIn (t : Translator) (layout text : String) (zone : Zone) : Operation ZonedMoment := do
  let native ← t.nativeForParsing layout
  Operation.ofExcept
    ((Reader.readMomentIn native text zone).mapError (.notReadable native text))

/-- Reads a text with one layout and writes it with another. Between equal layouts nothing is
read. -/
def convert (t : Translator) (text source target : String) : Operation String :=
  if source = target then return text
  else do
    let form ← t.translate source .formatting
    if form.hasOrdinals then throw (.ordinalsInSource source)
    else do
      let m ← t.parse source text
      t.format m target

end Translator

end DateLayout
