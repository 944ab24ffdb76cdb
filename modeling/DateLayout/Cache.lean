import Std.Data.HashMap
import DateLayout.NativeForm

/-!
# The cache of native forms

A cache keeps native forms by layout and mode, or is turned off and keeps nothing. Turning it on
or off, whatever it was before, forgets all it kept; nothing else removes a form. What can be
asked of a cache is a `Cache.Request`, which has an answer and leaves another cache behind.

The forms for writing and those for reading stand in a table each, since a layout can have a
different one in either mode. `Tables.get?_insert` and `Tables.size_insert` say that the two
tables are one table of pairs of a layout and a mode.
-/

namespace DateLayout

/-- Native forms by their layout, in one table for each mode. -/
structure Tables where
  formatting : Std.HashMap String NativeForm
  parsing : Std.HashMap String NativeForm

namespace Tables

def empty : Tables := ⟨∅, ∅⟩

def get? (kept : Tables) (layout : String) : Mode → Option NativeForm
  | .formatting => kept.formatting[layout]?
  | .parsing => kept.parsing[layout]?

def insert (kept : Tables) (layout : String) (mode : Mode) (form : NativeForm) : Tables :=
  match mode with
  | .formatting => { kept with formatting := kept.formatting.insert layout form }
  | .parsing => { kept with parsing := kept.parsing.insert layout form }

def size (kept : Tables) : Nat :=
  kept.formatting.size + kept.parsing.size

@[simp] theorem get?_empty (layout : String) (mode : Mode) : empty.get? layout mode = none := by
  cases mode <;> exact Std.HashMap.getElem?_empty

theorem get?_insert (kept : Tables) (layout layout' : String) (mode mode' : Mode)
    (form : NativeForm) :
    (kept.insert layout mode form).get? layout' mode' =
      if (layout, mode) = (layout', mode') then some form else kept.get? layout' mode' := by
  cases mode <;> cases mode' <;> simp [get?, insert, Std.HashMap.getElem?_insert]

@[simp] theorem size_empty : empty.size = 0 := by
  simp [size, empty]

/-- A form is one more if there was none in its place, and takes that place otherwise. -/
theorem size_insert (kept : Tables) (layout : String) (mode : Mode) (form : NativeForm) :
    (kept.insert layout mode form).size =
      if (kept.get? layout mode).isSome then kept.size else kept.size + 1 := by
  cases mode with
  | formatting =>
      by_cases held : layout ∈ kept.formatting
      · simp [size, insert, get?, Std.HashMap.size_insert, held]
      · simp [size, insert, get?, Std.HashMap.size_insert, held, Nat.add_right_comm]
  | parsing =>
      by_cases held : layout ∈ kept.parsing
      · simp [size, insert, get?, Std.HashMap.size_insert, held]
      · simp [size, insert, get?, Std.HashMap.size_insert, held, Nat.add_assoc]

end Tables

/-- The native forms kept; none at all if the cache is turned off. -/
structure Cache where
  tables : Option Tables

namespace Cache

def enabled : Cache := ⟨some .empty⟩

def disabled : Cache := ⟨none⟩

def isEnabled (c : Cache) : Bool :=
  c.tables.isSome

/-- The native form kept for a layout and a mode. -/
def get? (c : Cache) (layout : String) (mode : Mode) : Option NativeForm :=
  c.tables.bind fun kept => kept.get? layout mode

/-- Keeps a native form, in place of the one that was kept for the same layout and mode. -/
def insert (c : Cache) (layout : String) (mode : Mode) (form : NativeForm) : Cache :=
  ⟨c.tables.map fun kept => kept.insert layout mode form⟩

/-- The number of native forms kept, in both modes together. -/
def size (c : Cache) : Nat :=
  c.tables.elim 0 fun kept => kept.size

def isEmpty (c : Cache) : Bool :=
  c.size == 0

inductive Request where
  | enable
  | disable
  | isEnabled
  | size
  | isEmpty
  | get (layout : String) (mode : Mode)
  | insert (layout : String) (mode : Mode) (form : NativeForm)
deriving DecidableEq, Repr

inductive Reply where
  | done
  | truth (b : Bool)
  | count (n : Nat)
  | kept (form : Option NativeForm)
deriving DecidableEq, Repr

def answer (c : Cache) (r : Request) : Reply :=
  match r with
  | .isEnabled => .truth c.isEnabled
  | .size => .count c.size
  | .isEmpty => .truth c.isEmpty
  | .get layout mode => .kept (c.get? layout mode)
  | .enable | .disable | .insert .. => .done

def after (c : Cache) (r : Request) : Cache :=
  match r with
  | .enable => enabled
  | .disable => disabled
  | .insert layout mode form => c.insert layout mode form
  | .isEnabled | .size | .isEmpty | .get .. => c

@[simp] theorem get?_disabled (layout : String) (mode : Mode) :
    disabled.get? layout mode = none := rfl

@[simp] theorem get?_enabled (layout : String) (mode : Mode) :
    enabled.get? layout mode = none :=
  Tables.get?_empty layout mode

theorem get?_insert {c : Cache} (h : c.isEnabled = true) (layout layout' : String)
    (mode mode' : Mode) (form : NativeForm) :
    (c.insert layout mode form).get? layout' mode' =
      if (layout, mode) = (layout', mode') then some form else c.get? layout' mode' := by
  obtain ⟨_ | kept⟩ := c
  · simp [isEnabled] at h
  · exact kept.get?_insert layout layout' mode mode' form

theorem insert_of_disabled {c : Cache} (h : c.isEnabled = false) (layout : String) (mode : Mode)
    (form : NativeForm) : c.insert layout mode form = c := by
  obtain ⟨_ | kept⟩ := c
  · rfl
  · cases h

@[simp] theorem isEnabled_insert (c : Cache) (layout : String) (mode : Mode) (form : NativeForm) :
    (c.insert layout mode form).isEnabled = c.isEnabled :=
  Option.isSome_map ..

theorem get?_insert_of_ne (c : Cache) {layout layout' : String} {mode mode' : Mode}
    (other : (layout, mode) ≠ (layout', mode')) (form : NativeForm) :
    (c.insert layout mode form).get? layout' mode' = c.get? layout' mode' := by
  cases on : c.isEnabled with
  | true => rw [get?_insert on, if_neg other]
  | false => rw [insert_of_disabled on]

/-- Keeping the same form in two caches, both on or both off, leaves them alike where they are. -/
theorem get?_insert_congr {c c' : Cache} (enabled : c.isEnabled = c'.isEnabled) (layout : String)
    (mode : Mode) (form : NativeForm) {layout' : String} {mode' : Mode}
    (alike : c.get? layout' mode' = c'.get? layout' mode') :
    (c.insert layout mode form).get? layout' mode' =
      (c'.insert layout mode form).get? layout' mode' := by
  cases on : c.isEnabled with
  | true =>
      have on' : c'.isEnabled = true := by rw [← enabled, on]
      rw [get?_insert on, get?_insert on', alike]
  | false =>
      have off' : c'.isEnabled = false := by rw [← enabled, on]
      rw [insert_of_disabled on, insert_of_disabled off', alike]

theorem size_insert {c : Cache} (h : c.isEnabled = true) (layout : String) (mode : Mode)
    (form : NativeForm) :
    (c.insert layout mode form).size =
      if (c.get? layout mode).isSome then c.size else c.size + 1 := by
  obtain ⟨_ | kept⟩ := c
  · cases h
  · exact kept.size_insert layout mode form

@[simp] theorem size_enabled : enabled.size = 0 :=
  Tables.size_empty

@[simp] theorem size_disabled : disabled.size = 0 := rfl

end Cache

end DateLayout
