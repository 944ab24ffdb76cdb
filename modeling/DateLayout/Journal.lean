import DateLayout.Cache
import DateLayout.Text.Quoted

/-!
# The journal of a translator

A journal is a cache together with the log of what happened: every time the cache was turned on
or off, and every native form that was made rather than found.
-/

namespace DateLayout

open DateLayout.Text

inductive Event where
  | cacheEnabled
  | cacheDisabled
  | translated (layout : String) (form : NativeForm)
deriving DecidableEq, Repr

def OrdinalKind.name : OrdinalKind → String
  | .day => "Day"
  | .month => "Month"

def Segment.shown : Segment → String
  | .literal native => s!"Literal({quote native})"
  | .ordinal kind => s!"Ordinal({kind.name})"

def NativeForm.shown : NativeForm → String
  | .literal native => s!"Literal({quote native})"
  | .segments parts => "Segments([" ++ ", ".intercalate (parts.map Segment.shown) ++ "])"

/-- The line of an event in the log, with its level in front. -/
def Event.line : Event → String
  | .cacheEnabled => "DEBUG layout cache enabled"
  | .cacheDisabled => "DEBUG layout cache disabled"
  | .translated layout form => s!"TRACE translated layout {quote layout} to {form.shown}"

/-- A cache and the log so far, oldest event first. -/
structure Journal where
  cache : Cache
  log : List Event

namespace Journal

def start (cache : Cache) : Journal := ⟨cache, []⟩

/-- Notes a native form that was made, and keeps it for the next time. -/
def record (j : Journal) (layout : String) (mode : Mode) (form : NativeForm) : Journal :=
  ⟨j.cache.insert layout mode form, j.log ++ [.translated layout form]⟩

/-- The events of a request to the cache: turning it on or off is noted every time. -/
def eventsOf (r : Cache.Request) : List Event :=
  match r with
  | .enable => [.cacheEnabled]
  | .disable => [.cacheDisabled]
  | _ => []

def after (j : Journal) (r : Cache.Request) : Journal :=
  ⟨j.cache.after r, j.log ++ eventsOf r⟩

end Journal

end DateLayout
