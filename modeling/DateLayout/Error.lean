import DateLayout.Strftime.Fault
import DateLayout.Text.Quoted

/-!
# Errors

What can go wrong with a layout, and how it is told. A position is counted in bytes.
-/

namespace DateLayout

open DateLayout.Text

/-- Why a layout could not be used. -/
inductive LayoutError where
  /-- A layout for reading has an ordinal token; the first one, as the grammar spells it. -/
  | ordinalNotReadable (token : String) (position : Nat)
  | notReadable (native text : String) (fault : Strftime.Fault)
  | ordinalsInSource (layout : String)
  /-- A value lacks something that its native layout shows. -/
  | notWritable (native : String)
deriving DecidableEq, Repr

namespace LayoutError

def cause? : LayoutError → Option Strftime.Fault
  | .notReadable _ _ fault => some fault
  | _ => none

def message : LayoutError → String
  | .ordinalNotReadable token position =>
      s!"ordinal token {quote token} at position {position} cannot be used for parsing"
  | .notReadable native text fault =>
      s!"could not parse {quote text} with layout {quote native}: {fault.message}"
  | .ordinalsInSource layout =>
      s!"layout {quote layout} contains ordinal tokens and cannot be converted from"
  | .notWritable native => s!"value cannot be rendered with native layout {quote native}"

end LayoutError

end DateLayout
