import DateLayout.Grammar.Token

/-!
# Native forms

A layout is translated to its native form before it is used. The form of most layouts is one
native layout. No native layout has ordinals: the form of a layout with ordinals is a list of
native layouts with the ordinals between them, and there is one for writing only.
-/

namespace DateLayout

inductive Segment where
  | literal (native : String)
  | ordinal (kind : OrdinalKind)
deriving DecidableEq, Repr

/-- What a layout is translated to. -/
inductive NativeForm where
  | literal (native : String)
  /-- Native layouts and ordinals, which alternate when they come from a layout. -/
  | segments (parts : List Segment)
deriving DecidableEq, Repr

namespace NativeForm

def asLiteral? : NativeForm → Option String
  | .literal native => some native
  | .segments _ => none

def hasOrdinals : NativeForm → Bool
  | .literal _ => false
  | .segments _ => true

end NativeForm

/-- The native layout of a character that stands for itself: a percent sign is doubled. -/
def plainNative (c : Char) : String :=
  if c = '%' then "%%" else String.singleton c

/-- A native form in the making: the native layout since the last ordinal, and what comes before
it once there is an ordinal. -/
structure Draft where
  current : String
  segments : Option (List Segment)

namespace Draft

def empty : Draft := ⟨"", none⟩

def addNative (d : Draft) (layout : String) : Draft :=
  { d with current := d.current ++ layout }

def addPlain (d : Draft) (c : Char) : Draft :=
  d.addNative (plainNative c)

/-- Adds an ordinal, which ends the native layout before it. -/
def addOrdinal (d : Draft) (kind : OrdinalKind) : Draft :=
  ⟨"", some (d.segments.getD [] ++ [.literal d.current, .ordinal kind])⟩

/-- The native form that was made. With an ordinal in it, it ends with a native layout. -/
def finish (d : Draft) : NativeForm :=
  match d.segments with
  | none => .literal d.current
  | some parts => .segments (parts ++ [.literal d.current])

end Draft

end DateLayout
