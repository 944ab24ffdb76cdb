import DateLayout.Error
import DateLayout.NativeForm
import DateLayout.NativeForm.Timestamp

/-!
# Rendering

A native form is rendered by writing its native layouts and ordinals one after the other. The
first native layout that the value cannot be written with makes the whole fail. An empty one is
never put to the value.
-/

namespace DateLayout

open DateLayout.Text

/-- The English suffix of an ordinal number: `th`, but for 1st, 2nd and 3rd outside of the
teens. -/
def ordinalSuffix (n : Nat) : String :=
  if 11 ≤ n % 100 ∧ n % 100 ≤ 13 then "th"
  else
    match n % 10 with
    | 1 => "st"
    | 2 => "nd"
    | 3 => "rd"
    | _ => "th"

def ordinalText (n : Nat) : String :=
  String.ofList (digits n) ++ ordinalSuffix n

variable {α : Type} [Timestamp α]

def OrdinalKind.number (kind : OrdinalKind) (value : α) : Nat :=
  match kind with
  | .day => Timestamp.day value
  | .month => Timestamp.month value

def renderNative (native : String) (value : α) : Except LayoutError String :=
  if native = "" then .ok ""
  else
    let written := Timestamp.writeNative value native
    if written.complete then .ok written.text else .error (.notWritable native)

def Segment.render (s : Segment) (value : α) : Except LayoutError String :=
  match s with
  | .literal native => renderNative native value
  | .ordinal kind => .ok (ordinalText (kind.number value))

def renderSegments (ss : List Segment) (value : α) : Except LayoutError String :=
  match ss with
  | [] => .ok ""
  | s :: rest => do
      let first ← s.render value
      let others ← renderSegments rest value
      return first ++ others

def NativeForm.render (t : NativeForm) (value : α) : Except LayoutError String :=
  match t with
  | .literal native => renderNative native value
  | .segments parts => renderSegments parts value

end DateLayout
