import DateLayout.Calendar.Zone
import DateLayout.Reader.Defaults
import DateLayout.Strftime.Reading
import DateLayout.Strftime.Resolution

/-!
# Reading moments

A text is read with a native layout, completed with defaults and resolved to a moment. An offset
in the text always counts. Without one the text is a time in UTC (`readMoment`), or the local
time of a zone (`readMomentIn`); where that zone has the local time twice, the earlier one is
meant.
-/

namespace DateLayout.Reader

open DateLayout.Calendar DateLayout.Strftime

/-- The fields of a text, with defaults for those that the layout leaves out. -/
def readFields (native text : String) : Except Fault Fields := do
  let f ← Strftime.read native text
  f.fillDefaults

/-- Reads a moment. A text without an offset is in UTC. -/
def readMoment (native text : String) : Except Fault Moment := do
  let f ← readFields native text
  f.resolveMoment (f.offset.getD 0)

/-- The moments with a local time in a zone, the first two at most. There are none if one of them
cannot be read. -/
def momentsAt (z : Zone) (l : LocalDateTime) : List ZonedMoment :=
  let moments := ((z.fitting l).take 2).map fun period => period.moment l
  if moments.all fun m => instantInRange m.instant then moments else []

/-- The offset of a zone at the timestamp among the fields, if there is one. -/
def offsetAtTimestamp (z : Zone) (f : Fields) : Except Fault Int :=
  match f.timestamp with
  | none => .ok 0
  | some timestamp =>
      if instantInRange timestamp then .ok (z.periodAt timestamp).offset.seconds
      else .error .outOfRange

/-- Reads fields once more that give a local time which the zone does not have. A timestamp can
settle them, if it is what filled in the date or time. -/
def resolveSkipped (z : Zone) (f : Fields) : Except Fault ZonedMoment := do
  let offset ← offsetAtTimestamp z f
  let l ← f.resolveLocal offset
  match momentsAt z l with
  | [] => .error .impossible
  | [m] => .ok m
  | _ => .error .notEnough

/-- The moment that fields without an offset give in a zone. -/
def resolveIn (z : Zone) (f : Fields) : Except Fault ZonedMoment := do
  let l ← f.resolveLocal 0
  match momentsAt z l with
  | m :: _ => .ok m
  | [] => resolveSkipped z f

/-- Reads a moment and shows it in a zone. A text without an offset is a local time there. -/
def readMomentIn (native text : String) (z : Zone) : Except Fault ZonedMoment := do
  let f ← readFields native text
  match f.offset with
  | some offset => do
      let m ← f.resolveMoment offset
      return m.inZone z
  | none => resolveIn z f

end DateLayout.Reader
