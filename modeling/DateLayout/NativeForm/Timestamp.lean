import DateLayout.Strftime.Writing

/-!
# Values that can be written

What rendering asks of a value: to write itself with a native layout, and its day and month for
ordinals. Moments, local times and dates do so with the strftime items; other types can bring
their own way.
-/

namespace DateLayout

open DateLayout.Calendar DateLayout.Strftime

/-- What came out of writing a value. Where writing fails, part of the text may be there. -/
structure Written where
  text : String
  complete : Bool
deriving DecidableEq, Repr

/-- The outcome of writing that gives the whole text or nothing. -/
def Written.ofOption (text : Option String) : Written :=
  match text with
  | some text => ⟨text, true⟩
  | none => ⟨"", false⟩

/-- A type of values that can be written with layouts. -/
class Timestamp (α : Type) where
  writeNative : α → String → Written
  day : α → Nat
  month : α → Nat

def Calendar.Date.stamp (d : Date) : Stamp :=
  ⟨d, none, none⟩

def Calendar.LocalDateTime.stamp (l : LocalDateTime) : Stamp :=
  ⟨l.date, some l.time, none⟩

/-- What a moment at an offset has to write. The name of the zone is that of the offset. -/
def Calendar.Moment.stamp (m : Moment) : Stamp :=
  ⟨m.localTime.date, some m.localTime.time, some ⟨m.offset, String.ofList m.offset.name⟩⟩

def Calendar.ZonedMoment.stamp (m : ZonedMoment) : Stamp :=
  ⟨m.localTime.date, some m.localTime.time, some ⟨m.offset, m.zoneName⟩⟩

instance : Timestamp Date where
  writeNative d native := .ofOption (Strftime.write native d.stamp)
  day d := d.day
  month d := d.month

instance : Timestamp LocalDateTime where
  writeNative l native := .ofOption (Strftime.write native l.stamp)
  day l := l.date.day
  month l := l.date.month

instance : Timestamp Moment where
  writeNative m native := .ofOption (Strftime.write native m.stamp)
  day m := m.localTime.date.day
  month m := m.localTime.date.month

instance : Timestamp ZonedMoment where
  writeNative m native := .ofOption (Strftime.write native m.stamp)
  day m := m.localTime.date.day
  month m := m.localTime.date.month

end DateLayout
