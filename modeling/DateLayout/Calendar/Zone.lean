import DateLayout.Calendar.Moment

/-!
# Time zones

A zone is a table: the period before the first transition, and for each transition its instant
and the period that it starts. A local time can fit several periods, where clocks were turned
back, or none, where they were turned forward.
-/

namespace DateLayout.Calendar

/-- A stretch of time in which a zone keeps one offset and one name. -/
structure Period where
  offset : UtcOffset
  name : String
deriving DecidableEq, Repr

structure Transition where
  instant : Int
  period : Period
deriving DecidableEq, Repr

/-- A time zone as a table of periods. -/
structure Zone where
  initial : Period
  transitions : List Transition
  sorted : transitions.Pairwise fun a b => a.instant ≤ b.instant

namespace Zone

def constant (period : Period) : Zone :=
  ⟨period, [], .nil⟩

def utc : Zone :=
  constant ⟨.zero, "UTC"⟩

/-- The zone that keeps one offset, named after it. -/
def fixed (offset : UtcOffset) : Zone :=
  constant ⟨offset, String.ofList offset.name⟩

/-- The periods of a zone, the initial one first. -/
def periods (z : Zone) : List Period :=
  z.initial :: z.transitions.map Transition.period

/-- The number of transitions that have happened at an instant, which is the place of the period
in force in `periods`. A period is in force from the very second of its transition. -/
def indexAt (z : Zone) (instant : Int) : Nat :=
  z.transitions.countP fun t => t.instant ≤ instant

theorem indexAt_lt (z : Zone) (instant : Int) : z.indexAt instant < z.periods.length := by
  simpa [indexAt, periods, Nat.lt_succ_iff] using List.countP_le_length

def periodAt (z : Zone) (instant : Int) : Period :=
  z.periods.get ⟨z.indexAt instant, z.indexAt_lt instant⟩

/-- The periods that a local time fits, the earliest first: those in force at the instant that
the local time is under their own offset. -/
def fitting (z : Zone) (l : LocalDateTime) : List Period :=
  (z.periods.zipIdx.filter fun (p, i) => z.indexAt (l.seconds - p.offset.seconds) == i).map
    Prod.fst

end Zone

/-- A moment as a zone shows it. -/
structure ZonedMoment extends Moment where
  zoneName : String
deriving DecidableEq, Repr

def Period.moment (p : Period) (l : LocalDateTime) : ZonedMoment :=
  ⟨⟨l, p.offset⟩, p.name⟩

/-- A moment as the clocks of a zone show it. -/
def Moment.inZone (m : Moment) (z : Zone) : ZonedMoment :=
  let period := z.periodAt m.instant
  ⟨m.withOffset period.offset, period.name⟩

end DateLayout.Calendar
