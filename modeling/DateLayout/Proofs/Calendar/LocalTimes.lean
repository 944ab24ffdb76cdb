import DateLayout.Calendar.Zone
import DateLayout.Proofs.Calendar.YearDay

/-!
# Which moment a local time is

A zone shows a local time at the instants that are, by the offset in force, so many seconds before
it. Each period has at most one such instant, and as the number of transitions that have happened
never falls, an instant in an earlier period is an earlier instant. So the first of the periods
that a local time fits holds the earliest of all instants with it (`Zone.head_fitting`), however
many periods fit and however close together their transitions are; and a local time that fits no
period is never shown (`Zone.fitting_eq_nil_iff`).

Local times are counted in seconds here. That nothing is lost by this is `eq_of_seconds_eq`: the
count and the nanoseconds determine a local time.
-/

namespace DateLayout.Calendar

/-! ## Local times by their count -/

theorem daysBeforeYear_le {year later : Int} (h : year ≤ later) :
    daysBeforeYear year ≤ daysBeforeYear later := by
  unfold daysBeforeYear
  omega

theorem Date.dayNumber_lt_of_year_lt {d e : Date} (h : d.year < e.year) :
    d.dayNumber < e.dayNumber := by
  have ends := daysBeforeYear_le (Int.add_one_le_iff.2 h)
  rw [daysBeforeYear_succ] at ends
  have le := d.dayOfYear_le
  have pos := e.dayOfYear_pos
  rw [dayNumber, dayNumber]
  omega

theorem Date.eq_of_dayNumber_eq {d e : Date} (h : d.dayNumber = e.dayNumber) : d = e := by
  have year : d.year = e.year := by
    rcases Int.lt_trichotomy d.year e.year with lt | same | lt
    · exact absurd h (Int.ne_of_lt (dayNumber_lt_of_year_lt lt))
    · exact same
    · exact absurd h.symm (Int.ne_of_lt (dayNumber_lt_of_year_lt lt))
  rw [dayNumber, dayNumber, year] at h
  exact eq_of_dayOfYear_eq year (by omega)

theorem TimeOfDay.eq_of_secondOfDay_eq {t u : TimeOfDay} (second : t.secondOfDay = u.secondOfDay)
    (nanosecond : t.nanosecond = u.nanosecond) : t = u := by
  rw [← t.withSecondOfDay_secondOfDay, ← u.withSecondOfDay_secondOfDay, second]
  simp only [withSecondOfDay, nanosecond]

theorem LocalDateTime.eq_of_seconds_eq {l k : LocalDateTime} (seconds : l.seconds = k.seconds)
    (nanosecond : l.time.nanosecond = k.time.nanosecond) : l = k := by
  have lt : l.time.secondOfDay < 86400 := l.time.secondOfDay_lt
  have lt' : k.time.secondOfDay < 86400 := k.time.secondOfDay_lt
  rw [LocalDateTime.seconds, LocalDateTime.seconds] at seconds
  have date : l.date = k.date := Date.eq_of_dayNumber_eq (by omega)
  have time : l.time = k.time := TimeOfDay.eq_of_secondOfDay_eq (by omega) nanosecond
  rw [LocalDateTime.mk.injEq]
  exact ⟨date, time⟩

theorem LocalDateTime.addSeconds_zero (l : LocalDateTime) : l.addSeconds 0 = l := by
  refine eq_of_seconds_eq ?_ rfl
  rw [seconds_addSeconds, Int.add_zero]

namespace Zone

variable {z : Zone} {l : LocalDateTime} {p : Period} {rest : List Period} {instant : Int}

/-! ## Instants with a local time -/

/-- The clocks of a zone show a local time, counted in seconds, at an instant. -/
def Shows (z : Zone) (l : LocalDateTime) (instant : Int) : Prop :=
  instant + (z.periodAt instant).offset.seconds = l.seconds

/-- A period and its place fit a local time: it is in force at the instant that the local time is
under its own offset. -/
def Fits (z : Zone) (l : LocalDateTime) (place : Period × Nat) : Bool :=
  z.indexAt (l.seconds - place.1.offset.seconds) == place.2

theorem fitting_eq (z : Zone) (l : LocalDateTime) :
    z.fitting l = (z.periods.zipIdx.filter (z.Fits l)).map Prod.fst := rfl

theorem indexAt_mono (z : Zone) {instant later : Int} (h : instant ≤ later) :
    z.indexAt instant ≤ z.indexAt later := by
  refine List.countP_mono_left fun t _ happened => ?_
  rw [decide_eq_true_eq] at happened ⊢
  exact Int.le_trans happened h

theorem getElem?_indexAt (z : Zone) (instant : Int) :
    z.periods[z.indexAt instant]? = some (z.periodAt instant) :=
  List.getElem?_eq_getElem (z.indexAt_lt instant)

theorem Shows.eq_sub (h : z.Shows l instant) :
    l.seconds - (z.periodAt instant).offset.seconds = instant := by
  rw [Shows] at h
  omega

/-- The period in force where a local time is shown fits it. -/
theorem Shows.fits (h : z.Shows l instant) :
    z.Fits l (z.periodAt instant, z.indexAt instant) = true := by
  rw [Fits, h.eq_sub]
  exact beq_self_eq_true _

theorem mem_zipIdx_periods (z : Zone) (instant : Int) :
    (z.periodAt instant, z.indexAt instant) ∈ z.periods.zipIdx :=
  List.mk_mem_zipIdx_iff_getElem?.2 (z.getElem?_indexAt instant)

theorem periodAt_of_fits {i : Nat} (place : z.periods[i]? = some p)
    (fits : z.Fits l (p, i) = true) : z.periodAt (l.seconds - p.offset.seconds) = p := by
  have found := z.getElem?_indexAt (l.seconds - p.offset.seconds)
  rw [eq_of_beq fits, place] at found
  exact (Option.some.inj found).symm

/-- A local time that fits no period is one that the zone never shows. -/
theorem fitting_eq_nil_iff : z.fitting l = [] ↔ ∀ instant, ¬ z.Shows l instant := by
  rw [fitting_eq, List.map_eq_nil_iff, List.filter_eq_nil_iff]
  constructor
  · intro none instant shown
    exact none _ (z.mem_zipIdx_periods instant) shown.fits
  · rintro never ⟨p, i⟩ mem fits
    have force := periodAt_of_fits (List.mk_mem_zipIdx_iff_getElem?.1 mem) fits
    refine never (l.seconds - p.offset.seconds) ?_
    rw [Shows, force]
    omega

/-- The first period that fits holds the earliest instant at which a local time is shown. -/
theorem head_fitting (h : z.fitting l = p :: rest) :
    z.periodAt (l.seconds - p.offset.seconds) = p ∧
      ∀ instant, z.Shows l instant → l.seconds - p.offset.seconds ≤ instant := by
  have first : (z.fitting l).head? = some p := by rw [h]; rfl
  rw [fitting_eq, List.head?_map, List.head?_filter, Option.map_eq_some_iff] at first
  obtain ⟨⟨first, i⟩, found, same⟩ := first
  obtain rfl : first = p := same
  obtain ⟨fits, k, bound, place, before⟩ := List.find?_eq_some_iff_getElem.1 found
  rw [List.getElem_zipIdx, Prod.mk.injEq, Nat.zero_add] at place
  obtain ⟨place, rfl⟩ := place
  have force := periodAt_of_fits (List.getElem?_eq_some_iff.2 ⟨_, place⟩) fits
  refine ⟨force, fun instant shown => Int.not_lt.1 fun early => ?_⟩
  have le := z.indexAt_mono (Int.le_of_lt early)
  rw [eq_of_beq fits] at le
  rcases Nat.lt_or_eq_of_le le with lt | same
  · -- An earlier place that fits would have been found first.
    have refused := before _ lt
    rw [List.getElem_zipIdx, Nat.zero_add] at refused
    have here := z.getElem?_indexAt instant
    rw [List.getElem?_eq_getElem (z.indexAt_lt instant)] at here
    rw [Option.some.inj here, shown.fits] at refused
    cases refused
  · -- In one period there is one instant only.
    have here := z.getElem?_indexAt instant
    rw [same, List.getElem?_eq_some_iff.2 ⟨_, place⟩] at here
    have eq := shown.eq_sub
    rw [← Option.some.inj here] at eq
    exact Int.ne_of_lt early eq.symm

end Zone

/-! ## Moments with a local time -/

variable {m : Moment} {z : Zone} {l : LocalDateTime} {p : Period} {rest : List Period}

theorem Moment.localTime_inZone_iff :
    (m.inZone z).localTime = l ↔
      m.localTime.time.nanosecond = l.time.nanosecond ∧ z.Shows l m.instant := by
  have seconds : (m.inZone z).localTime.seconds =
      m.instant + (z.periodAt m.instant).offset.seconds := by
    show (m.localTime.addSeconds _).seconds = _
    rw [LocalDateTime.seconds_addSeconds, Moment.instant]
    omega
  constructor
  · rintro rfl
    exact ⟨rfl, seconds.symm⟩
  · rintro ⟨nanosecond, shown⟩
    exact LocalDateTime.eq_of_seconds_eq (seconds.trans shown) nanosecond

/-- What a zone shows where one of its periods has a local time is the moment of that period. -/
theorem Period.inZone_moment (force : z.periodAt (l.seconds - p.offset.seconds) = p) :
    (p.moment l).toMoment.inZone z = p.moment l := by
  have zone : z.periodAt (p.moment l).instant = p := force
  simp only [Moment.inZone, zone, Moment.withOffset]
  simp only [moment, Int.sub_self, LocalDateTime.addSeconds_zero]

namespace Zone

/-- The earliest moment at which a zone shows a local time, with the offset and the name of the
period in force then. -/
structure Earliest (z : Zone) (l : LocalDateTime) (r : ZonedMoment) : Prop where
  localTime : r.localTime = l
  shown : r.toMoment.inZone z = r
  least : ∀ m : Moment, (m.inZone z).localTime = l → r.instant ≤ m.instant

theorem earliest_of_fitting (h : z.fitting l = p :: rest) : z.Earliest l (p.moment l) := by
  obtain ⟨force, least⟩ := head_fitting h
  refine ⟨rfl, Period.inZone_moment force, fun m same => ?_⟩
  exact least m.instant (Moment.localTime_inZone_iff.1 same).2

/-- The local times that fit no period are those that no moment has. -/
theorem fitting_eq_nil_iff_forall_ne :
    z.fitting l = [] ↔ ∀ m : Moment, (m.inZone z).localTime ≠ l := by
  rw [fitting_eq_nil_iff]
  constructor
  · intro never m same
    exact never m.instant (Moment.localTime_inZone_iff.1 same).2
  · intro never instant shown
    -- The local time itself, under the offset in force at the instant, is such a moment.
    refine never ⟨l, (z.periodAt instant).offset⟩ (Moment.localTime_inZone_iff.2 ⟨rfl, ?_⟩)
    have instant_eq : (Moment.mk l (z.periodAt instant).offset).instant = instant := shown.eq_sub
    rw [instant_eq]
    exact shown

/-- Each period that fits has a moment of its own, which the zone shows as the local time. -/
theorem localTime_of_mem_fitting (h : p ∈ z.fitting l) :
    ((p.moment l).toMoment.inZone z).localTime = l := by
  rw [fitting_eq, List.mem_map] at h
  obtain ⟨⟨p, i⟩, mem, rfl⟩ := h
  obtain ⟨place, fits⟩ := List.mem_filter.1 mem
  rw [Period.inZone_moment (periodAt_of_fits (List.mk_mem_zipIdx_iff_getElem?.1 place) fits)]
  rfl

end Zone

end DateLayout.Calendar
