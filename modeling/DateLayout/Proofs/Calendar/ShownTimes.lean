import DateLayout.Calendar.Moment

/-!
# The time that a clock shows

A leap second is the second before it with a billion nanoseconds or more. A clock shows it as second
60, so it has to follow second 59. After any other second the clock is at the second behind it by
then, and that is what is written. So the time that a clock shows is the time itself, or the one
behind it that begins with the leap second.
-/

namespace DateLayout.Calendar

/-- The time as a clock shows it: only a leap second that follows second 59 is shown as one. -/
def TimeOfDay.asShown (t : TimeOfDay) : TimeOfDay :=
  if h : nanosPerSecond ≤ t.nanosecond ∧ t.second < 59 then
    { t with
      second := t.second + 1
      nanosecond := t.nanosecond - nanosPerSecond
      second_lt := by omega
      nanosecond_lt := by have := t.nanosecond_lt; omega }
  else t

/-- The moment with its time as a clock shows it. -/
def Moment.asShown (m : Moment) : Moment :=
  { m with localTime := { m.localTime with time := m.localTime.time.asShown } }

namespace TimeOfDay

/-- A clock shows every time but those of a leap second in the middle of a minute. -/
theorem asShown_eq_self_iff {t : TimeOfDay} :
    t.asShown = t ↔ (nanosPerSecond ≤ t.nanosecond → t.second = 59) := by
  have lt := t.second_lt
  rw [asShown]
  constructor
  · intro same leap
    split at same
    · have second : t.second + 1 = t.second := congrArg TimeOfDay.second same
      omega
    · omega
  · intro last
    refine dif_neg ?_
    rintro ⟨leap, early⟩
    have second := last leap
    omega

/-- A leap second that is shown follows second 59. -/
theorem second_of_leap_asShown (t : TimeOfDay) (leap : nanosPerSecond ≤ t.asShown.nanosecond) :
    t.asShown.second = 59 := by
  have lt := t.second_lt
  have nanos := t.nanosecond_lt
  rw [asShown] at leap ⊢
  split
  · next early =>
      rw [dif_pos early] at leap
      have less : nanosPerSecond ≤ t.nanosecond - nanosPerSecond := leap
      omega
  · next other =>
      rw [dif_neg other] at leap
      omega

@[simp] theorem hour_asShown (t : TimeOfDay) : t.asShown.hour = t.hour := by
  rw [asShown]
  split <;> rfl

@[simp] theorem minute_asShown (t : TimeOfDay) : t.asShown.minute = t.minute := by
  rw [asShown]
  split <;> rfl

@[simp] theorem shownSecond_asShown (t : TimeOfDay) : t.asShown.shownSecond = t.shownSecond := by
  have nanos := t.nanosecond_lt
  rw [asShown]
  unfold shownSecond nanosPerSecond at *
  split
  · show t.second + 1 + (t.nanosecond - 1000000000) / 1000000000 = _
    omega
  · rfl

theorem second_asShown (t : TimeOfDay) : t.asShown.second = min t.shownSecond 59 := by
  have lt := t.second_lt
  have nanos := t.nanosecond_lt
  rw [asShown, shownSecond]
  unfold nanosPerSecond at *
  split
  · show t.second + 1 = _
    omega
  · omega

theorem leap_asShown (t : TimeOfDay) :
    t.asShown.nanosecond / nanosPerSecond * nanosPerSecond =
      if t.shownSecond = 60 then nanosPerSecond else 0 := by
  have lt := t.second_lt
  have nanos := t.nanosecond_lt
  rw [asShown, shownSecond]
  unfold nanosPerSecond at *
  split
  · show (t.nanosecond - 1000000000) / 1000000000 * 1000000000 = _
    split <;> omega
  · split <;> omega

@[simp] theorem fraction_asShown (t : TimeOfDay) : t.asShown.fraction = t.fraction := by
  unfold asShown fraction
  unfold nanosPerSecond
  split
  · show (t.nanosecond - 1000000000) % 1000000000 = _
    omega
  · rfl

end TimeOfDay

theorem Moment.asShown_eq_self {m : Moment}
    (h : nanosPerSecond ≤ m.localTime.time.nanosecond → m.localTime.time.second = 59) :
    m.asShown = m := by
  rw [Moment.asShown, TimeOfDay.asShown_eq_self_iff.2 h]

end DateLayout.Calendar
