/-!
# Times of day

A time of day down to the nanosecond. A leap second has no second of its own: it is the second
before it with a billion nanoseconds or more, so the nanoseconds stay below two billion.
-/

namespace DateLayout.Calendar

def nanosPerSecond : Nat := 1000000000

/-- The seconds in a day, leap seconds apart. -/
def secondsPerDay : Nat := 86400

structure TimeOfDay where
  hour : Nat
  minute : Nat
  second : Nat
  nanosecond : Nat
  hour_lt : hour < 24
  minute_lt : minute < 60
  second_lt : second < 60
  nanosecond_lt : nanosecond < 2 * nanosPerSecond
deriving DecidableEq, Repr

namespace TimeOfDay

def ofParts? (hour minute second nanosecond : Nat) : Option TimeOfDay :=
  if h : hour < 24 ∧ minute < 60 ∧ second < 60 ∧ nanosecond < 2 * nanosPerSecond then
    some ⟨hour, minute, second, nanosecond, h.1, h.2.1, h.2.2.1, h.2.2.2⟩
  else none

/-- The whole seconds since midnight. A leap second counts as the second before it. -/
def secondOfDay (t : TimeOfDay) : Nat :=
  t.hour * 3600 + t.minute * 60 + t.second

/-- The time `n` seconds after midnight that keeps the nanoseconds of `t`; whole days are
dropped. -/
def withSecondOfDay (t : TimeOfDay) (n : Nat) : TimeOfDay where
  hour := n / 3600 % 24
  minute := n / 60 % 60
  second := n % 60
  nanosecond := t.nanosecond
  hour_lt := Nat.mod_lt _ (by decide)
  minute_lt := Nat.mod_lt _ (by decide)
  second_lt := Nat.mod_lt _ (by decide)
  nanosecond_lt := t.nanosecond_lt

def midnight : TimeOfDay :=
  ⟨0, 0, 0, 0, by decide, by decide, by decide, by decide⟩

/-- The part of a second that has passed, leap seconds starting anew. -/
def fraction (t : TimeOfDay) : Nat :=
  t.nanosecond % nanosPerSecond

/-- The second as a clock shows it, 60 in a leap second that follows second 59. -/
def shownSecond (t : TimeOfDay) : Nat :=
  t.second + t.nanosecond / nanosPerSecond

/-- The hour on a dial of twelve hours, whose first hour is 12. -/
def dialHour (t : TimeOfDay) : Nat :=
  if t.hour % 12 = 0 then 12 else t.hour % 12

theorem eq_of_ofParts? {hour minute second nanosecond : Nat} {t : TimeOfDay}
    (h : ofParts? hour minute second nanosecond = some t) :
    t.hour = hour ∧ t.minute = minute ∧ t.second = second ∧ t.nanosecond = nanosecond := by
  unfold ofParts? at h
  split at h
  · cases h
    exact ⟨rfl, rfl, rfl, rfl⟩
  · cases h

theorem secondOfDay_lt (t : TimeOfDay) : t.secondOfDay < secondsPerDay := by
  have := t.hour_lt
  have := t.minute_lt
  have := t.second_lt
  simp only [secondOfDay, secondsPerDay]
  omega

theorem secondOfDay_withSecondOfDay {t : TimeOfDay} {n : Nat} (h : n < secondsPerDay) :
    (t.withSecondOfDay n).secondOfDay = n := by
  simp only [secondOfDay, withSecondOfDay, secondsPerDay] at *
  omega

theorem withSecondOfDay_secondOfDay (t : TimeOfDay) :
    t.withSecondOfDay t.secondOfDay = t := by
  obtain ⟨hour, minute, second, nanosecond, hour_lt, minute_lt, second_lt, -⟩ := t
  simp only [secondOfDay, withSecondOfDay, mk.injEq, and_true]
  omega

end TimeOfDay

end DateLayout.Calendar
