import DateLayout.Text.Decimal

/-!
# Offsets from UTC

An offset is a number of seconds east of Greenwich, less than a day in either direction.
-/

namespace DateLayout.Calendar

/-- A difference between local time and UTC, in seconds, positive to the east. -/
structure UtcOffset where
  seconds : Int
  lower : -86400 < seconds
  upper : seconds < 86400
deriving DecidableEq, Repr

namespace UtcOffset

/-- The offset of that many seconds, if it is less than a day. -/
def ofSeconds? (n : Int) : Option UtcOffset :=
  if h : -86400 < n ∧ n < 86400 then some ⟨n, h.1, h.2⟩ else none

def zero : UtcOffset := ⟨0, by decide, by decide⟩

/-- The sign of an offset; no offset counts as east. -/
def sign (o : UtcOffset) : Char :=
  if o.seconds < 0 then '-' else '+'

def magnitude (o : UtcOffset) : Nat :=
  o.seconds.natAbs

/-- The name of an offset: sign, hours and minutes, and seconds where they are not zero. -/
def name (o : UtcOffset) : List Char :=
  o.sign :: Text.twoDigits (o.magnitude / 3600) ++ ':' :: Text.twoDigits (o.magnitude / 60 % 60) ++
    if o.magnitude % 60 = 0 then [] else ':' :: Text.twoDigits (o.magnitude % 60)

theorem ofSeconds?_seconds (o : UtcOffset) : ofSeconds? o.seconds = some o := by
  simp [ofSeconds?, o.lower, o.upper]

theorem seconds_of_ofSeconds? {n : Int} {o : UtcOffset} (h : ofSeconds? n = some o) :
    o.seconds = n := by
  unfold ofSeconds? at h
  split at h
  · cases h
    rfl
  · cases h

end UtcOffset

end DateLayout.Calendar
