/-!
# Why a text cannot be read

The causes that reading a text with a strftime layout can fail for.
-/

namespace DateLayout.Strftime

inductive Fault where
  /-- A number is too large or too small for its field, or the date does not exist. -/
  | outOfRange
  /-- Two parts of the text contradict each other, or the local time does not exist. -/
  | impossible
  | notEnough
  | invalid
  | tooShort
  | tooLong
  /-- The layout has an item that cannot be understood. -/
  | badFormat
deriving DecidableEq, Repr

def Fault.message : Fault → String
  | .outOfRange => "input is out of range"
  | .impossible => "no possible date and time matching input"
  | .notEnough => "input is not enough for unique date and time"
  | .invalid => "input contains invalid characters"
  | .tooShort => "premature end of input"
  | .tooLong => "trailing input"
  | .badFormat => "bad or unsupported format string"

/-- What succeeds in two steps has succeeded in each of them. -/
theorem exists_of_bind_ok {ε α β : Type} {first : Except ε α} {next : α → Except ε β} {b : β}
    (h : first >>= next = .ok b) : ∃ a, first = .ok a ∧ next a = .ok b := by
  cases first with
  | error e => cases h
  | ok a => exact ⟨a, rfl, h⟩

/-- What fails in two steps fails in one of them. -/
theorem error_of_bind {ε α β : Type} {first : Except ε α} {next : α → Except ε β} {e : ε}
    (h : first >>= next = .error e) :
    first = .error e ∨ ∃ a, first = .ok a ∧ next a = .error e := by
  cases first with
  | error e' =>
      cases h
      exact .inl rfl
  | ok a => exact .inr ⟨a, rfl, h⟩

/-- A result without its error says whether there is one. -/
theorem eq_ok_of_toOption {ε α : Type} {result : Except ε α} {a : α}
    (h : result.toOption = some a) : result = .ok a := by
  cases result with
  | error e => cases h
  | ok a' =>
      cases h
      rfl

end DateLayout.Strftime
