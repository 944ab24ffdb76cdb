/-!
# Decimal numerals

Writing a number with a sign and a least width, and taking a numeral off the front of a text.
`value_digits` says that a written number, filled up with zeros or not, has its own value.
-/

namespace DateLayout.Text

/-- What fills a numeral that is shorter than its width. -/
inductive Padding where
  | none
  | space
  | zero
deriving DecidableEq, Repr

def digits (n : Nat) : List Char := Nat.toDigits 10 n

/-- The number that decimal digits stand for. -/
def value (ds : List Char) : Nat := Nat.ofDigitChars 10 ds 0

/-- A sign and a number, filled up to `width` characters. Zeros go between the sign and the
digits, spaces before the sign. -/
def numeral (padding : Padding) (width : Nat) (sign : List Char) (n : Nat) : List Char :=
  match padding with
  | .none => sign ++ digits n
  | .space => (sign ++ digits n).leftpad width ' '
  | .zero => sign ++ (digits n).leftpad (width - sign.length) '0'

def twoDigits (n : Nat) : List Char := numeral .zero 2 [] n

/-- The digits at the front of a text, at most `limit` of them where there is a limit. -/
def leadingDigits (limit : Option Nat) (cs : List Char) : List Char :=
  match limit with
  | none => cs.takeWhile Char.isDigit
  | some most => (cs.take most).takeWhile Char.isDigit

theorem value_digits (n : Nat) : value (digits n) = n :=
  Nat.ofDigitChars_ten_toDigits

theorem value_replicate_zero_append (k : Nat) (ds : List Char) :
    value (List.replicate k '0' ++ ds) = value ds := by
  simp [value, Nat.ofDigitChars_append, Nat.ofDigitChars_replicate_zero]

theorem value_leftpad_digits (width n : Nat) : value ((digits n).leftpad width '0') = n := by
  rw [List.leftpad, value_replicate_zero_append, value_digits]

end DateLayout.Text
