import Mathlib.Algebra.Group.Nat.Defs
import DateLayout.Strftime.Reading

/-!
# Numerals read back

A number that was written with no more digits than its width is read back, whatever comes after
it, as long as that is no digit: the reader takes as many digits as it may. Where the digits fill
the width anyway, what comes after them does not matter.

`readNumber_numeral` is the statement for numbers, `readNumber_of_length` the one for digits of
which there have to be so many.
-/

namespace DateLayout.Strftime

open DateLayout.Text

/-- A text that does not go on with a digit. -/
def NoDigitAhead (cs : List Char) : Prop :=
  ∀ c, cs.head? = some c → c.isDigit = false

variable {ds rest : List Char} {width n : Nat} {padding : Padding}

theorem noDigitAhead_nil : NoDigitAhead [] := by
  intro c h
  cases h

theorem noDigitAhead_cons {c : Char} (h : c.isDigit = false) : NoDigitAhead (c :: rest) := by
  intro d hd
  cases hd
  exact h

theorem isBlank_of_isDigit {c : Char} (h : c.isDigit = true) : isBlank c = false := by
  simp [Char.isDigit, UInt32.le_iff_toNat_le] at h
  simp [isBlank, inRanges, blankRanges]
  omega

theorem takeWhile_of_noDigitAhead (h : NoDigitAhead rest) : rest.takeWhile Char.isDigit = [] := by
  cases rest with
  | nil => rfl
  | cons c rest => rw [List.takeWhile_cons, h c rfl]; rfl

theorem noDigitAhead_take (h : NoDigitAhead rest) (k : Nat) : NoDigitAhead (rest.take k) := by
  intro c hc
  rw [List.head?_take] at hc
  split at hc
  · cases hc
  · exact h c hc

/-! ## Digits in front of a text -/

theorem leadingDigits_append (digits : ∀ c ∈ ds, c.isDigit = true) (fits : ds.length ≤ width)
    (stop : NoDigitAhead rest) : leadingDigits (some width) (ds ++ rest) = ds := by
  rw [leadingDigits, List.take_append, List.take_of_length_le fits,
    List.takeWhile_append_of_pos digits, takeWhile_of_noDigitAhead (noDigitAhead_take stop _),
    List.append_nil]

theorem leadingDigits_of_length (digits : ∀ c ∈ ds, c.isDigit = true) (full : ds.length = width)
    (rest : List Char) : leadingDigits (some width) (ds ++ rest) = ds := by
  subst full
  rw [leadingDigits, List.take_left]
  have all : (ds ++ []).takeWhile Char.isDigit = ds ++ List.takeWhile Char.isDigit [] :=
    List.takeWhile_append_of_pos digits
  rwa [List.append_nil, List.takeWhile_nil, List.append_nil] at all

/-- Digits in front of a text are read as a number if they are all that the reader takes. -/
theorem readNumber_of_leading {least : Nat} {most : Option Nat}
    (leading : leadingDigits most (ds ++ rest) = ds) (enough : least ≤ ds.length)
    (small : value ds ≤ largestNumber) :
    readNumber least most (ds ++ rest) = .ok (value ds, rest) := by
  have bytes := length_le_byteCount (ds ++ rest)
  rw [List.length_append] at bytes
  rw [readNumber, leading, if_neg (by omega), if_neg (by omega), if_neg (by omega), List.drop_left]

/-! ## Written numbers -/

theorem isDigit_of_mem_digits {c : Char} (h : c ∈ digits n) : c.isDigit = true :=
  Nat.isDigit_of_mem_toDigits (by decide) (by decide) h

theorem length_digits_pos (n : Nat) : 0 < (digits n).length :=
  Nat.length_toDigits_pos

theorem length_digits_le (pos : 0 < width) (h : n < 10 ^ width) : (digits n).length ≤ width :=
  (Nat.length_toDigits_le_iff (by decide) pos).2 h

theorem isDigit_of_mem_numeral (h : padding ≠ .space) {c : Char}
    (hc : c ∈ numeral padding width [] n) : c.isDigit = true := by
  cases padding with
  | space => exact absurd rfl h
  | none => exact isDigit_of_mem_digits hc
  | zero =>
      rw [numeral, List.nil_append, List.leftpad] at hc
      rcases List.mem_append.1 hc with hc | hc
      · obtain ⟨-, rfl⟩ := List.mem_replicate.1 hc
        decide
      · exact isDigit_of_mem_digits hc

theorem length_numeral_pos (padding : Padding) : 0 < (numeral padding width [] n).length := by
  have pos := length_digits_pos n
  cases padding with
  | none => exact pos
  | space | zero =>
      rw [numeral, List.nil_append, List.leftpad, List.length_append]
      omega

theorem length_numeral_zero (pos : 0 < width) (small : n < 10 ^ width) :
    (numeral .zero width [] n).length = width := by
  have le := length_digits_le pos small
  rw [numeral, List.nil_append, List.leftpad, List.length_append, List.length_replicate,
    List.length_nil, Nat.sub_zero]
  omega

theorem dropWhile_isBlank_of_digits (digits : ∀ c ∈ ds, c.isDigit = true) (pos : 0 < ds.length)
    (rest : List Char) : (ds ++ rest).dropWhile isBlank = ds ++ rest := by
  cases ds with
  | nil => exact absurd pos (Nat.lt_irrefl 0)
  | cons c ds =>
      rw [List.cons_append, List.dropWhile_cons,
        isBlank_of_isDigit (digits c (List.mem_cons_self ..))]
      rfl

/-- Whatever fills a number up, behind white space there are digits of it, not more than its
width. -/
theorem exists_digits_of_numeral (padding : Padding) (pos : 0 < width) (small : n < 10 ^ width) :
    ∃ ds, (∀ c ∈ ds, c.isDigit = true) ∧ 0 < ds.length ∧ ds.length ≤ width ∧ value ds = n ∧
      ∀ rest, (numeral padding width [] n ++ rest).dropWhile isBlank = ds ++ rest := by
  have plain : ∀ c ∈ digits n, c.isDigit = true := fun c hc => isDigit_of_mem_digits hc
  cases padding with
  | none =>
      exact ⟨digits n, plain, length_digits_pos n, length_digits_le pos small, value_digits n,
        dropWhile_isBlank_of_digits plain (length_digits_pos n)⟩
  | zero =>
      have full : (numeral .zero width [] n).length = width := length_numeral_zero pos small
      have zeros : ∀ c ∈ numeral .zero width [] n, c.isDigit = true :=
        fun c hc => isDigit_of_mem_numeral (by decide) hc
      exact ⟨numeral .zero width [] n, zeros, by omega, by omega, value_leftpad_digits width n,
        dropWhile_isBlank_of_digits zeros (by omega)⟩
  | space =>
      refine ⟨digits n, plain, length_digits_pos n, length_digits_le pos small, value_digits n,
        ?_⟩
      intro rest
      have spaces : ∀ c ∈ List.replicate (width - (digits n).length) ' ', isBlank c = true := by
        intro c hc
        obtain ⟨-, rfl⟩ := List.mem_replicate.1 hc
        decide
      rw [numeral, List.nil_append, List.leftpad, List.append_assoc,
        List.dropWhile_append_of_pos spaces]
      exact dropWhile_isBlank_of_digits plain (length_digits_pos n) rest

theorem readYear_of_digit {c : Char} {cs : List Char} (digit : c.isDigit = true)
    (h : readNumber 1 NumberField.year.width (c :: cs) = .ok (n, rest)) :
    readYear (c :: cs) = .ok (n, rest) := by
  rw [readYear.eq_def]
  split
  · next same =>
      obtain ⟨rfl, -⟩ := List.cons.inj same
      cases digit
  · next same =>
      obtain ⟨rfl, -⟩ := List.cons.inj same
      cases digit
  · rw [h]
    rfl

/-- Digits that a field has room for are read as its number if no digit follows. -/
theorem read_digits (field : NumberField) (sized : field.width = some width)
    (digits : ∀ c ∈ ds, c.isDigit = true) (many : 0 < ds.length) (fits : ds.length ≤ width)
    (bounded : value ds ≤ largestNumber) (stop : NoDigitAhead rest) :
    field.read (ds ++ rest) = .ok (.number field (value ds), rest) := by
  have number : readNumber 1 (some width) (ds ++ rest) = .ok (value ds, rest) :=
    readNumber_of_leading (leadingDigits_append digits fits stop) many bounded
  have stripped := dropWhile_isBlank_of_digits digits many rest
  cases ds with
  | nil => exact absurd many (Nat.lt_irrefl 0)
  | cons c ds =>
      have digit := digits c (List.mem_cons_self ..)
      unfold NumberField.read
      simp only []
      rw [stripped]
      cases field with
      | year | isoYear =>
          cases sized
          have year : readYear ((c :: ds) ++ rest) = .ok (value (c :: ds), rest) :=
            readYear_of_digit digit number
          rw [year]
          rfl
      | _ =>
          rw [sized, number]
          rfl

/-- A written number is read back, behind the white space in front of it, if no digit follows. -/
theorem read_numeral (field : NumberField) (padding : Padding) (sized : field.width = some width)
    (pos : 0 < width) (small : n < 10 ^ width) (bounded : n ≤ largestNumber)
    (stop : NoDigitAhead rest) :
    field.read (numeral padding width [] n ++ rest) = .ok (.number field n, rest) := by
  obtain ⟨ds, digits, many, fits, rfl, stripped⟩ := exists_digits_of_numeral padding pos small
  have again := dropWhile_isBlank_of_digits digits many rest
  have same :
      field.read (numeral padding width [] (value ds) ++ rest) = field.read (ds ++ rest) := by
    unfold NumberField.read
    simp only []
    rw [stripped, again]
  rw [same, read_digits field sized digits many fits bounded stop]

end DateLayout.Strftime
