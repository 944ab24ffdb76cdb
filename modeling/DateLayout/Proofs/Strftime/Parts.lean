import DateLayout.NativeForm.Timestamp
import DateLayout.Proofs.Calendar.YearDay
import DateLayout.Proofs.Strftime.Numerals

/-!
# The parts of a text read back

What writes a name, a half of the day, a fraction or an offset, and the reader that takes it off
the front of a text again. Names are known by three letters, which no two of them share
(`Distinct`), so nothing that follows can make a reader take another name. A fraction is read to
as many digits as it was written with (`cutFraction`). An offset is read back if the form that it
was written in has room for it: whole minutes, or whole hours where the minutes are left out.
-/

namespace DateLayout.Strftime

open DateLayout.Calendar DateLayout.Text

variable {rest : List Char}

/-! ## Names -/

/-- The first three letters of a name, in lower case. -/
def nameKey (name : List Char) : List Char :=
  (name.take 3).map Char.toLower

/-- The names are told apart by their first three letters. -/
def Distinct (names : List (List Char)) : Prop :=
  (∀ name ∈ names, 3 ≤ name.length) ∧ (names.map nameKey).Nodup

instance (names : List (List Char)) : Decidable (Distinct names) :=
  inferInstanceAs (Decidable (_ ∧ _))

theorem distinct_monthNames : Distinct monthNames := by decide

theorem distinct_weekdayNames : Distinct weekdayNames := by decide

theorem startsWith_append (text rest : List Char) : startsWith (text ++ rest) text = true := by
  rw [startsWith_iff, List.take_left, List.length_append]
  exact ⟨Nat.le_add_right _ _, rfl⟩

/-- Of distinct names, a text that begins with one begins with the letters of no other. -/
theorem findIdx?_of_distinct {names : List (List Char)} (distinct : Distinct names) {i : Nat}
    {name : List Char} (h : names[i]? = some name) (rest : List Char) :
    names.findIdx? (fun other => startsWith (name.take 3 ++ rest) (other.take 3)) = some i := by
  obtain ⟨long, nodup⟩ := distinct
  obtain ⟨lt, rfl⟩ := List.getElem?_eq_some_iff.1 h
  rw [List.findIdx?_eq_some_iff_getElem]
  refine ⟨lt, startsWith_append _ _, ?_⟩
  intro j hj hit
  have hjl : j < names.length := by omega
  rw [startsWith_iff] at hit
  have this := long _ (List.getElem_mem lt)
  have other := long _ (List.getElem_mem hjl)
  have same : nameKey names[i] = nameKey names[j] := by
    have letters := hit.2
    rw [List.length_take, Nat.min_eq_left other, List.take_append_of_le_length (by simp; omega),
      List.take_take, Nat.min_self] at letters
    exact letters
  have key := (List.nodup_iff_pairwise_ne.1 nodup)
  rw [List.pairwise_iff_getElem] at key
  have apart := key j i (by simpa using hjl) (by simpa using lt) hj
  simp only [List.getElem_map] at apart
  exact apart same.symm

theorem readName_apply {names : List (List Char)} (distinct : Distinct names) (form : NameForm)
    {i : Nat} {name : List Char} (h : names[i]? = some name) (rest : List Char) :
    readName form names (form.apply name ++ rest) = .ok (i, rest) := by
  have long : 3 ≤ name.length := distinct.1 name (List.mem_of_getElem? h)
  have key : (name.take 3).length = 3 := by
    rw [List.length_take]
    omega
  have whole : form.apply name = name.take 3 ++ (form.apply name).drop 3 := by
    cases form with
    | short => rw [NameForm.apply, List.drop_of_length_le (by omega), List.append_nil]
    | long => exact (List.take_append_drop 3 name).symm
  have bytes := length_le_byteCount (name.take 3 ++ ((form.apply name).drop 3 ++ rest))
  rw [List.length_append, key] at bytes
  have behind : (name.take 3 ++ ((form.apply name).drop 3 ++ rest)).drop 3 =
      (form.apply name).drop 3 ++ rest := by
    rw [List.drop_append_of_le_length (by omega), List.drop_of_length_le (by omega),
      List.nil_append]
  rw [whole, List.append_assoc, readName, if_neg (by omega), findIdx?_of_distinct distinct h]
  simp only [behind]
  cases form with
  | short =>
      rw [if_neg (by rintro ⟨⟨⟩, -⟩), NameForm.apply, List.drop_of_length_le (by omega),
        List.nil_append]
  | long =>
      have ending : names.getD i [] = name := by
        rw [List.getD_eq_getElem?_getD, h, Option.getD_some]
      rw [ending, NameForm.apply, if_pos ⟨rfl, startsWith_append _ _⟩, List.drop_left]

theorem readMeridiem_write (letters : LetterCase) (t : TimeOfDay) (rest : List Char) :
    readMeridiem (letters.write t ++ rest) = .ok (decide (12 ≤ t.hour), rest) := by
  have enough : ∀ a b : Char, ¬ byteCount (a :: b :: rest) < 2 := by
    intro a b
    have bytes := length_le_byteCount (a :: b :: rest)
    rw [List.length_cons, List.length_cons] at bytes
    omega
  by_cases morning : t.hour < 12
  · have half : decide (12 ≤ t.hour) = false := decide_eq_false (by omega)
    rw [half]
    cases letters with
    | upper =>
        rw [LetterCase.write, if_pos morning]
        exact if_neg (enough 'A' 'M')
    | lower =>
        rw [LetterCase.write, if_pos morning]
        exact if_neg (enough 'a' 'm')
  · have half : decide (12 ≤ t.hour) = true := decide_eq_true (by omega)
    rw [half]
    cases letters with
    | upper =>
        rw [LetterCase.write, if_neg morning]
        exact if_neg (enough 'P' 'M')
    | lower =>
        rw [LetterCase.write, if_neg morning]
        exact if_neg (enough 'p' 'm')

/-! ## Digits -/

theorem value_append (ds es : List Char) :
    value (ds ++ es) = value ds * 10 ^ es.length + value es := by
  rw [value, Nat.ofDigitChars_append, Nat.ofDigitChars_eq_ofDigitChars_zero, Nat.mul_comm]
  rfl

theorem value_cons (c : Char) (ds : List Char) :
    value (c :: ds) = value [c] * 10 ^ ds.length + value ds :=
  value_append [c] ds

theorem value_singleton {c : Char} (digit : c.isDigit = true) :
    value [c] + 48 = c.toNat ∧ value [c] ≤ 9 := by
  simp [Char.isDigit, UInt32.le_iff_toNat_le] at digit
  simp [value, Nat.ofDigitChars_cons, Nat.ofDigitChars_nil]
  omega

theorem value_lt {ds : List Char} (digits : ∀ c ∈ ds, c.isDigit = true) :
    value ds < 10 ^ ds.length := by
  induction ds with
  | nil => exact Nat.one_pos
  | cons c ds ih =>
      have others := ih fun d hd => digits d (List.mem_cons_of_mem c hd)
      have first := (value_singleton (digits c (List.mem_cons_self ..))).2
      rw [value_cons, List.length_cons, Nat.pow_succ]
      have carry := Nat.mul_le_mul_right (10 ^ ds.length) first
      omega

/-- Digits are determined by their number and their value. -/
theorem eq_of_value_eq {ds es : List Char} (digits : ∀ c ∈ ds, c.isDigit = true)
    (digits' : ∀ c ∈ es, c.isDigit = true) (length : ds.length = es.length)
    (same : value ds = value es) : ds = es := by
  induction ds generalizing es with
  | nil => exact (List.length_eq_zero_iff.1 length.symm).symm
  | cons c ds ih =>
      cases es with
      | nil => cases length
      | cons d es =>
          have others := fun e he => digits e (List.mem_cons_of_mem c he)
          have others' := fun e he => digits' e (List.mem_cons_of_mem d he)
          have size : ds.length = es.length := Nat.succ.inj length
          rw [value_cons c, value_cons d, size] at same
          have small := value_lt others
          have small' := value_lt others'
          rw [size] at small
          have pos : 0 < 10 ^ es.length := Nat.pow_pos (by decide)
          have first : value [c] = value [d] := by
            have quotient := congrArg (· / 10 ^ es.length) same
            simpa only [Nat.mul_comm _ (10 ^ es.length), Nat.mul_add_div pos,
              Nat.div_eq_of_lt small, Nat.div_eq_of_lt small', Nat.add_zero] using quotient
          have rest : value ds = value es := by
            rw [first] at same
            omega
          have letter : c = d := by
            have hc := (value_singleton (digits c (List.mem_cons_self ..))).1
            have hd := (value_singleton (digits' d (List.mem_cons_self ..))).1
            exact Char.toNat_inj.1 (by omega)
          rw [letter, ih others others' size rest]

/-! ## Fractions -/

/-- A fraction of a second that is cut after so many digits. -/
def cutFraction (digits fraction : Nat) : Nat :=
  fraction / 10 ^ (9 - digits) * 10 ^ (9 - digits)

theorem fraction_lt (t : TimeOfDay) : t.fraction < 10 ^ 9 :=
  Nat.mod_lt _ (by decide)

theorem nanoseconds_take {digits fraction : Nat} (h : digits ≤ 9) (small : fraction < 10 ^ 9) :
    nanoseconds ((numeral .zero 9 [] fraction).take digits) = cutFraction digits fraction := by
  have full : (numeral .zero 9 [] fraction).length = 9 := length_numeral_zero (by decide) small
  have written : value (numeral .zero 9 [] fraction) = fraction := value_leftpad_digits 9 fraction
  have halves := value_append ((numeral .zero 9 [] fraction).take digits)
    ((numeral .zero 9 [] fraction).drop digits)
  have dropped : value ((numeral .zero 9 [] fraction).drop digits) <
      10 ^ ((numeral .zero 9 [] fraction).drop digits).length :=
    value_lt fun c hc => isDigit_of_mem_numeral (by decide) (List.mem_of_mem_drop hc)
  rw [List.take_append_drop, written, List.length_drop, full] at halves
  rw [List.length_drop, full] at dropped
  have zeros : value (List.replicate (9 - digits) '0') = 0 := by
    have none := value_replicate_zero_append (9 - digits) []
    rwa [List.append_nil] at none
  rw [nanoseconds, List.rightpad, value_append, List.length_replicate, List.length_take, full,
    Nat.min_eq_left h, zeros, cutFraction]
  have quotient : fraction / 10 ^ (9 - digits) =
      value ((numeral .zero 9 [] fraction).take digits) := by
    refine Nat.div_eq_of_lt_le (by omega) ?_
    rw [Nat.succ_mul]
    omega
  rw [quotient, Nat.add_zero]

theorem isDigit_of_mem_bareFraction {digits : Nat} {t : TimeOfDay} {c : Char}
    (h : c ∈ writeBareFraction digits t) : c.isDigit = true :=
  isDigit_of_mem_numeral (by decide) (List.mem_of_mem_take h)

theorem length_writeBareFraction {digits : Nat} (h : digits ≤ 9) (t : TimeOfDay) :
    (writeBareFraction digits t).length = digits := by
  rw [writeBareFraction, List.length_take, length_numeral_zero (by decide) (fraction_lt t)]
  omega

theorem exists_digits_of_fixedFraction {digits : Nat} (h : digits ≤ 9) (t : TimeOfDay) :
    ∃ ds, writeFixedFraction digits t = '.' :: ds ∧ (∀ c ∈ ds, c.isDigit = true) ∧
      ds.length = digits ∧ nanoseconds ds = cutFraction digits t.fraction :=
  ⟨writeBareFraction digits t, rfl, fun _ hc => isDigit_of_mem_bareFraction hc,
    length_writeBareFraction h t, nanoseconds_take h (fraction_lt t)⟩

theorem value_le_of_length {ds : List Char} (digits : ∀ c ∈ ds, c.isDigit = true)
    (h : ds.length ≤ 9) : value ds ≤ largestNumber := by
  have lt := value_lt digits
  have pow : 10 ^ ds.length ≤ 10 ^ 9 := Nat.pow_le_pow_right (by decide) h
  unfold largestNumber
  omega

theorem readFixedFraction_append {ds : List Char} (digits : ∀ c ∈ ds, c.isDigit = true)
    (h : ds.length ≤ 9) (rest : List Char) :
    readFixedFraction ds.length (ds ++ rest) = .ok (nanoseconds ds, rest) := by
  have leading : leadingDigits (some ds.length) (ds ++ rest) = ds :=
    leadingDigits_of_length digits rfl rest
  rw [readFixedFraction, leading,
    readNumber_of_leading leading (Nat.le_refl _) (value_le_of_length digits h)]
  rfl

theorem readFraction_append {ds : List Char} (digits : ∀ c ∈ ds, c.isDigit = true)
    (pos : 0 < ds.length) (h : ds.length ≤ 9) (stop : NoDigitAhead rest) :
    readFraction (ds ++ rest) = .ok (nanoseconds ds, rest) := by
  have leading : leadingDigits (some 9) (ds ++ rest) = ds := leadingDigits_append digits h stop
  have none : rest.dropWhile Char.isDigit = rest := by
    cases rest with
    | nil => rfl
    | cons c rest => rw [List.dropWhile_cons, stop c rfl]; rfl
  rw [readFraction, leading, readNumber_of_leading leading pos (value_le_of_length digits h)]
  exact congrArg (fun back => Except.ok (nanoseconds ds, back)) none

theorem exists_digits_of_fraction {t : TimeOfDay} (h : t.fraction ≠ 0) :
    ∃ digits, 0 < digits ∧ digits ≤ 9 ∧ writeFraction t = writeFixedFraction digits t ∧
      cutFraction digits t.fraction = t.fraction := by
  unfold writeFraction cutFraction
  rw [if_neg h]
  split
  · exact ⟨3, by decide, by decide, rfl, by omega⟩
  · split
    · exact ⟨6, by decide, by decide, rfl, by omega⟩
    · exact ⟨9, by decide, by decide, rfl, by omega⟩

/-! ## Offsets -/

theorem readSign_sign (o : UtcOffset) (rest : List Char) :
    readSign (o.sign :: rest) = .ok (decide (o.seconds < 0), rest) := by
  rw [UtcOffset.sign]
  split
  · next west =>
      rw [decide_eq_true west]
      rfl
  · next east =>
      rw [decide_eq_false east]
      rfl

theorem signed_magnitude (o : UtcOffset) :
    (if decide (o.seconds < 0) then -(o.magnitude : Int) else o.magnitude) = o.seconds := by
  rw [UtcOffset.magnitude]
  split
  · next west =>
      have negative := of_decide_eq_true west
      omega
  · next east =>
      have positive := of_decide_eq_false (Bool.eq_false_iff.2 east)
      omega

theorem isDigit_of_mem_twoDigits {n : Nat} {c : Char} (h : c ∈ twoDigits n) :
    c.isDigit = true :=
  isDigit_of_mem_numeral (by decide) h

theorem length_twoDigits {n : Nat} (h : n < 100) : (twoDigits n).length = 2 :=
  length_numeral_zero (by decide) h

theorem value_twoDigits (n : Nat) : value (twoDigits n) = n :=
  value_leftpad_digits 2 n

/-- Four digits are two and two. -/
theorem numeral_four {n : Nat} (h : n < 10000) :
    numeral .zero 4 [] n = twoDigits (n / 100) ++ twoDigits (n % 100) := by
  have high : (twoDigits (n / 100)).length = 2 := length_twoDigits (by omega)
  have low : (twoDigits (n % 100)).length = 2 := length_twoDigits (by omega)
  refine eq_of_value_eq (fun c hc => isDigit_of_mem_numeral (by decide) hc) ?_ ?_ ?_
  · intro c hc
    rcases List.mem_append.1 hc with hc | hc
    · exact isDigit_of_mem_twoDigits hc
    · exact isDigit_of_mem_twoDigits hc
  · rw [length_numeral_zero (by decide) h, List.length_append, high, low]
  · have written : value (numeral .zero 4 [] n) = n := value_leftpad_digits 4 n
    rw [written, value_append, value_twoDigits, value_twoDigits, low]
    omega

theorem readOffsetHours_append {n : Nat} (h : n < 100) (rest : List Char) :
    readOffsetHours (twoDigits n ++ rest) = .ok (n, rest) := by
  have two : (twoDigits n).length = 2 := length_twoDigits h
  have bytes := length_le_byteCount (twoDigits n ++ rest)
  rw [List.length_append, two] at bytes
  have leading : leadingDigits (some 2) (twoDigits n ++ rest) = twoDigits n :=
    leadingDigits_of_length (fun c hc => isDigit_of_mem_twoDigits hc) two rest
  rw [readOffsetHours, leading, if_neg (by omega), if_neg (by omega), value_twoDigits,
    ← two, List.drop_left]

theorem exists_twoDigits_eq_cons (n : Nat) :
    ∃ c ds, twoDigits n = c :: ds ∧ c.isDigit = true := by
  have pos : 0 < (twoDigits n).length := length_numeral_pos .zero
  cases digits : twoDigits n with
  | nil =>
      rw [digits] at pos
      exact absurd pos (Nat.lt_irrefl 0)
  | cons c ds =>
      have mem : c ∈ twoDigits n := by
        rw [digits]
        exact List.mem_cons_self ..
      exact ⟨c, ds, rfl, isDigit_of_mem_twoDigits mem⟩

/-- Two digits are taken for minutes, and have to be below 60 then. -/
theorem readOffsetMinutes_twoDigits {n : Nat} (h : n < 100) (optional : Bool) (rest : List Char) :
    readOffsetMinutes optional (twoDigits n ++ rest) =
      if 59 < n then .error .outOfRange else .ok (n, rest) := by
  have two : (twoDigits n).length = 2 := length_twoDigits h
  have bytes := length_le_byteCount (twoDigits n ++ rest)
  rw [List.length_append, two] at bytes
  have leading : leadingDigits (some 2) (twoDigits n ++ rest) = twoDigits n :=
    leadingDigits_of_length (fun c hc => isDigit_of_mem_twoDigits hc) two rest
  have here : (twoDigits n ++ rest).isEmpty = false := by
    obtain ⟨c, ds, digits, -⟩ := exists_twoDigits_eq_cons n
    rw [digits]
    rfl
  rw [readOffsetMinutes, leading, here, Bool.and_false, if_neg (by decide), if_neg (by omega),
    if_neg (by omega), value_twoDigits, ← two, List.drop_left]

theorem readOffsetMinutes_append {n : Nat} (h : n < 60) (optional : Bool) (rest : List Char) :
    readOffsetMinutes optional (twoDigits n ++ rest) = .ok (n, rest) := by
  rw [readOffsetMinutes_twoDigits (by omega), if_neg (by omega)]

/-- What may stand between the hours and the minutes of an offset. -/
def isGap (c : Char) : Bool :=
  c == ':' || isBlank c

theorem isGap_of_isDigit {c : Char} (digit : c.isDigit = true) : isGap c = false := by
  have other : (c == ':') = false := by
    cases same : c == ':' with
    | false => rfl
    | true =>
        rw [eq_of_beq same] at digit
        cases digit
  rw [isGap, other, isBlank_of_isDigit digit]
  rfl

/-- A gap is skipped up to the digits behind it. -/
theorem dropWhile_isGap {gap : List Char} (h : ∀ c ∈ gap, isGap c = true) (n : Nat)
    (rest : List Char) :
    (gap ++ (twoDigits n ++ rest)).dropWhile isGap = twoDigits n ++ rest := by
  obtain ⟨c, ds, digits, digit⟩ := exists_twoDigits_eq_cons n
  rw [List.dropWhile_append_of_pos h, digits, List.cons_append, List.dropWhile_cons,
    isGap_of_isDigit digit]
  rfl

theorem readSignedOffset_of_minutes {o : UtcOffset} {hours minutes : Nat} (hh : hours < 100)
    {optional : Bool} {rest back : List Char}
    (read : readOffsetMinutes optional (rest.dropWhile isGap) = .ok (minutes, back)) :
    readSignedOffset optional (o.sign :: (twoDigits hours ++ rest)) =
      .ok (if decide (o.seconds < 0) then -(hours * 3600 + minutes * 60 : Int)
        else hours * 3600 + minutes * 60, back) := by
  have read : readOffsetMinutes optional (rest.dropWhile fun c => c == ':' || isBlank c) =
    .ok (minutes, back) := read
  simp only [readSignedOffset, readSign_sign, readOffsetHours_append hh, read, bind, Except.bind,
    pure, Except.pure]

/-- An offset of whole minutes is read back with colons or without. -/
theorem readSignedOffset_append {o : UtcOffset} {hours minutes : Nat} (hh : hours < 100)
    (hm : minutes < 60) (same : hours * 3600 + minutes * 60 = o.magnitude) {colons : List Char}
    (h : ∀ c ∈ colons, c = ':') (optional : Bool) (rest : List Char) :
    readSignedOffset optional
        (o.sign :: (twoDigits hours ++ (colons ++ (twoDigits minutes ++ rest)))) =
      .ok (o.seconds, rest) := by
  have seconds : (hours * 3600 + minutes * 60 : Int) = o.magnitude := by omega
  have gap : ∀ c ∈ colons, isGap c = true := by
    intro c mem
    rw [h c mem]
    rfl
  rw [readSignedOffset_of_minutes hh
    (by rw [dropWhile_isGap gap, readOffsetMinutes_append hm]), seconds, signed_magnitude]

/-- An offset of whole hours is read back without minutes, at the end of a text. -/
theorem readSignedOffset_hours {o : UtcOffset} {hours : Nat} (hh : hours < 100)
    (same : hours * 3600 = o.magnitude) :
    readSignedOffset true (o.sign :: twoDigits hours) = .ok (o.seconds, []) := by
  have seconds : (hours * 3600 + (0 : Nat) * 60 : Int) = o.magnitude := by omega
  have last : readOffsetMinutes true (([] : List Char).dropWhile isGap) = .ok (0, []) := rfl
  have read := readSignedOffset_of_minutes (o := o) hh last
  rwa [List.append_nil, seconds, signed_magnitude] at read

theorem isBlank_sign (o : UtcOffset) : isBlank o.sign = false := by
  rw [UtcOffset.sign]
  split <;> decide

theorem OffsetForm.read_eq {form : OffsetForm} (h : form ≠ .anyLength) (o : UtcOffset)
    (cs : List Char) : form.read (o.sign :: cs) = readSignedOffset false (o.sign :: cs) := by
  have here : (o.sign :: cs).dropWhile isBlank = o.sign :: cs := by
    rw [List.dropWhile_cons, isBlank_sign]
    rfl
  cases form with
  | anyLength => exact absurd rfl h
  | plain | colon | seconds | hours =>
      unfold OffsetForm.read
      rw [here]
  | colonOrUtc =>
      unfold OffsetForm.read
      rw [here, UtcOffset.sign]
      split <;> rfl

theorem OffsetForm.read_anyLength (o : UtcOffset) (cs : List Char) :
    OffsetForm.anyLength.read (o.sign :: cs) = readSignedOffset true (o.sign :: cs) := by
  have here : (o.sign :: cs).dropWhile isBlank = o.sign :: cs := by
    rw [List.dropWhile_cons, isBlank_sign]
    rfl
  unfold OffsetForm.read
  rw [here, UtcOffset.sign]
  split <;> rfl

theorem isBlank_of_mem_name {o : UtcOffset} {c : Char} (h : c ∈ o.name) : isBlank c = false := by
  have digit : ∀ {n : Nat}, c ∈ twoDigits n → isBlank c = false := fun hc =>
    isBlank_of_isDigit (isDigit_of_mem_twoDigits hc)
  rw [UtcOffset.name] at h
  rcases List.mem_append.1 h with h | h
  · rcases List.mem_append.1 h with h | h
    · rcases List.mem_cons.1 h with rfl | h
      · exact isBlank_sign o
      · exact digit h
    · rcases List.mem_cons.1 h with rfl | h
      · decide
      · exact digit h
  · split at h
    · cases h
    · rcases List.mem_cons.1 h with rfl | h
      · decide
      · exact digit h

end DateLayout.Strftime
