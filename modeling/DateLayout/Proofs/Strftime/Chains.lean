import DateLayout.Proofs.Strftime.Gathering
import DateLayout.Proofs.Strftime.Runs

/-!
# Items one after the other

What several items wrote of a moment is taken up again item by item, if each text ends where its
item ends (`Chained`). The fields then are what the items tell, whatever they were before
(`Chained.read`).

A year is the one number that need not fit its width. Below 0 and above 9999 it has a sign, and
behind a sign a year is read to its last digit, so that it is carried as well as a year of four
digits (`carries_year`).

The rest is about the items of a date and of a time of day with separators between them, which
chain for every moment (`exists_chained_date`, `exists_chained_time`).
-/

namespace DateLayout.Strftime

open DateLayout.Calendar DateLayout.Text

/-- The item writes the moment, and reading the text adds what the item tells to what others
told. -/
structure Item.Carries (m : Moment) (i : Item) : Prop where
  back : ∃ cs, i.ReadsBack m cs
  told : ∀ seen : List Item,
    (i.isFraction = true → seen.findSome? (Item.toldFraction m) = none) →
      (Fields.ofItems m seen).enter (i.told m) = .ok (Fields.ofItems m (seen ++ [i]))

/-- Items and what they write of a moment, each up to where the next one begins. -/
inductive Chained (m : Moment) : List Item → List Char → Prop where
  | nil : Chained m [] []
  | cons {i : Item} {is : List Item} {cs text : List Char} (carries : i.Carries m)
      (back : i.ReadsBack m cs) (ends : i.Ends text) (tail : Chained m is text) :
      Chained m (i :: is) (cs ++ text)

variable {m : Moment} {i : Item} {is : List Item} {cs text rest : List Char}

theorem Item.carries_of_keeps (h : i.Keeps m) : i.Carries m :=
  ⟨Item.read_back h, fun _ new => enter_ofItems h new⟩

theorem Chained.written (h : Chained m is text) : writeItems is m.stamp = some text := by
  induction h with
  | nil => rfl
  | cons carries back ends tail ih =>
      rw [writeItems_cons back.1, ih]
      rfl

/-- Reading takes up the items one after the other. -/
theorem Chained.read (h : Chained m is text) :
    ∀ seen : List Item, (seen ++ is).countP Item.isFraction ≤ 1 →
      readItems (is.map Item.reader) (.ofItems m seen) text = .ok (.ofItems m (seen ++ is)) := by
  induction h with
  | nil =>
      intro seen _
      rw [List.append_nil]
      rfl
  | @cons i is cs text carries back ends tail ih =>
      intro seen one
      have whole : seen ++ i :: is = seen ++ [i] ++ is := by rw [List.append_assoc]; rfl
      rw [List.map_cons, readItems_cons (back.2 text ends),
        carries.told seen (findSome?_of_count one)]
      rw [whole] at one ⊢
      exact ih (seen ++ [i]) one

/-! ## Years of any length -/

theorem leadingDigits_none_append {ds : List Char} (digits : ∀ c ∈ ds, c.isDigit = true)
    (stop : NoDigitAhead rest) : leadingDigits none (ds ++ rest) = ds := by
  rw [leadingDigits, List.takeWhile_append_of_pos digits, takeWhile_of_noDigitAhead stop,
    List.append_nil]

/-- A number filled up with zeros is read to its last digit. -/
theorem readNumber_leftpad {n : Nat} (width : Nat) (bounded : n ≤ largestNumber)
    (stop : NoDigitAhead rest) :
    readNumber 1 none ((digits n).leftpad width '0' ++ rest) = .ok (n, rest) := by
  have value : value ((digits n).leftpad width '0') = n := value_leftpad_digits width n
  have all : ∀ c ∈ (digits n).leftpad width '0', c.isDigit = true := by
    intro c hc
    exact isDigit_of_mem_numeral (by decide : Padding.zero ≠ .space) hc
  have pos : 0 < ((digits n).leftpad width '0').length :=
    length_numeral_pos .zero
  have number := readNumber_of_leading (leadingDigits_none_append all stop) pos
    (by rw [value]; exact bounded)
  rwa [value] at number

theorem writeYear_of_sign {year : Int} (long : ¬ (0 ≤ year ∧ year ≤ 9999)) :
    writeYear .zero year =
      (if year < 0 then '-' else '+') :: (digits year.natAbs).leftpad 4 '0' :=
  if_neg long

theorem read_signedYear {year : Int} (bounded : year.natAbs ≤ largestNumber)
    (stop : NoDigitAhead rest) :
    NumberField.year.read
        ((if year < 0 then '-' else '+') :: ((digits year.natAbs).leftpad 4 '0' ++ rest)) =
      .ok (.number .year year, rest) := by
  have number := readNumber_leftpad 4 bounded stop
  have minus : isBlank '-' = false := by decide
  have plus : isBlank '+' = false := by decide
  by_cases negative : year < 0
  · have same : -(year.natAbs : Int) = year := by omega
    simp only [if_pos negative, NumberField.read, List.dropWhile_cons, minus, Bool.false_eq_true,
      if_false, readYear, number, same, bind, Except.bind, pure, Except.pure]
  · have same : (year.natAbs : Int) = year := by omega
    simp only [if_neg negative, NumberField.read, List.dropWhile_cons, plus, Bool.false_eq_true,
      if_false, readYear, number, same, bind, Except.bind, pure, Except.pure]

theorem readsBack_year (lower : -2147483648 ≤ m.localTime.date.year)
    (upper : m.localTime.date.year ≤ 2147483647) :
    ∃ cs, (Item.number .year .zero).ReadsBack m cs := by
  by_cases short : 0 ≤ m.localTime.date.year ∧ m.localTime.date.year ≤ 9999
  · exact readsBack_number short
  · refine ⟨_, congrArg some (writeYear_of_sign short), ?_⟩
    intro rest stop
    have bounded : m.localTime.date.year.natAbs ≤ largestNumber := by
      unfold largestNumber
      omega
    exact read_signedYear bounded stop

/-- A year of 32 bits is written and read back, with a sign where it needs one. -/
theorem carries_year (lower : -2147483648 ≤ m.localTime.date.year)
    (upper : m.localTime.date.year ≤ 2147483647) : (Item.number .year .zero).Carries m :=
  ⟨readsBack_year lower upper, fun _ _ => setYear_ofItems lower upper⟩

/-! ## Dates and times with separators -/

/-- Year, month and day with hyphens. -/
def dateItems : List Item :=
  [.number .year .zero, .literal ['-'], .number .month .zero, .literal ['-'],
    .number .day .zero]

/-- Hour, minute and second with colons, and the fraction that the second needs. -/
def timeItems : List Item :=
  [.number .hour .zero, .literal [':'], .number .minute .zero, .literal [':'],
    .number .second .zero, .fraction]

theorem Chained.literal (tail : Chained m is text) (c : Char) :
    Chained m (.literal [c] :: is) (c :: text) := by
  have keeps : (Item.literal [c]).Keeps m := trivial
  obtain ⟨cs, back⟩ := Item.read_back keeps
  cases back.1
  exact .cons (Item.carries_of_keeps keeps) back trivial tail

theorem Chained.blank (tail : Chained m is text) (solid : Solid text) {c : Char}
    (blank : isBlank c = true) : Chained m (.blank [c] :: is) (c :: text) := by
  have keeps : (Item.blank [c]).Keeps m := by
    intro d hd
    rw [List.mem_singleton.1 hd]
    exact blank
  obtain ⟨cs, back⟩ := Item.read_back keeps
  cases back.1
  refine .cons (Item.carries_of_keeps keeps) back ?_ tail
  obtain ⟨d, head, other⟩ := solid
  intro e he
  rw [head] at he
  cases he
  exact other

theorem exists_chained_number (field : NumberField) (keeps : (Item.number field .zero).Keeps m)
    (stop : NoDigitAhead text) (tail : Chained m is text) :
    ∃ text, Chained m (.number field .zero :: is) text ∧ Solid text := by
  obtain ⟨cs, back⟩ := readsBack_number keeps
  refine ⟨cs ++ text, .cons (Item.carries_of_keeps keeps) back stop tail, ?_⟩
  exact (Item.solid_of_write keeps rfl back.1).append text

/-- A number ends at the separator behind it. -/
theorem exists_chained_separated (field : NumberField)
    (keeps : (Item.number field .zero).Keeps m) {c : Char} (separator : c.isDigit = false)
    (tail : Chained m is text) :
    ∃ text, Chained m (.number field .zero :: .literal [c] :: is) text ∧ Solid text :=
  exists_chained_number field keeps (noDigitAhead_cons separator) (tail.literal c)

theorem exists_chained_date (lower : -2147483648 ≤ m.localTime.date.year)
    (upper : m.localTime.date.year ≤ 2147483647) (stop : NoDigitAhead text)
    (tail : Chained m is text) : ∃ text, Chained m (dateItems ++ is) text := by
  obtain ⟨day, chained, -⟩ := exists_chained_number .day (m := m) trivial stop tail
  obtain ⟨month, chained, -⟩ :=
    exists_chained_separated .month (m := m) trivial (by decide : '-'.isDigit = false) chained
  have carries := carries_year lower upper
  obtain ⟨cs, back⟩ := carries.back
  exact ⟨cs ++ '-' :: month,
    .cons carries back (noDigitAhead_cons (by decide)) (chained.literal '-')⟩

/-- A fraction that needs no digits is not written, so that what follows it may follow the
second. -/
theorem exists_chained_time (stop : NoDigitAhead text) (point : text.head? ≠ some '.')
    (tail : Chained m is text) :
    ∃ text, Chained m (timeItems ++ is) text ∧ Solid text := by
  have keeps : Item.fraction.Keeps m := trivial
  obtain ⟨cs, back⟩ := Item.read_back keeps
  have chained : Chained m (.fraction :: is) (cs ++ text) :=
    .cons (Item.carries_of_keeps keeps) back ⟨stop, point⟩ tail
  have stop' : NoDigitAhead (cs ++ text) := by
    rcases Item.point_of_write (.inl rfl) back.1 with rfl | ⟨ds, rfl⟩
    · exact stop
    · exact noDigitAhead_cons (by decide)
  obtain ⟨second, chained, -⟩ := exists_chained_number .second (m := m) trivial stop' chained
  obtain ⟨minute, chained, -⟩ :=
    exists_chained_separated .minute (m := m) trivial (by decide : ':'.isDigit = false) chained
  exact exists_chained_separated .hour trivial (by decide) chained

end DateLayout.Strftime
