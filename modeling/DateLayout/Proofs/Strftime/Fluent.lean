import Mathlib.Data.List.DropRight
import DateLayout.Proofs.Strftime.Gathering
import DateLayout.Proofs.Strftime.Runs

/-!
# Items that need no separators

Items can be told apart without separators between them, if what one of them writes cannot go on
as the one before it. Which items those are can be decided: the text of an item begins with a
character of few kinds, whatever the moment (`Item.opens_of_write`), and an item ends before all
characters of some kinds (`Item.endsBefore`). There is one more way to be told apart. White space
is read as far as it goes, which is too far where a number follows that is filled up with spaces;
but a number skips white space by itself, so it is found all the same (`readItems_blank_number`).

From a list of items that passes the check (`isFluent`) a text is written that is read back, with
what each item tells (`exists_flows`). The induction carries the kinds of characters that the text
begins with.
-/

namespace DateLayout.Strftime

open DateLayout.Calendar DateLayout.Text

/-- What a character is to an item in front of it. -/
inductive CharKind where
  | digit
  | blank
  | point
  | other
deriving DecidableEq, Repr

def CharKind.of (c : Char) : CharKind :=
  if c.isDigit then .digit
  else if isBlank c then .blank
  else if c = '.' then .point
  else .other

/-- The kinds of characters that the text of an item can begin with. -/
def Item.opening : Item → List CharKind
  | .number _ .space => [.digit, .blank]
  | .number _ _ | .weekdayNumber _ | .bareFraction _ => [.digit]
  | .fraction | .fixedFraction _ => [.point]
  | .literal text | .blank text => (text.head?.map CharKind.of).toList
  | .monthName _ | .weekdayName _ | .meridiem _ | .timeMark | .offset _ | .zoneName => [.other]
  | .unknown => []

/-- Whether the text of an item may be empty. -/
def Item.isSilent : Item → Bool
  | .fraction | .bareFraction 0 | .literal [] | .blank [] => true
  | _ => false

def opening : List Item → List CharKind
  | [] => []
  | i :: is => i.opening ++ if i.isSilent then opening is else []

/-- Whether an item ends before characters of some kinds. -/
def Item.endsBefore (kinds : List CharKind) : Item → Bool
  | .number _ _ => !kinds.contains .digit
  | .fraction => !kinds.contains .digit && !kinds.contains .point
  | .zoneName => kinds.all fun kind => kind = .blank
  | .blank _ => !kinds.contains .blank
  | .offset .hours => false
  | _ => true

/-- White space may run into a number. -/
def Item.runsInto : Item → List Item → Bool
  | .blank _, .number _ _ :: _ => true
  | _, _ => false

/-- Whether each item ends where the next one begins. -/
def isFluent : List Item → Bool
  | [] => true
  | i :: is => (i.endsBefore (opening is) || i.runsInto is) && isFluent is

variable {m : Moment} {i : Item} {is : List Item} {c : Char} {cs text : List Char}
  {kinds : List CharKind}

/-! ## Kinds of characters -/

theorem kind_of_digit (h : c.isDigit = true) : CharKind.of c = .digit :=
  if_pos h

theorem kind_of_blank (h : isBlank c = true) : CharKind.of c = .blank := by
  have other : c.isDigit ≠ true := by
    intro digit
    rw [isBlank_of_isDigit digit] at h
    cases h
  rw [CharKind.of, if_neg other, if_pos h]

theorem isBlank_of_kind (h : CharKind.of c = .blank) : isBlank c = true := by
  unfold CharKind.of at h
  split at h
  · cases h
  · split at h
    · next blank => exact blank
    · split at h <;> cases h

theorem kind_of_sign (o : UtcOffset) : CharKind.of o.sign = .other := by
  rw [UtcOffset.sign]
  split <;> decide

/-! ## What texts begin with -/

theorem opens_digits {ds : List Char} (digits : ∀ c ∈ ds, c.isDigit = true)
    (pos : 0 < ds.length) : ∃ c, ds.head? = some c ∧ CharKind.of c = .digit := by
  cases ds with
  | nil => exact absurd pos (Nat.lt_irrefl 0)
  | cons c ds => exact ⟨c, rfl, kind_of_digit (digits c (List.mem_cons_self ..))⟩

theorem opens_numeral (field : NumberField) (padding : Padding) (width n : Nat) :
    ∃ c, (numeral padding width [] n).head? = some c ∧
      CharKind.of c ∈ (Item.number field padding).opening := by
  by_cases plain : padding = .space
  · subst plain
    rw [numeral, List.nil_append, List.leftpad]
    cases width - (digits n).length with
    | zero =>
        obtain ⟨c, head, digit⟩ :=
          opens_digits (fun c hc => isDigit_of_mem_digits hc) (length_digits_pos n)
        refine ⟨c, head, ?_⟩
        rw [digit]
        exact List.mem_cons_self ..
    | succ k =>
        have space : CharKind.of ' ' = .blank := by decide
        refine ⟨' ', rfl, ?_⟩
        rw [space]
        exact List.mem_cons_of_mem _ (List.mem_cons_self ..)
  · obtain ⟨c, head, digit⟩ :=
      opens_digits (fun c hc => isDigit_of_mem_numeral plain hc) (length_numeral_pos padding)
    refine ⟨c, head, ?_⟩
    rw [digit]
    cases padding with
    | none | zero => exact List.mem_cons_self ..
    | space => exact absurd rfl plain

theorem opens_name {names : List (List Char)}
    (h : ∀ name ∈ names, name.head?.any (fun c => CharKind.of c = .other) = true)
    (form : NameForm) {i : Nat} (lt : i < names.length) :
    ∃ c, (form.apply (names.getD i [])).head? = some c ∧ CharKind.of c ∈ [CharKind.other] := by
  obtain ⟨c, head, other⟩ := head_name h form lt
  exact ⟨c, head, List.mem_singleton.2 (of_decide_eq_true other)⟩

/-- The text of an item begins with a character of one of its kinds, or there is none. -/
theorem Item.opens_of_write (keeps : i.Keeps m) (written : i.write m.stamp = some cs) :
    (cs = [] ∧ i.isSilent = true) ∨ ∃ c, cs.head? = some c ∧ CharKind.of c ∈ i.opening := by
  cases i with
  | literal | blank =>
      cases written
      cases cs with
      | nil => exact .inl ⟨rfl, rfl⟩
      | cons c cs => exact .inr ⟨c, rfl, List.mem_singleton.2 rfl⟩
  | number field padding =>
      obtain ⟨width, n, -, -, -, -, -, text⟩ := NumberField.exists_numeral keeps
      cases text.symm.trans written
      exact .inr (opens_numeral field padding width n)
  | monthName form =>
      cases written
      exact .inr (opens_name (by decide) form (month_lt_length m.localTime.date))
  | weekdayName form =>
      cases written
      exact .inr (opens_name (by decide) form (weekday_lt_length m.localTime.date.weekday))
  | weekdayNumber count =>
      obtain ⟨c, single, digit, -⟩ := exists_digit_of_weekday count m.localTime.date.weekday
      cases (congrArg some single).symm.trans written
      exact .inr ⟨c, rfl, List.mem_singleton.2 (kind_of_digit digit)⟩
  | meridiem letters =>
      cases written
      refine .inr ?_
      unfold LetterCase.write
      split <;> split <;> exact ⟨_, rfl, by decide⟩
  | fraction =>
      rcases point_of_write (.inl rfl) written with rfl | ⟨ds, rfl⟩
      · exact .inl ⟨rfl, rfl⟩
      · exact .inr ⟨'.', rfl, by decide⟩
  | fixedFraction digits =>
      cases written
      exact .inr ⟨'.', rfl, List.mem_singleton.2 (by decide)⟩
  | bareFraction digits =>
      cases written
      cases digits with
      | zero => exact .inl ⟨rfl, rfl⟩
      | succ n =>
          have length := length_writeBareFraction keeps m.localTime.time
          obtain ⟨c, head, digit⟩ :=
            opens_digits (fun c hc => isDigit_of_mem_bareFraction hc) (by rw [length]; omega)
          exact .inr ⟨c, head, List.mem_singleton.2 digit⟩
  | timeMark =>
      cases written
      exact .inr ⟨'T', rfl, by decide⟩
  | offset form =>
      cases form with
      | seconds | anyLength => exact keeps.elim
      | plain | colon | colonOrUtc | hours =>
          cases written
          exact .inr ⟨m.offset.sign, rfl, List.mem_singleton.2 (kind_of_sign m.offset)⟩
  | zoneName =>
      cases written
      refine .inr ⟨m.offset.sign, ?_, List.mem_singleton.2 (kind_of_sign m.offset)⟩
      show (String.ofList m.offset.name).toList.head? = _
      rw [String.toList_ofList]
      rfl
  | unknown => exact keeps.elim

/-! ## Where items end -/

/-- The text begins with a character of one of the kinds, if with any. -/
def Opens (kinds : List CharKind) (text : List Char) : Prop :=
  ∀ c, text.head? = some c → CharKind.of c ∈ kinds

theorem Opens.ne (h : Opens kinds text) {kind : CharKind} (absent : kinds.contains kind = false)
    (head : text.head? = some c) : CharKind.of c ≠ kind := by
  rintro rfl
  rw [List.contains_iff_mem.2 (h c head)] at absent
  cases absent

theorem Item.ends_of_endsBefore (h : i.endsBefore kinds = true) (opens : Opens kinds text) :
    i.Ends text := by
  have noDigit : kinds.contains .digit = false → NoDigitAhead text := by
    intro absent c head
    rw [← Bool.not_eq_true]
    intro digit
    exact opens.ne absent head (kind_of_digit digit)
  cases i with
  | number field padding => exact noDigit ((Bool.not_eq_true' _).mp h)
  | fraction =>
      obtain ⟨digit, point⟩ := (Bool.and_eq_true _ _).mp h
      refine ⟨noDigit ((Bool.not_eq_true' _).mp digit), ?_⟩
      intro head
      exact opens.ne ((Bool.not_eq_true' _).mp point) head (by decide)
  | zoneName =>
      intro c head
      have blank := List.all_eq_true.1 h _ (opens c head)
      exact isBlank_of_kind (of_decide_eq_true blank)
  | blank spaces =>
      intro c head
      rw [← Bool.not_eq_true]
      intro blank
      exact opens.ne ((Bool.not_eq_true' _).mp h) head (kind_of_blank blank)
  | offset form =>
      cases form with
      | hours => cases h
      | plain | colon | seconds | colonOrUtc | anyLength => trivial
  | literal | monthName | weekdayName | weekdayNumber | meridiem | fixedFraction | bareFraction
  | timeMark | unknown => trivial

theorem reader_of_endsBefore (h : i.endsBefore kinds = true) : i.reader = i := by
  unfold Item.reader
  split
  · cases h
  · rfl

/-- A number is found behind white space, however much of it was skipped before. -/
theorem readItems_blank_number (field : NumberField) (padding : Padding) (is : List Item)
    (f : Fields) {spaces : List Char} (blank : ∀ c ∈ spaces, isBlank c = true) :
    readItems (.blank spaces :: .number field padding :: is) f (spaces ++ text) =
      readItems (.number field padding :: is) f text := by
  have skipped : ((spaces ++ text).dropWhile isBlank).dropWhile isBlank =
      text.dropWhile isBlank := by
    rw [List.dropWhile_append_of_pos blank, List.dropWhile_idempotent]
  have read : (Item.number field padding).read ((spaces ++ text).dropWhile isBlank) =
      (Item.number field padding).read text := by
    show NumberField.read field _ = NumberField.read field _
    unfold NumberField.read
    rw [skipped]
  have here : (Item.blank spaces).read (spaces ++ text) =
      .ok (.nothing, (spaces ++ text).dropWhile isBlank) := rfl
  rw [readItems_cons here]
  show readItems (.number field padding :: is) f _ = _
  rw [readItems, readItems, read]

/-! ## Whole texts -/

/-- The items write the text, and reading it adds what they tell to what was known. -/
structure Flows (m : Moment) (is : List Item) (text : List Char) : Prop where
  written : writeItems is m.stamp = some text
  opens : Opens (opening is) text
  read : ∀ seen, (seen ++ is).countP Item.isFraction ≤ 1 →
    readItems is (.ofItems m seen) text = .ok (.ofItems m (seen ++ is))

theorem flows_nil (m : Moment) : Flows m [] [] where
  written := rfl
  opens := nofun
  read seen _ := by
    rw [List.append_nil]
    rfl

/-- An item goes in front of others if its part of the text is taken off again. -/
theorem Flows.cons (tail : Flows m is text) (keeps : i.Keeps m)
    (written : i.write m.stamp = some cs)
    (taken : ∀ f, readItems (i :: is) f (cs ++ text) = (do
      let f ← f.enter (i.told m)
      readItems is f text)) : Flows m (i :: is) (cs ++ text) where
  written := by
    rw [writeItems_cons written, tail.written]
    rfl
  opens := by
    intro c head
    rw [opening]
    rcases i.opens_of_write keeps written with ⟨rfl, silent⟩ | ⟨d, front, kind⟩
    · rw [if_pos silent]
      exact List.mem_append_right _ (tail.opens c head)
    · cases cs with
      | nil => cases front
      | cons e cs =>
          cases front
          cases head
          exact List.mem_append_left _ kind
  read := by
    intro seen one
    have whole : seen ++ i :: is = seen ++ [i] ++ is := by rw [List.append_assoc]; rfl
    rw [taken, enter_ofItems keeps (findSome?_of_count one)]
    rw [whole] at one ⊢
    exact tail.read (seen ++ [i]) one

/-- Items that pass the check write a text that is read back. -/
theorem exists_flows (fluent : isFluent is = true) (keeps : ∀ i ∈ is, i.Keeps m) :
    ∃ text, Flows m is text := by
  induction is with
  | nil => exact ⟨[], flows_nil m⟩
  | cons i is ih =>
      rw [isFluent, Bool.and_eq_true, Bool.or_eq_true] at fluent
      obtain ⟨text, tail⟩ := ih fluent.2 fun j hj => keeps j (List.mem_cons_of_mem i hj)
      have first := keeps i (List.mem_cons_self ..)
      obtain ⟨cs, written, back⟩ := Item.read_back first
      refine ⟨cs ++ text, tail.cons first written ?_⟩
      intro f
      rcases fluent.1 with ends | runs
      · have read := back text (Item.ends_of_endsBefore ends tail.opens)
        rw [reader_of_endsBefore ends] at read
        exact readItems_cons read is f
      · unfold Item.runsInto at runs
        split at runs
        · cases written
          exact readItems_blank_number _ _ _ f first
        · cases runs

end DateLayout.Strftime
