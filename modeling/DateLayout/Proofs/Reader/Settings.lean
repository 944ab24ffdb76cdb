import DateLayout.Proofs.Reader.Attainable
import DateLayout.Proofs.Rendering.Layouts
import DateLayout.Proofs.WellKnown.Items

/-!
# Which fields a layout sets

A text decides what the fields hold, but hardly which of them are set: each item comes to one
entry of its kind (`exists_entries_of_readItems`), and a number is entered in its own field and no
other. So a field is set if and only if the layout has an item for it. Only a fraction can be
missing from the text that its item reads.

For the standard language this says which fields can never be set, whatever the layout: it has no
token for a century or a timestamp, and no well known layout has them either
(`Translator.any_items_eq_false`, `Translator.unset_of_read`).
-/

namespace DateLayout

open DateLayout.Calendar DateLayout.Strftime DateLayout.Text

namespace Strftime

/-- The field that a number of some kind is entered in. The hour goes to two fields, one of which
it shares. -/
def Fields.number? (f : Fields) : NumberField → Option Int
  | .year => f.year
  | .century => f.century
  | .yearOfCentury => f.yearOfCentury
  | .month => f.month
  | .day => f.day
  | .dayOfYear => f.dayOfYear
  | .quarter => f.quarter
  | .isoYear => f.isoYear
  | .isoYearOfCentury => f.isoYearOfCentury
  | .isoWeek => f.isoWeek
  | .weekFromSunday => f.weekFromSunday
  | .weekFromMonday => f.weekFromMonday
  | .minute => f.minute
  | .second => f.second
  | .nanosecond => f.nanosecond
  | .timestamp => f.timestamp
  | .hour | .hourOfHalfDay => none

/-- Numbers that are entered in a field of their own. -/
def NumberField.Single (field : NumberField) : Prop :=
  field ≠ .hour ∧ field ≠ .hourOfHalfDay

def Entry.isNumber (field : NumberField) : Entry → Bool
  | .number other _ => other = field
  | _ => false

variable {f g : Fields} {field other : NumberField} {i : Item} {is : List Item} {entry : Entry}
variable {es : List Entry} {cs : List Char} {n : Int} {native text : String}

/-! ## Entries -/

theorem Fields.isSome_number?_setNumber (single : field.Single)
    (done : f.setNumber other n = .ok g) :
    (g.number? field).isSome = ((f.number? field).isSome || decide (other = field)) := by
  cases other with
  | hour =>
      rw [setNumber, setHour] at done
      split at done
      · obtain ⟨f', half, done⟩ := exists_of_bind_ok done
        obtain ⟨afterNoon, -, half⟩ := exists_of_bind_ok half
        cases half
        obtain ⟨dial, -, done⟩ := exists_of_bind_ok done
        cases done
        cases field <;> first | exact (Bool.or_false _).symm | exact absurd rfl single.1
      · cases done
  | hourOfHalfDay =>
      rw [setNumber, setDialHour] at done
      split at done
      · obtain ⟨dial, -, done⟩ := exists_of_bind_ok done
        cases done
        cases field <;> first | exact (Bool.or_false _).symm | exact absurd rfl single.2
      · cases done
  | timestamp =>
      obtain ⟨value, set, done⟩ := exists_of_bind_ok done
      obtain rfl := settle_eq_ok set
      cases done
      cases field <;> first | exact (Bool.or_false _).symm | exact (Bool.or_true _).symm
  | _ =>
      obtain ⟨value, set, done⟩ := exists_of_bind_ok done
      obtain ⟨-, rfl⟩ := settleWithin_eq_ok set
      cases done
      cases field <;> first | exact (Bool.or_false _).symm | exact (Bool.or_true _).symm

theorem Fields.isSome_number?_enter (single : field.Single) (done : f.enter entry = .ok g) :
    (g.number? field).isSome = ((f.number? field).isSome || entry.isNumber field) := by
  cases entry with
  | nothing =>
      cases done
      exact (Bool.or_false _).symm
  | number other n => exact isSome_number?_setNumber single done
  | weekday | meridiem | offset =>
      obtain ⟨value, -, done⟩ := exists_of_bind_ok done
      cases done
      cases field <;> exact (Bool.or_false _).symm

/-- What entering one entry adds to what is known, entering several adds for each of them. -/
theorem Fields.foldlM_enter_or {known : Fields → Bool} {adds : Entry → Bool}
    (step : ∀ {f g : Fields} {entry : Entry}, f.enter entry = .ok g →
      known g = (known f || adds entry))
    (done : es.foldlM Fields.enter f = .ok g) : known g = (known f || es.any adds) := by
  induction es generalizing f with
  | nil =>
      cases done
      exact (Bool.or_false _).symm
  | cons entry es ih =>
      rw [List.foldlM_cons] at done
      obtain ⟨f', entered, done⟩ := exists_of_bind_ok done
      rw [ih done, step entered, List.any_cons, Bool.or_assoc]

/-! ## Items -/

/-- Reading with items is entering one entry for each of them. -/
theorem exists_entries_of_readItems (done : readItems is f cs = .ok g) :
    ∃ es : List Entry, es.foldlM Fields.enter f = .ok g ∧
      (∀ entry ∈ es, ∃ i ∈ is, i.Gives entry) ∧ ∀ i ∈ is, ∃ entry ∈ es, i.Gives entry := by
  induction is generalizing f cs with
  | nil =>
      rw [readItems] at done
      split at done
      · cases done
        exact ⟨[], rfl, List.forall_mem_nil _, List.forall_mem_nil _⟩
      · cases done
  | cons i is ih =>
      obtain ⟨⟨entry, cs'⟩, read, done⟩ := exists_of_bind_ok done
      obtain ⟨f', entered, done⟩ := exists_of_bind_ok done
      obtain ⟨es, folded, source, target⟩ := ih done
      have gives := Item.gives_of_read read
      refine ⟨entry :: es, ?_, ?_, ?_⟩
      · rw [List.foldlM_cons, entered]
        exact folded
      · intro e mem
        rcases List.mem_cons.1 mem with rfl | mem
        · exact ⟨i, List.mem_cons_self .., gives⟩
        · obtain ⟨j, here, gives⟩ := source e mem
          exact ⟨j, List.mem_cons_of_mem i here, gives⟩
      · intro j mem
        rcases List.mem_cons.1 mem with rfl | mem
        · exact ⟨entry, List.mem_cons_self .., gives⟩
        · obtain ⟨e, here, gives⟩ := target j mem
          exact ⟨e, List.mem_cons_of_mem entry here, gives⟩

/-- What is known after reading with items can be told from the items alone, where each of them
comes to entries of one kind. -/
theorem Fields.known_readItems {known : Fields → Bool} {adds : Entry → Bool} {tells : Item → Bool}
    (step : ∀ {f g : Fields} {entry : Entry}, f.enter entry = .ok g →
      known g = (known f || adds entry))
    (gives : ∀ {i : Item} {entry : Entry}, i.Gives entry → adds entry = tells i)
    (done : readItems is f cs = .ok g) : known g = (known f || is.any tells) := by
  obtain ⟨es, folded, source, target⟩ := exists_entries_of_readItems done
  rw [foldlM_enter_or step folded]
  refine congrArg (known f || ·) ?_
  rw [Bool.eq_iff_iff, List.any_eq_true, List.any_eq_true]
  constructor
  · rintro ⟨entry, mem, said⟩
    obtain ⟨i, here, given⟩ := source entry mem
    exact ⟨i, here, (gives given).symm.trans said⟩
  · rintro ⟨i, mem, told⟩
    obtain ⟨entry, here, given⟩ := target i mem
    exact ⟨entry, here, (gives given).trans told⟩

/-- Fractions apart, an item for a number enters it and no other item does. -/
theorem Item.Gives.isNumber_eq (h : i.Gives entry) (whole : field ≠ .nanosecond) :
    entry.isNumber field = i.isNumber field := by
  cases i with
  | literal | blank | timeMark | zoneName =>
      obtain rfl := h
      rfl
  | weekdayName | weekdayNumber | meridiem | number =>
      obtain ⟨_, rfl⟩ := h
      rfl
  | monthName =>
      obtain ⟨_, rfl⟩ := h
      exact decide_eq_decide.2 eq_comm
  | fraction | fixedFraction =>
      obtain rfl | ⟨n, rfl⟩ := h
      · rfl
      · exact decide_eq_false whole.symm
  | bareFraction =>
      obtain ⟨n, rfl⟩ := h
      exact decide_eq_false whole.symm
  | offset form =>
      obtain ⟨seconds, rfl, -⟩ := h
      rfl
  | unknown => exact h.elim

theorem Item.Gives.isFraction (h : i.Gives entry) (number : entry.isNumber .nanosecond = true) :
    i.isFraction = true := by
  cases i with
  | literal | blank | timeMark | zoneName =>
      obtain rfl := h
      cases number
  | number field padding =>
      obtain ⟨_, rfl⟩ := h
      obtain rfl : field = .nanosecond := of_decide_eq_true number
      rfl
  | monthName | weekdayName | weekdayNumber | meridiem =>
      obtain ⟨_, rfl⟩ := h
      cases number
  | fraction | fixedFraction | bareFraction => rfl
  | offset form =>
      obtain ⟨seconds, rfl, -⟩ := h
      cases number
  | unknown => exact h.elim

/-- A field is set after reading if and only if there is an item for it. -/
theorem isSome_number?_of_read (field : NumberField) (single : field.Single)
    (whole : field ≠ .nanosecond) (h : Strftime.read native text = .ok f) :
    (f.number? field).isSome = (items native.toList).any (Item.isNumber field) := by
  have empty : (Fields.empty.number? field).isSome = false := by cases field <;> rfl
  have known := Fields.known_readItems (Fields.isSome_number?_enter single)
    (fun given => given.isNumber_eq whole) h
  rw [known, empty, Bool.false_or]

/-- A fraction of a second is read by an item for one. -/
theorem any_isFraction_of_read (h : Strftime.read native text = .ok f)
    (set : f.nanosecond.isSome = true) : (items native.toList).any Item.isFraction = true := by
  obtain ⟨es, folded, source, -⟩ := exists_entries_of_readItems h
  have single : NumberField.nanosecond.Single := ⟨nofun, nofun⟩
  have known := Fields.foldlM_enter_or (Fields.isSome_number?_enter single) folded
  have number : es.any (Entry.isNumber .nanosecond) = true := known.symm.trans set
  obtain ⟨entry, mem, number⟩ := List.any_eq_true.1 number
  obtain ⟨i, here, gives⟩ := source entry mem
  exact List.any_eq_true.2 ⟨i, here, gives.isFraction number⟩

end Strftime

/-! ## The standard language -/

variable {t : Translator} {f : Fields} {layout native text : String}

theorem table_timestamp : Table [] (Item.isNumber .timestamp) := by decide

/-- No well known layout has a timestamp or a century, and a fraction comes with its second. -/
theorem WellKnown.tells_of_mem {known : WellKnown} (h : known ∈ all) :
    (items known.native.toList).any (Item.isNumber .timestamp) = false ∧
      (items known.native.toList).any (Item.isNumber .century) = false ∧
      ((items known.native.toList).any Item.isFraction = true →
        (items known.native.toList).any (Item.isNumber .second) = true) := by
  rw [← itemsWithin_eq (Nat.le_refl _)]
  revert known
  decide +kernel

namespace Translator

theorem nativeOf_of_translate {j : Journal} (faithful : j.cache.Faithful t)
    (translated : ((t.translate layout .parsing).runOn j).1 = .ok (.literal native)) :
    t.nativeOf layout = .ok native := by
  rw [(t.settles_translate layout .parsing j faithful).1] at translated
  rw [nativeOf, translated]
  rfl

theorem formOf_of_nativeOf (h : t.nativeOf layout = .ok native) :
    t.formOf layout .parsing = .ok (.literal native) := by
  obtain ⟨form, made, h⟩ := exists_of_bind_ok h
  cases form with
  | segments parts => cases h
  | literal native' =>
      cases h
      exact made

/-- The native layout that a layout is read with is a well known one or is made of pieces. -/
theorem exists_source_of_nativeOf (h : t.nativeOf layout = .ok native) :
    (∃ known, WellKnown.find? layout t.tier = some known ∧ native = known.native) ∨
      WellKnown.find? layout t.tier = none ∧ ∃ ps, t.grammar.Reads layout.toList ps ∧
        (∀ p ∈ ps, p.ordinal? = none) ∧ native = DateLayout.nativeOf .parsing ps := by
  have made := formOf_of_nativeOf h
  rw [formOf] at made
  cases found : WellKnown.find? layout t.tier with
  | some known =>
      rw [found] at made
      cases made
      exact .inl ⟨known, rfl, rfl⟩
  | none =>
      rw [found] at made
      obtain ⟨ps, reads⟩ := t.grammar.exists_reads layout.toList
      refine .inr ⟨rfl, ps, reads, ?_⟩
      by_cases plain : ordinalsOf ps = []
      · rw [Grammar.translate_literal reads plain] at made
        cases made
        exact ⟨List.filterMap_eq_nil_iff.1 plain, rfl⟩
      · obtain ⟨before, token, spelling, after, kind, rfl, first, ordinal⟩ :=
          Grammar.exists_first_ordinal plain
        have refused : t.grammar.translate layout .parsing = .error _ :=
          Grammar.translate_refused reads first ordinal
        rw [refused] at made
        cases made

/-- Items of a kind that no token and no well known layout has are in no native layout. -/
theorem any_items_eq_false (standard : t.grammar = .standard) {mode : Mode} {form : NativeForm}
    (made : t.formOf layout mode = .ok form) (mem : native ∈ form.natives) {kind : Item → Bool}
    (table : Table [] kind) (reader : ∀ i, kind i.reader = kind i)
    (other : ∀ i, i.isText = true → kind i = false)
    (tabled : ∀ known ∈ WellKnown.all, (items known.native.toList).any kind = false) :
    (items native.toList).any kind = false := by
  cases found : WellKnown.find? layout t.tier with
  | some known =>
      rw [formOf, found] at made
      cases made
      rw [NativeForm.natives, List.mem_singleton] at mem
      rw [mem]
      exact tabled known (WellKnown.mem_of_find? found)
  | none =>
      obtain ⟨ps, reads⟩ := t.grammar.exists_reads layout.toList
      rw [natives_of_formOf reads found made] at mem
      obtain ⟨group, among, rfl⟩ := List.mem_map.1 mem
      rw [standard] at reads
      rw [any_items_eq_shows mode table (fun _ => reader) other (reads.known.group among)
        (native_of_mem_groupsOf among), shows_nil]

theorem any_timestamp_eq_false (standard : t.grammar = .standard) {mode : Mode}
    {form : NativeForm} (made : t.formOf layout mode = .ok form) (mem : native ∈ form.natives) :
    (items native.toList).any (Item.isNumber .timestamp) = false :=
  any_items_eq_false standard made mem table_timestamp (Item.kind_reader rfl)
    (kind_of_isText (fun _ => rfl) fun _ => rfl)
    fun _ h => (WellKnown.tells_of_mem h).1

theorem any_century_eq_false (standard : t.grammar = .standard) {mode : Mode}
    {form : NativeForm} (made : t.formOf layout mode = .ok form) (mem : native ∈ form.natives) :
    (items native.toList).any (Item.isNumber .century) = false :=
  any_items_eq_false standard made mem table_century (Item.kind_reader rfl)
    (kind_of_isText (fun _ => rfl) fun _ => rfl)
    fun _ h => (WellKnown.tells_of_mem h).2.1

/-- No layout of the standard language gives a timestamp or a century. -/
theorem unset_of_read (standard : t.grammar = .standard) (h : t.nativeOf layout = .ok native)
    (read : Strftime.read native text = .ok f) : f.timestamp = none ∧ f.century = none := by
  have timestamp := isSome_number?_of_read .timestamp ⟨nofun, nofun⟩ nofun read
  have century := isSome_number?_of_read .century ⟨nofun, nofun⟩ nofun read
  have made := formOf_of_nativeOf h
  have mem : native ∈ (NativeForm.literal native).natives := List.mem_singleton_self native
  rw [any_timestamp_eq_false standard made mem] at timestamp
  rw [any_century_eq_false standard made mem] at century
  rw [Option.isSome_eq_false_iff, Option.isNone_iff_eq_none] at timestamp century
  exact ⟨timestamp, century⟩

/-- A fraction without its second comes of a layout that has a token for the one and none for the
other. -/
theorem shows_of_fraction_alone (standard : t.grammar = .standard)
    (h : t.nativeOf layout = .ok native) (read : Strftime.read native text = .ok f)
    (fraction : f.nanosecond ≠ none) (alone : f.second = none) :
    WellKnown.find? layout t.tier = none ∧ ∃ ps, t.grammar.Reads layout.toList ps ∧
      shows fractionNames ps = true ∧ shows ["ss", "s"] ps = false := by
  have told := any_isFraction_of_read read (Option.isSome_iff_ne_none.2 fraction)
  have untold := isSome_number?_of_read .second ⟨nofun, nofun⟩ nofun read
  rw [Fields.number?, alone] at untold
  rcases t.exists_source_of_nativeOf h with ⟨known, found, rfl⟩ | ⟨unknown, ps, reads, plain, rfl⟩
  · obtain ⟨-, -, second⟩ := WellKnown.tells_of_mem (WellKnown.mem_of_find? found)
    rw [second told] at untold
    cases untold
  · refine ⟨unknown, ps, reads, ?_⟩
    rw [standard] at reads
    rw [any_items_eq_shows .parsing table_fraction (fun _ => Item.kind_reader rfl)
      (kind_of_isText (fun _ => rfl) fun _ => rfl) reads.known plain] at told
    rw [any_items_eq_shows .parsing table_second (fun _ => Item.kind_reader rfl)
      (kind_of_isText (fun _ => rfl) fun _ => rfl) reads.known plain] at untold
    exact ⟨told, untold.symm⟩

end Translator

end DateLayout
