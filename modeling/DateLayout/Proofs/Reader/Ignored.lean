import DateLayout.Proofs.Reader.Zones
import DateLayout.Proofs.Scan.Spellings

/-!
# What reading ignores

The name of a zone and the name of a weekday stand in a text without saying anything of its moment.
Two texts that differ in such a name alone are read with one layout; what has to be seen is that
the two readings come together again. The name of a zone is skipped up to the white space behind
it, and from there on the readings are the same. The name of a weekday is taken whole, in any
letter case (`readName_of_letters`), and leaves the fields different in the weekday. The induction
over the items behind it carries just that difference (`readItems_onWeekday`); a second weekday
would be compared with the first, so there may be none. Defaults forget the weekday before
anything is resolved.

That the outcomes are the same is said apart from the text that an error cites (`SameOutcome`).
-/

namespace DateLayout

open DateLayout.Calendar DateLayout.Strftime DateLayout.Text

/-- The same result or the same error, but for the text that an error cites. -/
inductive SameOutcome {β : Type} : Except LayoutError β → Except LayoutError β → Prop where
  | same (outcome : Except LayoutError β) : SameOutcome outcome outcome
  | notReadable (native text text' : String) (fault : Fault) :
      SameOutcome (.error (.notReadable native text fault))
        (.error (.notReadable native text' fault))

namespace Strftime

variable {f g : Fields} {i : Item} {is : List Item} {entry : Entry} {cs ds rest : List Char}

/-! ## Fields with another weekday -/

def Fields.onWeekday (w : Option Weekday) (f : Fields) : Fields :=
  { f with weekday := w }

def Entry.isWeekday : Entry → Bool
  | .weekday _ => true
  | _ => false

theorem Fields.setNumber_onWeekday (w : Option Weekday) (f : Fields) (field : NumberField)
    (n : Int) : (f.onWeekday w).setNumber field n = (f.setNumber field n).map (onWeekday w) := by
  cases field with
  | hour =>
      simp only [setNumber, setHour, setAfterNoon, onWeekday]
      split
      · generalize settle f.afterNoon _ = half
        cases half with
        | error fault => rfl
        | ok half =>
            simp only [bind, Except.bind, pure, Except.pure]
            generalize settle f.hourOfHalfDay _ = dial
            cases dial <;> rfl
      · rfl
  | hourOfHalfDay =>
      simp only [setNumber, setDialHour, onWeekday]
      split
      · generalize settle f.hourOfHalfDay _ = dial
        cases dial <;> rfl
      · rfl
  | timestamp =>
      simp only [setNumber, setTimestamp, onWeekday]
      generalize settle f.timestamp _ = value
      cases value <;> rfl
  | _ =>
      simp only [setNumber, setYear, setCentury, setYearOfCentury, setMonth, setDay, setDayOfYear,
        setQuarter, setIsoYear, setIsoYearOfCentury, setIsoWeek, setWeekFromSunday,
        setWeekFromMonday, setMinute, setSecond, setNanosecond, onWeekday]
      generalize settleWithin _ _ _ _ = value
      cases value <;> rfl

/-- Nothing but a weekday is compared with the weekday. -/
theorem Fields.enter_onWeekday (w : Option Weekday) (f : Fields)
    (other : entry.isWeekday = false) :
    (f.onWeekday w).enter entry = (f.enter entry).map (onWeekday w) := by
  cases entry with
  | nothing => rfl
  | number field n => exact setNumber_onWeekday w f field n
  | weekday => cases other
  | meridiem afterNoon =>
      simp only [enter, setAfterNoon, onWeekday]
      generalize settle f.afterNoon _ = value
      cases value <;> rfl
  | offset seconds =>
      simp only [enter, setOffset, onWeekday]
      generalize settle f.offset _ = value
      cases value <;> rfl

theorem Item.Gives.isWeekday_eq (h : i.Gives entry) : entry.isWeekday = i.isWeekday := by
  cases i with
  | literal | blank | timeMark | zoneName =>
      obtain rfl := h
      rfl
  | number | monthName | weekdayName | weekdayNumber | meridiem | bareFraction =>
      obtain ⟨_, rfl⟩ := h
      rfl
  | fraction | fixedFraction =>
      obtain rfl | ⟨n, rfl⟩ := h
      · rfl
      · rfl
  | offset form =>
      obtain ⟨seconds, rfl, -⟩ := h
      rfl
  | unknown => exact h.elim

/-- Items without a weekday read the same whatever the weekday is. -/
theorem readItems_onWeekday (w : Option Weekday) (f : Fields) (cs : List Char)
    (others : is.any Item.isWeekday = false) :
    readItems is (f.onWeekday w) cs = (readItems is f cs).map (Fields.onWeekday w) := by
  induction is generalizing f cs with
  | nil =>
      rw [readItems, readItems]
      split <;> rfl
  | cons i is ih =>
      rw [List.any_cons, Bool.or_eq_false_iff] at others
      rw [readItems, readItems]
      cases taken : i.read cs with
      | error fault => rfl
      | ok result =>
          obtain ⟨entry, back⟩ := result
          have other : entry.isWeekday = false :=
            (Item.gives_of_read taken).isWeekday_eq.trans others.1
          simp only [bind, Except.bind, Fields.enter_onWeekday w f other]
          cases f.enter entry with
          | error fault => rfl
          | ok f' => exact ih f' back others.2

/-! ## Names in any letter case -/

/-- A name is read by its letters, and taken off with as many of them. -/
theorem readName_sameLetters {form : NameForm} {names : List (List Char)} {k : Nat}
    (same : SameLetters cs ds) (read : readName form names cs = .ok (k, rest)) :
    ∃ taken, rest = cs.drop taken ∧ readName form names ds = .ok (k, ds.drop taken) := by
  have fits : ∀ text, startsWith cs text = startsWith ds text := startsWith_of_sameLetters same
  have behind : ∀ text, startsWith (cs.drop 3) text = startsWith (ds.drop 3) text :=
    startsWith_of_sameLetters (same.drop 3)
  unfold readName at read ⊢
  rw [← same.byteCount_eq]
  split at read
  · cases read
  · next enough =>
      simp only [if_neg enough, ← fits, ← behind]
      split at read
      · cases read
      · next j found =>
          simp only [] at read
          split at read
          · next long =>
              cases read
              exact ⟨_, List.drop_drop, by rw [if_pos long, List.drop_drop]⟩
          · next short =>
              cases read
              exact ⟨3, rfl, if_neg short⟩

/-- A name in other letter case is taken like the name itself. -/
theorem readName_of_letters {names : List (List Char)} (distinct : Distinct names)
    (form : NameForm) {k : Nat} {name : List Char} (h : names[k]? = some name)
    (letters : SameLetters cs (form.apply name)) (c : Char) (rest : List Char) :
    readName form names (cs ++ c :: rest) = .ok (k, c :: rest) := by
  have whole : SameLetters (form.apply name ++ c :: rest) (cs ++ c :: rest) :=
    SameLetters.append letters.symm rfl
  obtain ⟨taken, left, read⟩ := readName_sameLetters whole (readName_apply distinct form h _)
  have size := congrArg List.length left
  rw [List.length_drop, List.length_append, List.length_cons] at size
  have all : taken = cs.length := by
    rw [letters.length_eq]
    omega
  rw [read, all, List.drop_left]

/-! ## One item in front of the others -/

/-- The name of a zone is skipped. -/
theorem readItems_zoneName {word : List Char} (word_solid : ∀ c ∈ word, isBlank c = false)
    (is : List Item) (f : Fields) {c : Char} (blank : isBlank c = true) (rest : List Char) :
    readItems (.zoneName :: is) f (word ++ c :: rest) = readItems is f (c :: rest) := by
  have skipped : (word ++ c :: rest).dropWhile (fun c => !isBlank c) = c :: rest := by
    rw [List.dropWhile_append_of_pos (by simpa using word_solid), List.dropWhile_cons, blank]
    rfl
  rw [readItems_cons (i := .zoneName) rfl, skipped]
  rfl

/-- The name of a weekday is in the fields after it, and nothing else is. -/
theorem readItems_weekdayName {form : NameForm} {full name : List Char}
    (known : full ∈ weekdayNames) (letters : SameLetters name (form.apply full))
    (others : is.any Item.isWeekday = false) (c : Char) (rest : List Char) :
    ∃ w, readItems (.weekdayName form :: is) .empty (name ++ c :: rest) =
      (readItems is .empty (c :: rest)).map (Fields.onWeekday (some w)) := by
  obtain ⟨k, lt, here⟩ := List.getElem_of_mem known
  have read := readName_of_letters distinct_weekdayNames form
    (List.getElem?_eq_some_iff.2 ⟨lt, here⟩) letters c rest
  refine ⟨Weekday.ofMonday k, ?_⟩
  rw [readItems_cons (Item.read_weekdayName read)]
  exact readItems_onWeekday (some (Weekday.ofMonday k)) .empty (c :: rest) others

end Strftime

/-! ## One word in front of a layout -/

/-- A word of the standard language and the item that it is read with. -/
def Grammar.ReadWith (word : String) (i : Item) : Prop :=
  ∃ u ∈ Grammar.standard.tokens, u.SpelledBy word.toList ∧ u.item? .parsing = some i

instance (word : String) (i : Item) : Decidable (Grammar.ReadWith word i) :=
  inferInstanceAs (Decidable (∃ u ∈ Grammar.standard.tokens, _))

/-- The word for a weekday in one of its forms. -/
def weekdayWord : NameForm → String
  | .short => "www"
  | .long => "wwww"

theorem readWith_zoneName : Grammar.ReadWith "zzz" .zoneName := by decide

theorem readWith_weekdayName (form : NameForm) :
    Grammar.ReadWith (weekdayWord form) (.weekdayName form) := by
  cases form <;> decide

theorem table_weekday : Table ["wwww", "www"] Item.isWeekday := by decide

theorem toList_spaced (word text : String) :
    (word ++ " " ++ text).toList = word.toList ++ ' ' :: text.toList := by
  rw [String.toList_append, String.toList_append, List.append_assoc]
  rfl

variable {t : Translator} {layout text text' native word : String} {i : Item} {ps : List Piece}

/-- A token with a space behind it does not change how the rest of the layout is read. -/
theorem Grammar.Reads.cons_spaced {u : Token} {spelling rest : List Char}
    (tail : standard.Reads rest ps) (known : u ∈ standard.tokens) (spelled : u.SpelledBy spelling) :
    standard.Reads (spelling ++ ' ' :: rest) (.token u spelling :: .plain ' ' :: ps) := by
  have between : Separator ' ' := by decide
  have behind : standard.Reads (' ' :: rest) (.plain ' ' :: ps) :=
    .plain between.notEscape (fun t => not_picks_separator between _ t) tail
  obtain ⟨cls, hc, hu⟩ := List.mem_flatMap.1 known
  refine behind.cons_token hc hu spelled ?_
  intro d head v hv
  obtain rfl : ' ' = d := Option.some.inj head
  exact separator_stops between hc hv

/-- Without a letter of theirs in the layout there are no tokens with the names. -/
theorem Grammar.Reads.shows_eq_false {g : Grammar} {input : List Char} {names : List String}
    {c : Char} (h : g.Reads input ps) (letter : ∀ name ∈ names, c ∈ name.toList.map Char.toLower)
    (absent : c ∉ input.map Char.toLower) : shows names ps = false := by
  refine List.any_eq_false.2 fun p mem named => absent ?_
  cases p with
  | escaped | lastEscape | plain => cases named
  | token u spelling =>
      obtain ⟨before, after, rfl⟩ := List.append_of_mem mem
      have among : c ∈ spelling.map Char.toLower := by
        have here := h.split.1
        generalize sourceOf (.token u spelling :: after) = rest at here
        cases here with
        | token other picked spelled =>
            rw [spelled]
            exact letter u.text (List.contains_iff_mem.1 named)
      rw [← h.source_eq, sourceOf_append, sourceOf_cons, Piece.source, List.map_append,
        List.map_append]
      exact List.mem_append_right _ (List.mem_append_left _ among)

/-- Which weekdays are read behind the space can be seen from the tokens. -/
theorem any_isWeekday_eq_shows {input : List Char} (reads : Grammar.standard.Reads input ps)
    (plain : ∀ p ∈ ps, p.ordinal? = none) :
    (items (nativeOf .parsing (.plain ' ' :: ps)).toList).any Item.isWeekday =
      shows ["wwww", "www"] ps := by
  have known : Known (.plain ' ' :: ps) := by
    intro u spelling mem
    rcases List.mem_cons.1 mem with same | mem
    · cases same
    · exact reads.known u spelling mem
  rw [any_items_eq_shows .parsing table_weekday (fun _ => Item.kind_reader rfl)
    (kind_of_isText (fun _ => rfl) fun _ => rfl) known (List.forall_mem_cons.2 ⟨rfl, plain⟩)]
  rfl

namespace Translator

/-- The item of the word in front is the first one, and the others come of the rest. -/
theorem exists_items_of_nativeOf (standard : t.grammar = .standard) (here : Grammar.ReadWith word i)
    (unknown : WellKnown.find? (word ++ " " ++ layout) t.tier = none)
    (h : t.nativeOf (word ++ " " ++ layout) = .ok native) :
    ∃ ps, Grammar.standard.Reads layout.toList ps ∧ (∀ p ∈ ps, p.ordinal? = none) ∧
      items native.toList =
        i :: items (DateLayout.nativeOf .parsing (.plain ' ' :: ps)).toList := by
  obtain ⟨u, known, spelled, item⟩ := here
  obtain ⟨ps, tail⟩ := Grammar.standard.exists_reads layout.toList
  have reads := tail.cons_spaced known spelled
  rcases t.exists_source_of_nativeOf h with ⟨known, found, -⟩ | ⟨-, qs, reads', plain, rfl⟩
  · rw [unknown] at found
    cases found
  · rw [standard, toList_spaced] at reads'
    obtain rfl := reads'.unique reads
    refine ⟨ps, tail, ?_, ?_⟩
    · intro p mem
      exact plain p (List.mem_cons_of_mem _ (List.mem_cons_of_mem _ mem))
    · rw [nativeOf_toList_cons, items_of_item? item]

theorem sameOutcome_of_readFields
    (same : ∀ native, t.nativeOf layout = .ok native →
      Reader.readFields native text = Reader.readFields native text') :
    SameOutcome (t.parsed layout text) (t.parsed layout text') ∧
      ∀ zone, SameOutcome (t.parsedIn layout text zone) (t.parsedIn layout text' zone) := by
  have cited : ∀ {β : Type} (native : String) (result : Except Fault β),
      SameOutcome (result.mapError (.notReadable native text))
        (result.mapError (.notReadable native text')) := by
    intro β native result
    cases result with
    | ok b => exact .same (.ok b)
    | error fault => exact .notReadable native text text' fault
  unfold parsed parsedIn
  cases found : t.nativeOf layout with
  | error e => exact ⟨.same _, fun _ => .same _⟩
  | ok native =>
      have fields := same native found
      have moment : Reader.readMoment native text = Reader.readMoment native text' := by
        rw [Reader.readMoment, Reader.readMoment, fields]
      have moments : ∀ zone,
          Reader.readMomentIn native text zone = Reader.readMomentIn native text' zone := by
        intro zone
        rw [Reader.readMomentIn, Reader.readMomentIn, fields]
      simp only [bind, Except.bind, moment, moments]
      exact ⟨cited native _, fun zone => cited native _⟩

end Translator

/-! ## Names that are ignored -/

/-- The English name of a weekday in full or cut to three letters, in any letter case. -/
def IsWeekdayName (form : NameForm) (name : String) : Prop :=
  ∃ full ∈ weekdayNames, SameLetters name.toList (form.apply full)

instance (form : NameForm) (name : String) : Decidable (IsWeekdayName form name) :=
  inferInstanceAs (Decidable (∃ full ∈ weekdayNames, _))

/-- Two texts that reading with a layout makes no difference between. -/
structure ReadAlike (t : Translator) (j j' : Journal) (layout text text' : String) : Prop where
  parse : SameOutcome ((t.parse layout text).runOn j).1 ((t.parse layout text').runOn j').1
  parseIn : ∀ zone,
    SameOutcome ((t.parseIn layout text zone).runOn j).1 ((t.parseIn layout text' zone).runOn j').1

namespace Reader

variable {is : List Item} {name : String}

theorem readFields_zoneName (first : items native.toList = .zoneName :: is)
    (word_solid : ∀ c ∈ word.toList, isBlank c = false) (text : String) :
    readFields native (word ++ " " ++ text) =
      readItems is .empty (' ' :: text.toList) >>= Fields.fillDefaults := by
  rw [readFields, Strftime.read, first, toList_spaced, readItems_zoneName word_solid is _ rfl]

theorem readFields_weekdayName {form : NameForm}
    (first : items native.toList = .weekdayName form :: is)
    (others : is.any Item.isWeekday = false) (named : IsWeekdayName form name) (text : String) :
    readFields native (name ++ " " ++ text) =
      readItems is .empty (' ' :: text.toList) >>= Fields.fillDefaults := by
  obtain ⟨full, known, letters⟩ := named
  obtain ⟨w, read⟩ := readItems_weekdayName known letters others ' ' text.toList
  rw [readFields, Strftime.read, first, toList_spaced, read]
  cases readItems is .empty (' ' :: text.toList) <;> rfl

end Reader

theorem ReadAlike.of_readFields {j j' : Journal} (faithful : j.cache.Faithful t)
    (faithful' : j'.cache.Faithful t)
    (same : ∀ native, t.nativeOf layout = .ok native →
      Reader.readFields native text = Reader.readFields native text') :
    ReadAlike t j j' layout text text' := by
  obtain ⟨parsed, parsedIn⟩ := Translator.sameOutcome_of_readFields same
  refine ⟨?_, fun zone => ?_⟩
  · rw [(t.settles_parse layout text j faithful).1, (t.settles_parse layout text' j' faithful').1]
    exact parsed
  · rw [(t.settles_parseIn layout text zone j faithful).1,
      (t.settles_parseIn layout text' zone j' faithful').1]
    exact parsedIn zone

/-- A name in front of a text that says nothing of the moment has no influence on reading it: the
name of a zone, whatever it is, and the name of a weekday where it is the only one, whether or not
it is the one of the date. -/
theorem readAlike_of_names (t : Translator) (standard : t.grammar = .standard)
    (layout text : String) (j j' : Journal) (faithful : j.cache.Faithful t)
    (faithful' : j'.cache.Faithful t) :
    (∀ word word' : String, (∀ c ∈ word.toList, isBlank c = false) →
      (∀ c ∈ word'.toList, isBlank c = false) →
      ReadAlike t j j' ("zzz" ++ " " ++ layout) (word ++ " " ++ text) (word' ++ " " ++ text)) ∧
    ((∀ ps, Grammar.standard.Reads layout.toList ps → shows ["wwww", "www"] ps = false) →
      ∀ form name name', IsWeekdayName form name → IsWeekdayName form name' →
        ReadAlike t j j' (weekdayWord form ++ " " ++ layout) (name ++ " " ++ text)
          (name' ++ " " ++ text)) := by
  refine ⟨?_, ?_⟩
  · intro word word' solid solid'
    refine .of_readFields faithful faithful' fun native found => ?_
    have unknown : WellKnown.find? ("zzz" ++ " " ++ layout) t.tier = none :=
      WellKnown.find?_eq_none_of_head (by simp)
    obtain ⟨ps, -, -, first⟩ :=
      Translator.exists_items_of_nativeOf standard readWith_zoneName unknown found
    rw [Reader.readFields_zoneName first solid, Reader.readFields_zoneName first solid']
  · intro single form name name' named named'
    refine .of_readFields faithful faithful' fun native found => ?_
    have unknown : WellKnown.find? (weekdayWord form ++ " " ++ layout) t.tier = none :=
      WellKnown.find?_eq_none_of_head (by cases form <;> simp [weekdayWord])
    obtain ⟨ps, reads, plain, first⟩ :=
      Translator.exists_items_of_nativeOf standard (readWith_weekdayName form) unknown found
    have others := (any_isWeekday_eq_shows reads plain).trans (single ps reads)
    rw [Reader.readFields_weekdayName first others named,
      Reader.readFields_weekdayName first others named']

/-- The name of a zone and none, and two weekdays for a date that is neither of them. -/
theorem readAlike_of_names_leapDay :
    Translator.standard.grammar = .standard ∧
      (Journal.start .enabled).cache.Faithful .standard ∧
      (Journal.start .disabled).cache.Faithful .standard ∧
      (∀ c ∈ "Västeuropa".toList, isBlank c = false) ∧ (∀ c ∈ "".toList, isBlank c = false) ∧
      ReadAlike .standard (.start .enabled) (.start .disabled) ("zzz" ++ " " ++ "yyyy-mm-dd")
        ("Västeuropa" ++ " " ++ "2024-02-29") ("" ++ " " ++ "2024-02-29") ∧
      (∀ ps, Grammar.standard.Reads "yyyy-mm-dd".toList ps → shows ["wwww", "www"] ps = false) ∧
      IsWeekdayName .long "MONDAY" ∧ IsWeekdayName .long "friday" ∧
      ReadAlike .standard (.start .enabled) (.start .disabled)
        (weekdayWord .long ++ " " ++ "yyyy-mm-dd") ("MONDAY" ++ " " ++ "2024-02-29")
        ("friday" ++ " " ++ "2024-02-29") := by
  have zone : "Västeuropa".toList.any isBlank = false := by decide
  have solid : ∀ c ∈ "Västeuropa".toList, isBlank c = false :=
    fun c mem => Bool.eq_false_iff.2 (List.any_eq_false.1 zone c mem)
  have solid' : ∀ c ∈ "".toList, isBlank c = false := List.forall_mem_nil _
  have single : ∀ ps, Grammar.standard.Reads "yyyy-mm-dd".toList ps →
      shows ["wwww", "www"] ps = false :=
    fun _ reads => reads.shows_eq_false (c := 'w') (by decide) (by decide)
  have monday : IsWeekdayName .long "MONDAY" := by decide
  have friday : IsWeekdayName .long "friday" := by decide
  obtain ⟨zones, weekdays⟩ := readAlike_of_names .standard rfl "yyyy-mm-dd" "2024-02-29"
    (.start .enabled) (.start .disabled) (faithful_enabled .standard) (faithful_disabled .standard)
  exact ⟨rfl, faithful_enabled _, faithful_disabled _, solid, solid', zones _ _ solid solid',
    single, monday, friday, weekdays single .long _ _ monday friday⟩

end DateLayout
