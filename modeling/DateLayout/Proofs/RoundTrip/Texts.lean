import DateLayout.Proofs.RoundTrip.Spaced
import DateLayout.Proofs.Strftime.Gathering
import DateLayout.Proofs.Strftime.Runs

/-!
# Texts of spaced layouts

What a spaced layout writes of a moment, and that its native layout for reading takes this text
up from front to back. The induction is on the shape of the layout. It carries three things
(`Told`): there is a text, it begins as the layout does, and reading it adds to what is known
just what the tokens tell. How the text begins matters, because reading a number, a zone name or
white space goes on for as long as it can; the separators are what stops it.
-/

namespace DateLayout

open DateLayout.Calendar DateLayout.Strftime DateLayout.Text

/-- The item that the native layout of a token consists of. -/
def Token.item? (t : Token) (mode : Mode) : Option Item :=
  (t.native? mode).bind fun native =>
    match native.toList with
    | '%' :: cs =>
        match specifier cs with
        | ([i], []) => if i = .unknown then none else some i
        | _ => none
    | _ => none

/-- The item that a piece writes with, if it is a token. -/
def Piece.item? : Piece → Option Item
  | .token t _ => t.item? .formatting
  | _ => none

def itemsOf (ps : List Piece) : List Item :=
  ps.filterMap Piece.item?

/-! ## The native layouts of the standard language -/

def fractionNames : List String :=
  [".000", ".000000", ".000000000", ".999", ".999999", ".999999999"]

/-- The tokens of the standard language that have a native layout, and the items that they write
with. -/
def standardItems : List (String × Item) :=
  [("yyyy", .number .year .zero), ("yy", .number .yearOfCentury .zero),
    ("mmmm", .monthName .long), ("mmm", .monthName .short), ("mm", .number .month .zero),
    ("m", .number .month .none), ("ddd", .number .dayOfYear .zero), ("dd", .number .day .zero),
    ("d", .number .day .none), ("wwww", .weekdayName .long), ("www", .weekdayName .short),
    ("hhh", .number .hour .zero), ("hh", .number .hourOfHalfDay .zero),
    ("h", .number .hourOfHalfDay .none), ("aa", .meridiem .upper), ("a", .meridiem .lower),
    ("ii", .number .minute .zero), ("i", .number .minute .none),
    ("ss", .number .second .zero), ("s", .number .second .none),
    (".000000000", .fixedFraction 9), (".000000", .fixedFraction 6), (".000", .fixedFraction 3),
    (".999999999", .fraction), (".999999", .fraction), (".999", .fraction),
    ("zzzz", .offset .colon), ("zzz", .zoneName), ("zhh", .offset .hours), ("zz", .offset .plain),
    ("zh", .offset .hours), ("z", .offset .colon)]

namespace Grammar

theorem item_mem_standardItems : ∀ t ∈ standard.tokens, t.ordinal? = none →
    (t.item? .formatting).any (fun i => standardItems.contains (t.text, i)) = true := by decide

theorem item_parsing : ∀ t ∈ standard.tokens,
    t.item? .parsing = (t.item? .formatting).map Item.reader := by decide

theorem secondTokens_plain : ∀ t ∈ secondTokens,
    t.ordinal? = none ∧ t ∉ fractionTokens ∧ ["ss", "s"].contains t.text = true := by decide

theorem fractionTokens_named : ∀ t ∈ fractionTokens,
    t.ordinal? = none ∧ fractionNames.contains t.text = true := by decide

theorem not_named_fraction : ∀ t ∈ standard.tokens, t ∉ fractionTokens →
    fractionNames.contains t.text = false := by decide

theorem exists_item {t : Token} (h : t ∈ standard.tokens) (native : t.ordinal? = none) :
    ∃ i, t.item? .formatting = some i ∧ t.item? .parsing = some i.reader ∧
      (t.text, i) ∈ standardItems := by
  have listed := item_mem_standardItems t h native
  have reader := item_parsing t h
  cases item : t.item? .formatting with
  | none =>
      rw [item] at listed
      cases listed
  | some i =>
      rw [item] at listed reader
      exact ⟨i, rfl, reader, List.contains_iff_mem.1 listed⟩

end Grammar

theorem solid_of_listed : ∀ e ∈ standardItems,
    fractionNames.contains e.1 = false → e.2.isSolid = true ∧ e.2.isFraction = false := by decide

theorem second_of_listed : ∀ e ∈ standardItems,
    ["ss", "s"].contains e.1 = true → e.2.isNumber .second = true := by decide

theorem fraction_of_listed : ∀ e ∈ standardItems, fractionNames.contains e.1 = true →
    e.2 ∈ [.fraction, .fixedFraction 3, .fixedFraction 6, .fixedFraction 9] := by decide

theorem zoneName_of_listed : ∀ e ∈ standardItems, e.2 = .zoneName → e.1 = "zzz" := by decide

theorem hours_of_listed : ∀ e ∈ standardItems,
    e.2 = .offset .hours → e.1 = "zh" ∨ e.1 = "zhh" := by decide

theorem common_of_listed : ∀ e ∈ standardItems,
    e.2.isCommon = true ∨ e.2 = .offset .hours := by decide

theorem items_of_item? {t : Token} {mode : Mode} {i : Item} (h : t.item? mode = some i)
    (spelling rest : List Char) :
    items (((Piece.token t spelling).native mode).toList ++ rest) = i :: items rest := by
  obtain ⟨native, hn, hi⟩ := Option.bind_eq_some_iff.1 h
  rw [Piece.native, hn, Option.getD_some]
  split at hi
  · next cs hcs =>
      split at hi
      · next j single =>
          split at hi
          · cases hi
          · next known =>
              cases hi
              rw [hcs]
              exact items_specifier single known rest
      · cases hi
  · cases hi

theorem nativeOf_toList_cons (mode : Mode) (p : Piece) (ps : List Piece) :
    (nativeOf mode (p :: ps)).toList = (p.native mode).toList ++ (nativeOf mode ps).toList := by
  rw [nativeOf_cons, String.toList_append]

/-! ## Separators -/

variable {c : Char} {cs rest : List Char} {f : Fields} {s : Stamp}

theorem plainNative_toList (c : Char) :
    (plainNative c).toList = if c = '%' then ['%', '%'] else [c] := by
  rw [plainNative]
  split
  · rfl
  · exact String.toList_singleton c

theorem writeItems_plainNative (c : Char) (rest : List Char) :
    writeItems (items ((plainNative c).toList ++ rest)) s =
      (writeItems (items rest) s).map (c :: ·) := by
  rw [plainNative_toList]
  split
  · next percent =>
      subst percent
      exact writeItems_percent rest
  · next other => exact writeItems_char other rest

/-- A character that stands for itself is read where the text has it too; for white space the
text must not go on with more of it than the layout. -/
theorem readItems_plainNative (f : Fields)
    (same : isBlank c = true →
      (∃ d back, rest = d :: back ∧ isBlank d = true) ∨ cs.dropWhile isBlank = cs) :
    readItems (items ((plainNative c).toList ++ rest)) f (c :: cs) =
      readItems (items rest) f cs := by
  rw [plainNative_toList]
  split
  · next percent =>
      subst percent
      exact readItems_percent rest f cs
  · next other =>
      cases hc : isBlank c with
      | true => exact readItems_blank hc f (same hc)
      | false =>
          have plain : isPlain c = true := by
            rw [isPlain, hc, bne_iff_ne.2 other]
            rfl
          exact readItems_plain plain rest f cs

/-! ## Tokens -/

variable {m : Moment} {ps : List Piece} {t u : Token} {i : Item}

/-- Moments that the tokens among pieces can write without loss that reading could not make good:
years of four digits, and offsets that the tokens for them have room for. -/
structure Fits (m : Moment) (ps : List Piece) : Prop where
  lower : 0 ≤ m.localTime.date.year
  upper : m.localTime.date.year ≤ 9999
  minutes : 60 ∣ m.offset.seconds
  hours : ∀ t spelling, .token t spelling ∈ ps → t.text = "zh" ∨ t.text = "zhh" →
    3600 ∣ m.offset.seconds

theorem Fits.tail {p : Piece} (h : Fits m (p :: ps)) : Fits m ps :=
  ⟨h.lower, h.upper, h.minutes, fun t spelling mem =>
    h.hours t spelling (List.mem_cons_of_mem p mem)⟩

theorem Token.Plain.exists_item (h : t.Plain) :
    ∃ i, t.item? .formatting = some i ∧ t.item? .parsing = some i.reader ∧
      (t.text, i) ∈ standardItems ∧ i.isSolid = true ∧ i.isFraction = false := by
  obtain ⟨i, item, reader, listed⟩ := Grammar.exists_item h.known h.native
  have other := Grammar.not_named_fraction t h.known h.whole
  obtain ⟨solid, whole⟩ := solid_of_listed _ listed other
  exact ⟨i, item, reader, listed, solid, whole⟩

theorem Fits.keeps {spelling : List Char} (fits : Fits m (.token t spelling :: ps))
    (listed : (t.text, i) ∈ standardItems) : i.Keeps m := by
  rcases common_of_listed _ listed with common | hours
  · exact Item.keeps_of_isCommon common fits.lower fits.upper fits.minutes
  · have name := hours_of_listed _ listed hours
    obtain rfl : i = .offset .hours := hours
    exact fits.hours t spelling (List.mem_cons_self ..) name

/-- How a text begins that was written with pieces. -/
def Begins (text : List Char) : List Piece → Prop
  | [] => text = []
  | .plain c :: _ => text.head? = some c
  | _ => Solid text

theorem Token.Before.exists_head {text : List Char} (h : t.Before ps) (spaced : Spaced ps)
    (begins : Begins text ps) :
    (ps = [] ∧ text = []) ∨ ∃ c qs, ps = .plain c :: qs ∧ Separator c ∧ text.head? = some c := by
  rcases h.exists_separator spaced with rfl | ⟨c, qs, rfl, between⟩
  · exact .inl ⟨rfl, begins⟩
  · exact .inr ⟨c, qs, rfl, between, begins⟩

theorem Separator.ne_point (h : Separator c) : c ≠ '.' := by
  rintro rfl
  exact h.foreign (by decide)

theorem Token.Before.noDigitAhead {text : List Char} (h : t.Before ps) (spaced : Spaced ps)
    (begins : Begins text ps) : NoDigitAhead text ∧ text.head? ≠ some '.' := by
  rcases h.exists_head spaced begins with ⟨-, rfl⟩ | ⟨c, qs, -, between, head⟩
  · exact ⟨noDigitAhead_nil, nofun⟩
  · refine ⟨?_, ?_⟩
    · intro d hd
      rw [head] at hd
      cases hd
      exact between.notDigit
    · intro point
      rw [head] at point
      cases point
      exact between.ne_point rfl

/-- A text that was written behind a token is one that the token ends before. -/
theorem Token.Before.ends (before : t.Before ps) (listed : (t.text, i) ∈ standardItems)
    (solid : i.isSolid = true) {text : List Char} (spaced : Spaced ps) (begins : Begins text ps) :
    i.Ends text := by
  have stop := before.noDigitAhead spaced begins
  cases i with
  | number field padding => exact stop.1
  | zoneName =>
      have zone := zoneName_of_listed _ listed rfl
      rcases before.exists_head spaced begins with ⟨-, rfl⟩ | ⟨c, qs, rfl, -, head⟩
      · exact nofun
      · intro d hd
        rw [head] at hd
        cases hd
        exact before.1 zone
  | offset form =>
      cases form with
      | hours =>
          have name := hours_of_listed _ listed rfl
          rcases before.exists_head spaced begins with ⟨-, nothing⟩ | ⟨c, qs, rfl, -, head⟩
          · exact nothing
          · rcases name with short | long
            · exact absurd short before.2.1
            · exact absurd long before.2.2
      | _ => trivial
  | monthName | weekdayName | weekdayNumber | meridiem | timeMark => trivial
  | literal | blank | fraction | fixedFraction | bareFraction | unknown => cases solid

/-! ## The whole text -/

/-- The pieces write the text, and reading it adds what their items tell to what was known. -/
structure Told (m : Moment) (ps : List Piece) (text : List Char) : Prop where
  written : writeItems (items (nativeOf .formatting ps).toList) m.stamp = some text
  begins : Begins text ps
  read : ∀ seen, (seen ++ itemsOf ps).countP Item.isFraction ≤ 1 →
    readItems (items (nativeOf .parsing ps).toList) (.ofItems m seen) text =
      .ok (.ofItems m (seen ++ itemsOf ps))

theorem told_nil (m : Moment) : Told m [] [] where
  written := by
    show writeItems (items []) m.stamp = _
    rw [items_nil]
    rfl
  begins := rfl
  read seen _ := by
    show readItems (items []) _ [] = .ok (.ofItems m (seen ++ []))
    rw [items_nil, List.append_nil]
    rfl

/-- White space in front of a text that begins with white space is followed by it in the layout
too. -/
theorem blank_begins {text : List Char} (spaced : Spaced ps) (begins : Begins text ps) :
    (∃ d back, (nativeOf .parsing ps).toList = d :: back ∧ isBlank d = true) ∨
      text.dropWhile isBlank = text := by
  cases text with
  | nil => exact .inr rfl
  | cons c text =>
      cases hc : isBlank c with
      | false =>
          refine .inr ?_
          rw [List.dropWhile_cons, hc]
          rfl
      | true =>
          cases spaced with
          | done => cases begins
          | @separator d qs between tail =>
              cases begins
              have other : c ≠ '%' := by
                rintro rfl
                cases hc
              refine .inl ⟨c, (nativeOf .parsing qs).toList, ?_, hc⟩
              rw [nativeOf_toList_cons, Piece.native, plainNative_toList, if_neg other]
              rfl
          | token | fraction =>
              obtain ⟨d, head, solid⟩ := begins
              cases head
              rw [hc] at solid
              cases solid

theorem told_separator {text : List Char} (spaced : Spaced ps) (tail : Told m ps text) (c : Char) :
    Told m (.plain c :: ps) (c :: text) where
  written := by
    rw [nativeOf_toList_cons, Piece.native, writeItems_plainNative, tail.written]
    rfl
  begins := rfl
  read seen one := by
    rw [nativeOf_toList_cons, Piece.native,
      readItems_plainNative _ fun _ => blank_begins spaced tail.begins]
    exact tail.read seen one

theorem readItems_item {cs text : List Char} {rest : List Item} {is seen : List Item}
    (keeps : i.Keeps m) (back : i.ReadsBack m cs) (ends : i.Ends text)
    (one : (seen ++ i :: rest).countP Item.isFraction ≤ 1) :
    readItems (i.reader :: is) (.ofItems m seen) (cs ++ text) =
      readItems is (.ofItems m (seen ++ [i])) text := by
  rw [readItems_cons (back.2 text ends), enter_ofItems keeps (findSome?_of_count one)]
  rfl

theorem itemsOf_cons_token {spelling : List Char} (item : t.item? .formatting = some i) :
    itemsOf (.token t spelling :: ps) = i :: itemsOf ps :=
  List.filterMap_cons_some item

theorem told_token {text spelling : List Char} (plain : t.Plain) (before : t.Before ps)
    (spaced : Spaced ps) (fits : Fits m (.token t spelling :: ps)) (tail : Told m ps text) :
    ∃ cs, Told m (.token t spelling :: ps) (cs ++ text) := by
  obtain ⟨i, item, reader, listed, solid, -⟩ := plain.exists_item
  have keeps := fits.keeps listed
  obtain ⟨cs, back⟩ := Item.read_back keeps
  have ends := before.ends listed solid spaced tail.begins
  refine ⟨cs, ?_, ?_, ?_⟩
  · rw [nativeOf_toList_cons, items_of_item? item, writeItems_cons back.1, tail.written]
    rfl
  · exact (Item.solid_of_write keeps solid back.1).append text
  · intro seen one
    rw [itemsOf_cons_token item] at one ⊢
    rw [nativeOf_toList_cons, items_of_item? reader, readItems_item keeps back ends one,
      tail.read (seen ++ [i]) (by rwa [List.append_assoc]), List.append_assoc]
    rfl

theorem plain_of_second (h : t ∈ Grammar.secondTokens) : t.Plain where
  known := Grammar.secondTokens_subset t h
  native := (Grammar.secondTokens_plain t h).1
  whole := (Grammar.secondTokens_plain t h).2.1

theorem exists_padding_of_second (h : t ∈ Grammar.secondTokens)
    (listed : (t.text, i) ∈ standardItems) : ∃ padding, i = .number .second padding := by
  have number := second_of_listed _ listed (Grammar.secondTokens_plain t h).2.2
  cases i with
  | number field padding =>
      have same : field = .second := of_decide_eq_true number
      exact ⟨padding, by rw [same]⟩
  | _ => cases number

/-- A fraction writes nothing or begins with its point, and reads itself back. -/
theorem exists_fraction (h : u ∈ Grammar.fractionTokens) :
    ∃ j, u.item? .formatting = some j ∧ u.item? .parsing = some j.reader ∧ j.Keeps m ∧
      (j = .fraction ∨ ∃ n, j = .fixedFraction n) := by
  obtain ⟨native, named⟩ := Grammar.fractionTokens_named u h
  obtain ⟨j, item, reader, listed⟩ :=
    Grammar.exists_item (Grammar.fractionTokens_subset u h) native
  refine ⟨j, item, reader, ?_⟩
  have kinds := fraction_of_listed _ listed named
  simp only [List.mem_cons, List.not_mem_nil, or_false] at kinds
  rcases kinds with rfl | rfl | rfl | rfl
  · exact ⟨trivial, .inl rfl⟩
  · exact ⟨(by decide : 3 ≤ 9), .inr ⟨3, rfl⟩⟩
  · exact ⟨(by decide : 6 ≤ 9), .inr ⟨6, rfl⟩⟩
  · exact ⟨Nat.le_refl 9, .inr ⟨9, rfl⟩⟩

theorem told_fraction {text spelling digits : List Char} (second : t ∈ Grammar.secondTokens)
    (fraction : u ∈ Grammar.fractionTokens) (before : u.Before ps) (spaced : Spaced ps)
    (fits : Fits m (.token t spelling :: .token u digits :: ps)) (tail : Told m ps text) :
    ∃ cs, Told m (.token t spelling :: .token u digits :: ps) (cs ++ text) := by
  have plain := plain_of_second second
  obtain ⟨i, item, reader, listed, solid, -⟩ := plain.exists_item
  have keeps := fits.keeps listed
  obtain ⟨cs, back⟩ := Item.read_back keeps
  obtain ⟨j, item', reader', keeps', shape⟩ := exists_fraction (m := m) fraction
  obtain ⟨ds, back'⟩ := Item.read_back keeps'
  have stop := before.noDigitAhead spaced tail.begins
  have ends' : j.Ends text := by
    rcases shape with rfl | ⟨n, rfl⟩
    · exact stop
    · trivial
  -- the second ends at the point, or at the separator if there is no fraction to write
  have ends : i.Ends (ds ++ text) := by
    obtain ⟨padding, rfl⟩ := exists_padding_of_second second listed
    rcases Item.point_of_write shape back'.1 with rfl | ⟨es, rfl⟩
    · exact stop.1
    · exact noDigitAhead_cons (by decide)
  refine ⟨cs ++ ds, ?_, ?_, ?_⟩
  · rw [nativeOf_toList_cons, nativeOf_toList_cons, items_of_item? item, items_of_item? item',
      writeItems_cons back.1, writeItems_cons back'.1, tail.written, List.append_assoc]
    rfl
  · rw [List.append_assoc]
    exact (Item.solid_of_write keeps solid back.1).append _
  · intro seen one
    have both : itemsOf (.token t spelling :: .token u digits :: ps) = i :: j :: itemsOf ps := by
      rw [itemsOf_cons_token item, itemsOf_cons_token item']
    rw [both] at one ⊢
    rw [nativeOf_toList_cons, nativeOf_toList_cons, items_of_item? reader,
      items_of_item? reader', List.append_assoc, readItems_item keeps back ends one,
      readItems_item keeps' back' ends' (by rwa [List.append_assoc]),
      tail.read (seen ++ [i] ++ [j]) (by rwa [List.append_assoc, List.append_assoc]),
      List.append_assoc, List.append_assoc]
    rfl

/-- A spaced layout writes a moment that it fits, and reads the text back. -/
theorem Spaced.exists_told (h : Spaced ps) (fits : Fits m ps) : ∃ text, Told m ps text := by
  induction h with
  | done => exact ⟨[], told_nil m⟩
  | separator between tail ih =>
      obtain ⟨text, told⟩ := ih fits.tail
      exact ⟨_, told_separator tail told _⟩
  | token plain spelled before tail ih =>
      obtain ⟨text, told⟩ := ih fits.tail
      obtain ⟨cs, both⟩ := told_token plain before tail fits told
      exact ⟨cs ++ text, both⟩
  | fraction second spelled fraction spelled' before tail ih =>
      obtain ⟨text, told⟩ := ih fits.tail.tail
      obtain ⟨cs, both⟩ := told_fraction second fraction before tail fits told
      exact ⟨cs ++ text, both⟩

end DateLayout
