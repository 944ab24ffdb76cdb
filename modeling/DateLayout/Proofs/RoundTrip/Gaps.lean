import DateLayout.Proofs.RoundTrip.Layouts

/-!
# What reading skips

Behind the hours of an offset the reader skips colons and white space, and then it takes two
digits for minutes, whatever they belong to. Only at the very end of the text it does without
(`readItems_offset_taken`, `readItems_offset_refused`).

Characters of a layout that stand for themselves have to be in the text, except that white space
may be missing. So white space of which the text has nothing left makes no difference
(`readItems_separators_skipped`), and any other separator is missed
(`exists_error_of_separators`).
-/

namespace DateLayout

open DateLayout.Calendar DateLayout.Strftime DateLayout.Text

namespace Strftime

variable {o : UtcOffset} {hours : Nat} {optional : Bool} {fault : Fault} {c : Char} {is : List Item}
variable {cs rest text : List Char}

/-! ## Minutes behind hours -/

theorem readSignedOffset_refused (hh : hours < 100)
    (refused : readOffsetMinutes optional (rest.dropWhile isGap) = .error fault) :
    readSignedOffset optional (o.sign :: (twoDigits hours ++ rest)) = .error fault := by
  have refused : readOffsetMinutes optional (rest.dropWhile fun c => c == ':' || isBlank c) =
    .error fault := refused
  simp only [readSignedOffset, readSign_sign, readOffsetHours_append hh, refused, bind,
    Except.bind]

/-- Without a digit ahead there are no minutes. -/
theorem exists_error_of_readOffsetMinutes (other : c.isDigit = false) (optional : Bool)
    (rest : List Char) :
    ∃ fault, readOffsetMinutes optional (c :: rest) = .error fault := by
  have none : leadingDigits (some 2) (c :: rest) = [] := by
    rw [leadingDigits, List.take_succ_cons, List.takeWhile_cons, other]
    rfl
  rw [readOffsetMinutes, List.isEmpty_cons, Bool.and_false, if_neg Bool.false_ne_true, none]
  by_cases short : byteCount (c :: rest) < 2
  · exact ⟨.tooShort, if_pos short⟩
  · rw [if_neg short]
    exact ⟨.invalid, rfl⟩

/-- Any other character stops the search for minutes. -/
theorem exists_dropWhile_isGap (other : ∃ c ∈ cs, isGap c = false) (rest : List Char) :
    ∃ c ∈ cs, ∃ back, (cs ++ rest).dropWhile isGap = c :: back := by
  induction cs with
  | nil =>
      obtain ⟨c, mem, -⟩ := other
      cases mem
  | cons d cs ih =>
      rw [List.cons_append, List.dropWhile_cons]
      cases gap : isGap d with
      | false => exact ⟨d, List.mem_cons_self .., cs ++ rest, rfl⟩
      | true =>
          obtain ⟨c, mem, no_gap⟩ := other
          rcases List.mem_cons.1 mem with rfl | mem
          · rw [gap] at no_gap
            cases no_gap
          · obtain ⟨c', mem', back, found⟩ := ih ⟨c, mem, no_gap⟩
            exact ⟨c', List.mem_cons_of_mem d mem', back, found⟩

theorem isGap_of_isBlank (blank : ∀ c ∈ cs, isBlank c = true) : ∀ c ∈ cs, isGap c = true := by
  intro c mem
  rw [isGap, blank c mem, Bool.or_true]

theorem readItems_offset_refused (hh : hours < 100)
    (refused : readOffsetMinutes true (rest.dropWhile isGap) = .error fault) (f : Fields) :
    readItems (.offset .anyLength :: is) f (o.sign :: (twoDigits hours ++ rest)) =
      .error fault := by
  rw [readItems, Item.read, OffsetForm.read_anyLength, readSignedOffset_refused hh refused]
  rfl

theorem readItems_offset_taken {minutes : Nat} {back : List Char} (hh : hours < 100)
    (read : readOffsetMinutes true (rest.dropWhile isGap) = .ok (minutes, back)) :
    readItems (.offset .anyLength :: is) .empty (o.sign :: (twoDigits hours ++ rest)) =
      readItems is { Fields.empty with
        offset := some (if decide (o.seconds < 0) then -(hours * 3600 + minutes * 60 : Int)
          else hours * 3600 + minutes * 60) } back := by
  rw [readItems, Item.read, OffsetForm.read_anyLength, readSignedOffset_of_minutes hh read]
  rfl

/-! ## Separators that are not in the text -/

theorem writeItems_separators (cs : List Char) (ps : List Piece) (s : Stamp) :
    writeItems (items (nativeOf .formatting (cs.map .plain ++ ps)).toList) s =
      (writeItems (items (nativeOf .formatting ps).toList) s).map (cs ++ ·) := by
  induction cs with
  | nil => exact Option.map_id'.symm
  | cons c cs ih =>
      rw [List.map_cons, List.cons_append, nativeOf_toList_cons, Piece.native,
        writeItems_plainNative, ih, Option.map_map]
      rfl

/-- White space in the layout alone makes no difference. -/
theorem readItems_blank_skipped (blank : isBlank c = true) (none : text.dropWhile isBlank = text)
    (rest : List Char) (f : Fields) :
    readItems (items (c :: rest)) f text = readItems (items rest) f text := by
  have run : ∀ {c rest}, isBlank c = true → readItems (items (c :: rest)) f text =
      readItems (items (rest.dropWhile isBlank)) f text := by
    intro c rest blank
    rw [items_blank blank]
    show readItems (items (rest.dropWhile isBlank)) f (text.dropWhile isBlank) = _
    rw [none]
  rw [run blank]
  cases rest with
  | nil => rfl
  | cons d rest =>
      rw [List.dropWhile_cons]
      split
      · next more => rw [run more]
      · rfl

theorem readItems_separators_skipped (blank : ∀ c ∈ cs, isBlank c = true)
    (none : text.dropWhile isBlank = text) (ps : List Piece) (f : Fields) :
    readItems (items (nativeOf .parsing (cs.map .plain ++ ps)).toList) f text =
      readItems (items (nativeOf .parsing ps).toList) f text := by
  induction cs with
  | nil => rfl
  | cons c cs ih =>
      have first := blank c (List.mem_cons_self ..)
      have other : c ≠ '%' := by
        rintro rfl
        cases first
      rw [List.map_cons, List.cons_append, nativeOf_toList_cons, Piece.native,
        plainNative_toList, if_neg other]
      show readItems (items (c :: _)) f text = _
      rw [readItems_blank_skipped first none]
      exact ih fun d mem => blank d (List.mem_cons_of_mem c mem)

theorem exists_error_of_read_literal {d : Char} (differ : c ≠ d) (more text : List Char) :
    ∃ fault, Item.read (.literal (c :: more)) (d :: text) = .error fault := by
  have other : (c :: more).isPrefixOf (d :: text) = false := by
    rw [List.isPrefixOf_cons_cons, beq_false_of_ne differ]
    rfl
  unfold Item.read
  simp only [other]
  split
  · exact ⟨_, rfl⟩
  · exact ⟨_, rfl⟩

/-- Any other separator in the layout has to be in the text. -/
theorem exists_error_of_separators (apart : ∀ c ∈ cs, c.isDigit = false)
    (other : ∃ c ∈ cs, isBlank c = false) {d : Char} (digit : d.isDigit = true) (text : List Char)
    (ps : List Piece) (f : Fields) :
    ∃ fault, readItems (items (nativeOf .parsing (cs.map .plain ++ ps)).toList) f (d :: text) =
      .error fault := by
  have solid : (d :: text).dropWhile isBlank = d :: text := by
    rw [List.dropWhile_cons, isBlank_of_isDigit digit]
    rfl
  induction cs with
  | nil =>
      obtain ⟨c, mem, -⟩ := other
      cases mem
  | cons c cs ih =>
      have differ : c ≠ d := by
        rintro rfl
        rw [apart c (List.mem_cons_self ..)] at digit
        cases digit
      rw [List.map_cons, List.cons_append, nativeOf_toList_cons, Piece.native]
      cases blank : isBlank c with
      | true =>
          have percent : c ≠ '%' := by
            rintro rfl
            cases blank
          rw [plainNative_toList, if_neg percent]
          show ∃ fault, readItems (items (c :: _)) f (d :: text) = _
          rw [readItems_blank_skipped blank solid]
          refine ih (fun e mem => apart e (List.mem_cons_of_mem c mem)) ?_
          obtain ⟨e, mem, no_blank⟩ := other
          rcases List.mem_cons.1 mem with rfl | mem
          · rw [blank] at no_blank
            cases no_blank
          · exact ⟨e, mem, no_blank⟩
      | false =>
          have literal : ∃ more is, items ((plainNative c).toList ++
              (nativeOf .parsing (cs.map .plain ++ ps)).toList) = .literal (c :: more) :: is := by
            rw [plainNative_toList]
            split
            · next percent =>
                subst percent
                exact ⟨[], _, items_percent _⟩
            · next percent =>
                have plain : isPlain c = true := by
                  rw [isPlain, blank, bne_iff_ne.2 percent]
                  rfl
                exact ⟨_, _, items_plain plain _⟩
          obtain ⟨more, is, cut⟩ := literal
          obtain ⟨fault, refused⟩ := exists_error_of_read_literal differ more text
          rw [cut, readItems, refused]
          exact ⟨fault, rfl⟩

end Strftime

end DateLayout
