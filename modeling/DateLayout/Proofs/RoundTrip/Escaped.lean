import DateLayout.Proofs.Rendering.Segments
import DateLayout.Proofs.WellKnown.Items

/-!
# Escaped texts

Any text can be a layout that stands for just this text: with the escape in front of each of its
characters. No token is seen in it, and no specifier, since a percent sign is doubled in the
native layout. What is left to show is that the items, which are runs of characters, write the
text and take it up again. This goes by induction over the text, one character at a time. White
space in front of more white space is the case to look at, because a run of it reads all that is
there; it does so for the layout as for the text, which are the same characters.
-/

namespace DateLayout

open DateLayout.Calendar DateLayout.Strftime DateLayout.Text

/-- The characters of a text, each behind the escape. -/
def escapedChars (escape : Char) (cs : List Char) : List Char :=
  cs.flatMap fun c => [escape, c]

/-- The layout with the escape before every character of a text. -/
def escapedText (escape : Char) (text : String) : String :=
  String.ofList (escapedChars escape text.toList)

def escapedPieces (escape : Char) (cs : List Char) : List Piece :=
  cs.map (.escaped escape)

variable {t : Translator}

theorem Grammar.reads_escaped (g : Grammar) (cs : List Char) :
    g.Reads (escapedChars g.escape cs) (escapedPieces g.escape cs) := by
  induction cs with
  | nil => exact .done
  | cons c cs ih => exact .escaped ih

theorem ordinalsOf_escapedPieces (escape : Char) (cs : List Char) :
    ordinalsOf (escapedPieces escape cs) = [] := by
  induction cs with
  | nil => rfl
  | cons c cs ih => exact ih

theorem nativeOf_escapedPieces_cons (mode : Mode) (escape c : Char) (cs : List Char) :
    (nativeOf mode (escapedPieces escape (c :: cs))).toList =
      (plainNative c).toList ++ (nativeOf mode (escapedPieces escape cs)).toList :=
  nativeOf_toList_cons mode (.escaped escape c) (escapedPieces escape cs)

theorem writeItems_escaped (mode : Mode) (escape : Char) (cs : List Char) (s : Stamp) :
    writeItems (items (nativeOf mode (escapedPieces escape cs)).toList) s = some cs := by
  induction cs with
  | nil =>
      show writeItems (items []) s = some []
      rw [items_nil]
      rfl
  | cons c cs ih =>
      rw [nativeOf_escapedPieces_cons, writeItems_plainNative, ih]
      rfl

/-- Where a text goes on with white space, so does the layout that is made of it. -/
theorem escaped_begins (mode : Mode) (escape : Char) (cs : List Char) :
    (∃ d back, (nativeOf mode (escapedPieces escape cs)).toList = d :: back ∧
      isBlank d = true) ∨ cs.dropWhile isBlank = cs := by
  cases cs with
  | nil => exact .inr rfl
  | cons c cs =>
      cases blank : isBlank c with
      | false =>
          refine .inr ?_
          rw [List.dropWhile_cons, blank]
          rfl
      | true =>
          have other : c ≠ '%' := by
            rintro rfl
            cases blank
          refine .inl ⟨c, (nativeOf mode (escapedPieces escape cs)).toList, ?_, blank⟩
          rw [nativeOf_escapedPieces_cons, plainNative_toList, if_neg other]
          rfl

theorem readItems_escaped (mode : Mode) (escape : Char) (cs : List Char) (f : Fields) :
    readItems (items (nativeOf mode (escapedPieces escape cs)).toList) f cs = .ok f := by
  induction cs with
  | nil =>
      show readItems (items []) f [] = .ok f
      rw [items_nil]
      rfl
  | cons c cs ih =>
      rw [nativeOf_escapedPieces_cons,
        readItems_plainNative f fun _ => escaped_begins mode escape cs, ih]

/-- A text without any field is read as the start of year 0, in UTC. -/
theorem readMoment_of_empty {native text : String}
    (read : Strftime.read native text = .ok .empty) :
    Reader.readMoment native text = .ok ⟨⟨⟨0, 1, 1, by decide, by decide⟩, .midnight⟩, .zero⟩ := by
  rw [Reader.readMoment, Reader.readFields, read]
  rfl

/-! ## The layout -/

/-- No well known layout begins with the escape of the standard language. -/
theorem find?_escapedText (text : String) (tier : Nat) :
    WellKnown.find? (escapedText '\\' text) tier = none := by
  refine WellKnown.find?_eq_none_of_head ?_
  rw [escapedText, String.toList_ofList]
  cases text.toList with
  | nil => exact nofun
  | cons c cs => exact fun head => absurd (Option.some.inj head) (by decide)

theorem Translator.formOf_escapedText (escape : t.grammar.escape = '\\') (text : String)
    (mode : Mode) :
    t.formOf (escapedText '\\' text) mode =
      .ok (.literal (DateLayout.nativeOf mode (escapedPieces '\\' text.toList))) := by
  have reads : t.grammar.Reads (escapedText '\\' text).toList
      (escapedPieces '\\' text.toList) := by
    rw [escapedText, String.toList_ofList, ← escape]
    exact t.grammar.reads_escaped text.toList
  rw [formOf, find?_escapedText]
  exact Grammar.translate_literal reads (ordinalsOf_escapedPieces _ _)

/-- Any text can be carried through a layout: where each of its characters stands behind the
escape, every value is written as the text, and reading the text gives the start of year 0. -/
theorem escapedText_carries (t : Translator) (escape : t.grammar.escape = '\\') (j : Journal)
    (faithful : j.cache.Faithful t) (text : String) :
    (∀ (α : Type) [Timestamp α] [Stamped α] (v : α),
      ((t.format v (escapedText '\\' text)).runOn j).1 = .ok text) ∧
      ((t.parse (escapedText '\\' text) text).runOn j).1 =
        .ok ⟨⟨⟨0, 1, 1, by decide, by decide⟩, .midnight⟩, .zero⟩ := by
  refine ⟨?_, ?_⟩
  · intro α _ _ v
    rw [(t.settles_format v _ j faithful).1, Translator.formatted, t.formOf_escapedText escape]
    refine renderNative_of_written ?_
    rw [writtenText?_eq, Strftime.write, writeItems_escaped, Option.map_some, String.ofList_toList]
  · rw [(t.settles_parse _ text j faithful).1, Translator.parsed, Translator.nativeOf,
      t.formOf_escapedText escape]
    have read := readMoment_of_empty (readItems_escaped .parsing '\\' text.toList .empty)
    show (Reader.readMoment _ text).mapError _ = _
    rw [read]
    rfl

/-- Percent signs, specifiers, tokens, the escape itself and white space of several kinds. -/
theorem escapedText_carries_percent :
    Translator.standard.grammar.escape = '\\' ∧
      (Journal.start .enabled).cache.Faithful .standard ∧
      (∀ (α : Type) [Timestamp α] [Stamped α] (v : α),
        ((Translator.standard.format v (escapedText '\\' "%Y %%\\dt\t\u3000 mmmm\\")).runOn
          (.start .enabled)).1 = .ok "%Y %%\\dt\t\u3000 mmmm\\") ∧
      ((Translator.standard.parse (escapedText '\\' "%Y %%\\dt\t\u3000 mmmm\\")
        "%Y %%\\dt\t\u3000 mmmm\\").runOn (.start .enabled)).1 =
          .ok ⟨⟨⟨0, 1, 1, by decide, by decide⟩, .midnight⟩, .zero⟩ :=
  ⟨rfl, faithful_enabled .standard,
    escapedText_carries .standard rfl (.start .enabled) (faithful_enabled .standard) _⟩

end DateLayout
