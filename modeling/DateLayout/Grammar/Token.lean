import DateLayout.Text.Ascii

/-!
# Tokens

A token is a word of a layout language and what it stands for in native layouts: a fragment to
write with and one to read with, or an ordinal number, which native layouts do not have.
-/

namespace DateLayout

inductive Mode where
  | formatting
  | parsing
deriving DecidableEq, Repr, Hashable

/-- The number that an ordinal shows: the day of the month or the month of the year. -/
inductive OrdinalKind where
  | day
  | month
deriving DecidableEq, Repr

/-- What a token stands for. -/
inductive Fragment where
  /-- Native layouts, one for each mode. They differ where reading needs another one to take back
  what was written. -/
  | native (format parse : String)
  /-- A number with its English suffix, which can be written but not read. -/
  | ordinal (kind : OrdinalKind)
deriving DecidableEq, Repr

/-- A word of a layout language. -/
structure Token where
  text : String
  fragment : Fragment
deriving DecidableEq, Repr

namespace Token

def native (text layout : String) : Token :=
  ⟨text, .native layout layout⟩

/-- A token with different native layouts for writing and reading. -/
def split (text format parse : String) : Token :=
  ⟨text, .native format parse⟩

def ordinal (text : String) (kind : OrdinalKind) : Token :=
  ⟨text, .ordinal kind⟩

def chars (t : Token) : List Char :=
  t.text.toList

def size (t : Token) : Nat :=
  Text.byteCount t.chars

/-- Whether a text begins with the token, in any case of its letters. -/
def matchesStart (t : Token) (input : List Char) : Bool :=
  Text.startsWith input t.chars

theorem length_chars_pos {t : Token} (h : t.text ≠ "") : 0 < t.chars.length := by
  rw [List.length_pos_iff, chars, ne_eq, String.toList_eq_nil_iff]
  exact h

end Token

end DateLayout
