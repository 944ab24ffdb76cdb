import DateLayout.Text.Hidden

/-!
# Quoted text

How messages and log lines show a text: between double quotes, with short escapes for the quote,
the backslash and the common control characters, a code for every other hidden character, and
everything else as it stands.
-/

namespace DateLayout.Text

/-- The code of a character, as in `\u{a0}`: hexadecimal, lower case, no leading zeros. -/
def codeEscape (c : Char) : List Char :=
  ['\\', 'u', '{'] ++ Nat.toDigits 16 c.toNat ++ ['}']

def quoteChar (c : Char) : List Char :=
  match c with
  | '"' => ['\\', '"']
  | '\\' => ['\\', '\\']
  | '\n' => ['\\', 'n']
  | '\r' => ['\\', 'r']
  | '\t' => ['\\', 't']
  | '\x00' => ['\\', '0']
  | _ => if isHidden c then codeEscape c else [c]

/-- A text between double quotes, with its special characters escaped. -/
def quote (s : String) : String :=
  String.ofList (['"'] ++ s.toList.flatMap quoteChar ++ ['"'])

end DateLayout.Text
