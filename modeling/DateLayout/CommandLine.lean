import DateLayout.Translator

/-!
# The command line

`convert <text> <from layout> <to layout>` prints a text in another layout.
-/

namespace DateLayout.CommandLine

/-- What a run of the command prints, and its exit code. -/
structure Outcome where
  exitCode : Nat
  out : String
  err : String
deriving DecidableEq, Repr

def usage : String := "usage: convert <text> <from layout> <to layout>\n"

/-- A run of the command. It fails with 2 if it is not given three arguments, and with 1 if the
text cannot be converted. -/
def run (args : List String) : Outcome :=
  match args with
  | [text, source, target] =>
      match ((Translator.standard.convert text source target).runOn (.start .enabled)).1 with
      | .ok converted => ⟨0, converted ++ "\n", ""⟩
      | .error e => ⟨1, "", e.message ++ "\n"⟩
  | _ => ⟨2, "", usage⟩

end DateLayout.CommandLine
