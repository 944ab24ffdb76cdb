import DateLayout.Grammar.Basic

/-!
# The standard layout language

`yyyy-mm-dd hhh:ii:ss` and its like: tokens are words in which a letter says what is meant and
its number how it is written. A backslash makes the next character stand for itself.
-/

namespace DateLayout.Grammar

def yearTokens : List Token :=
  [.native "yyyy" "%Y", .native "yy" "%y"]

def monthTokens : List Token :=
  [.native "mmmm" "%B", .native "mmm" "%b", .native "mm" "%m", .ordinal "mt" .month,
    .native "m" "%-m"]

def dayTokens : List Token :=
  [.native "ddd" "%j", .native "dd" "%d", .ordinal "dt" .day, .native "d" "%-d"]

def weekdayTokens : List Token :=
  [.native "wwww" "%A", .native "www" "%a"]

def hourTokens : List Token :=
  [.native "hhh" "%H", .native "hh" "%I", .native "h" "%-I"]

def meridiemTokens : List Token :=
  [.native "aa" "%p", .native "a" "%P"]

def minuteTokens : List Token :=
  [.native "ii" "%M", .native "i" "%-M"]

def secondTokens : List Token :=
  [.native "ss" "%S", .native "s" "%-S"]

/-- Fraction of the second: zeros for a fixed number of digits, nines for as many as it needs. -/
def fractionTokens : List Token :=
  [.native ".000000000" "%.9f", .native ".000000" "%.6f", .native ".000" "%.3f",
    .native ".999999999" "%.f", .native ".999999" "%.f", .native ".999" "%.f"]

/-- Zone: its offset in several forms and its name. Hours alone are written with one specifier
and read with another, since only that one reads them. -/
def zoneTokens : List Token :=
  [.native "zzzz" "%:z", .native "zzz" "%Z", .split "zhh" "%:::z" "%#z", .native "zz" "%z",
    .split "zh" "%:::z" "%#z", .native "z" "%:z"]

def standardClasses : List TokenClass :=
  [.ofTokens 'y' yearTokens, .ofTokens 'm' monthTokens, .ofTokens 'd' dayTokens,
    .ofTokens 'w' weekdayTokens, .ofTokens 'h' hourTokens, .ofTokens 'a' meridiemTokens,
    .ofTokens 'i' minuteTokens, .ofTokens 's' secondTokens, .ofTokens '.' fractionTokens,
    .ofTokens 'z' zoneTokens]

theorem text_ne_empty_of_standardClasses :
    ∀ cls ∈ standardClasses, ∀ t ∈ cls.tokens, t.text ≠ "" := by
  decide

def standard : Grammar where
  classes := standardClasses
  escape := '\\'
  text_ne_empty := text_ne_empty_of_standardClasses

end DateLayout.Grammar
