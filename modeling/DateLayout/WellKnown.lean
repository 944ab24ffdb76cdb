/-!
# Well known native layouts

Native layouts of standards and customs, which are taken as they stand instead of being read as
layouts. Each has a tier, and a translator takes those up to its own tier.
-/

namespace DateLayout

structure WellKnown where
  name : String
  native : String
  tier : Nat
deriving DecidableEq, Repr

namespace WellKnown

def all : List WellKnown :=
  [⟨"ANSIC", "%a %b %e %H:%M:%S %Y", 0⟩,
    ⟨"RFC822", "%d %b %y %H:%M %Z", 0⟩,
    ⟨"RFC822Z", "%d %b %y %H:%M %z", 0⟩,
    ⟨"RFC850", "%A, %d-%b-%y %H:%M:%S %Z", 0⟩,
    ⟨"RFC1123", "%a, %d %b %Y %H:%M:%S %Z", 0⟩,
    ⟨"RFC1123Z", "%a, %d %b %Y %H:%M:%S %z", 0⟩,
    ⟨"RFC2822", "%a, %d %b %Y %H:%M:%S %z", 0⟩,
    ⟨"RFC3339", "%Y-%m-%dT%H:%M:%S%:z", 0⟩,
    ⟨"RFC3339Nano", "%Y-%m-%dT%H:%M:%S%.f%:z", 0⟩,
    ⟨"Kitchen", "%-I:%M%p", 0⟩,
    ⟨"Stamp", "%b %e %H:%M:%S", 0⟩,
    ⟨"StampMilli", "%b %e %H:%M:%S%.3f", 1⟩,
    ⟨"StampMicro", "%b %e %H:%M:%S%.6f", 1⟩,
    ⟨"StampNano", "%b %e %H:%M:%S%.9f", 1⟩,
    ⟨"DateTime", "%Y-%m-%d %H:%M:%S", 2⟩,
    ⟨"DateOnly", "%Y-%m-%d", 2⟩,
    ⟨"TimeOnly", "%H:%M:%S", 2⟩]

def highestTier : Nat := 2

/-- The first well known layout up to a tier that is the given text. -/
def find? (layout : String) (tier : Nat) : Option WellKnown :=
  all.find? fun known => known.native = layout && known.tier ≤ tier

theorem native_of_find? {layout : String} {tier : Nat} {known : WellKnown}
    (h : find? layout tier = some known) : known.native = layout := by
  have found := List.find?_some h
  simp only [Bool.and_eq_true, decide_eq_true_eq] at found
  exact found.1

end WellKnown

end DateLayout
