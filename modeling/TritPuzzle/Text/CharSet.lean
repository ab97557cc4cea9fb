/-!
# Sets of characters as ranges

A character class of a standard is a table of code point ranges.  `CharSet` is
such a table and `CharSet.contains` its membership test.
-/

namespace TritPuzzle

/-- A set of characters: closed ranges of code points. -/
abbrev CharSet := List (Nat × Nat)

/-- Does one of the ranges hold the character? -/
def CharSet.contains (s : CharSet) (c : Char) : Bool :=
  s.any fun r => r.1 ≤ c.toNat && c.toNat ≤ r.2

/-- A character is in a table exactly when one of its ranges holds it. -/
theorem CharSet.contains_iff {s : CharSet} {c : Char} :
    s.contains c = true ↔ ∃ r ∈ s, r.1 ≤ c.toNat ∧ c.toNat ≤ r.2 := by
  simp [CharSet.contains]

end TritPuzzle
