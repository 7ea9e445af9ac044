/-!
# Classes of characters as ranges

A class of characters is given as closed ranges of code points. A table is data
of a standard; the only thing said about it here is what it means to be in one.
-/

namespace SchemaDocs.Text

def inRanges (ranges : List (Nat × Nat)) (n : Nat) : Bool :=
  ranges.any fun r => r.1 ≤ n && n ≤ r.2

theorem inRanges_iff {ranges : List (Nat × Nat)} {n : Nat} :
    inRanges ranges n = true ↔ ∃ r ∈ ranges, r.1 ≤ n ∧ n ≤ r.2 := by
  simp [inRanges]

end SchemaDocs.Text
