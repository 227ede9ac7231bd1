/-!
# Sets of characters given by ranges

The character classes of this library are data: a class is the list of the closed ranges of code
points that belong to it. This module says how such a list is read.

## Main definitions

* `Text.Ranges` — a list of closed ranges of code points
* `Text.Ranges.contains` — whether a code point lies in one of them
-/

namespace ArgRules.Text

/-- Closed ranges of code points, each given by its first and its last member. -/
abbrev Ranges := List (Nat × Nat)

namespace Ranges

/-- Whether `code` lies in one of the ranges. -/
def contains (ranges : Ranges) (code : Nat) : Bool :=
  ranges.any fun range => range.1 ≤ code && code ≤ range.2

@[simp] theorem contains_nil (code : Nat) : contains [] code = false := rfl

theorem contains_iff {ranges : Ranges} {code : Nat} :
    ranges.contains code = true ↔ ∃ range ∈ ranges, range.1 ≤ code ∧ code ≤ range.2 := by
  simp [contains]

end Ranges

end ArgRules.Text
