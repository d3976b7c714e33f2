/-!
# Sets of code points

A set of code points is given by its ascending ranges, both ends included, and membership is asked
of a character. The tables of the Unicode properties in this folder are such lists.
-/

namespace RouteWatch.Text

/-- The character lies in one of the ranges. -/
def inRanges (ranges : List (Nat × Nat)) (c : Char) : Bool :=
  ranges.any fun r => r.1 ≤ c.toNat && c.toNat ≤ r.2

@[simp] theorem inRanges_nil (c : Char) : inRanges [] c = false := rfl

@[simp] theorem inRanges_cons (r : Nat × Nat) (rs : List (Nat × Nat)) (c : Char) :
    inRanges (r :: rs) c = ((r.1 ≤ c.toNat && c.toNat ≤ r.2) || inRanges rs c) := rfl

end RouteWatch.Text
