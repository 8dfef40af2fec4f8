/-! Sets of code points as tables of ranges.

A table is a list of inclusive ranges `(lo, hi)`. The character tables of the library are each
one such list, in increasing order and without overlaps, so that a code point is in the set
exactly when one range holds it. -/
namespace MinuteWindow.Text

/-- Whether a code point lies in one of the inclusive ranges. -/
def inRanges (rs : List (Nat × Nat)) (n : Nat) : Bool :=
  rs.any fun r => r.1 ≤ n && n ≤ r.2

theorem inRanges_iff (rs : List (Nat × Nat)) (n : Nat) :
    inRanges rs n = true ↔ ∃ r ∈ rs, r.1 ≤ n ∧ n ≤ r.2 := by
  simp [inRanges]

end MinuteWindow.Text
