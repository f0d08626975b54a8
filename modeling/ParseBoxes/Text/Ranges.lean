/-!
# Classes of characters given by ranges

A class is a row of disjoint ranges of code points in increasing order; membership is decided by
halving.
-/

namespace ParseBoxes.Text

/-- First and last code points of ranges. -/
abbrev Ranges := Array (Nat × Nat)

namespace Ranges

/-- Looks `n` up among the ranges from `lo` on and before `hi`. -/
def search (rs : Ranges) (n : Nat) (lo hi : Nat) : Bool :=
  if _h : lo < hi then
    let mid := (lo + hi) / 2
    match rs[mid]? with
    | none => false
    | some (first, last) =>
      if n < first then rs.search n lo mid
      else if last < n then rs.search n (mid + 1) hi
      else true
  else false
termination_by hi - lo

def contains (rs : Ranges) (c : Char) : Bool := rs.search c.toNat 0 rs.size

end Ranges

end ParseBoxes.Text
