/-!
# Sets of code points

A set of code points is kept as the ascending list of the places where membership changes: a
code point is inside if an odd number of these bounds is not above it.
-/

namespace FieldSearch

/-- A set of code points by the ascending bounds of its runs: the first code point of a run and
the first one behind it, in turn. -/
structure CodeSet where
  bounds : Array Nat

namespace CodeSet

/-- The number of bounds not above `n`, if it lies between `lo` and `hi`. -/
def rank (s : CodeSet) (n lo hi : Nat) : Nat :=
  if lo < hi then
    let mid := (lo + hi) / 2
    if s.bounds.getD mid 0 ≤ n then s.rank n (mid + 1) hi else s.rank n lo mid
  else lo
termination_by hi - lo

/-- Whether a character belongs to the set. -/
def contains (s : CodeSet) (c : Char) : Bool := s.rank c.toNat 0 s.bounds.size % 2 = 1

end CodeSet

end FieldSearch
