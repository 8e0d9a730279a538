/-!
# Counts

Counts of results and their ranks are words of 64 bits without sign. The end of a window is a sum
of counts, and stops at the largest one.
-/

namespace FieldSearch

/-- The largest count. -/
def maxCount : Nat := UInt64.size - 1

/-- The sum of two counts, or the largest count beyond it. -/
def saturatingAdd (m n : Nat) : Nat := min (m + n) maxCount

end FieldSearch
