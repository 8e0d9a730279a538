import FieldSearch.Number.Integer

/-!
# Write clock

Writes are stamped with ticks that grow from write to write, even when the wall clock stands still
or goes back. The wall clock is given once and for all as the reading of every request.
-/

namespace FieldSearch

/-- A write clock: the readings of the wall clock in the order of the requests, the requests made
so far, and the last stamp handed out. -/
structure WriteClock where
  reading : Nat → Int64
  requests : Nat := 0
  last : Int64 := 0

namespace WriteClock

/-- The next stamp: the reading, or the one after the last stamp if that is later. -/
def stamp (c : WriteClock) : Int64 :=
  let successor := clampWord (c.last.toInt + 1)
  let now := c.reading c.requests
  if now.toInt < successor.toInt then successor else now

/-- The clock after the next stamp. -/
def advance (c : WriteClock) : WriteClock :=
  { c with requests := c.requests + 1, last := c.stamp }

end WriteClock

end FieldSearch
