import FieldSearch.Number.Integer
import FieldSearch.Time.Instant

/-!
# Ticks

A tick is 100 nanoseconds. Instants are written as ticks since the start of year 1, durations as
ticks of elapsed time, both in one signed word. Encoding an instant forms the ticks of its second,
the ticks within the second and the offset of 1970 one after the other, and every one of these
sums has to fit a word.
-/

namespace FieldSearch

/-- Ticks in a second. -/
abbrev ticksPerSecond : Int := 10000000

/-- Ticks from the start of year 1 to the start of 1970. -/
abbrev epochTicks : Int := 621355968000000000

namespace Instant

/-- The ticks of an instant, if they fit a word at every step. -/
def toTicks? (x : Instant) : Option Int64 := do
  let whole ← word? (x.seconds * ticksPerSecond)
  let relative ← word? (whole.toInt + (x.nanos / 100 : Nat))
  word? (relative.toInt + epochTicks)

/-- The instant of a tick count, if it has one. -/
def ofTicks? (t : Int64) : Option Instant := do
  let relative ← word? (t.toInt - epochTicks)
  of? (relative.toInt / ticksPerSecond) (relative.toInt % ticksPerSecond * 100).toNat

end Instant

namespace Duration

/-- The ticks of a duration, toward zero, if they fit a word. -/
def toTicks? (d : Duration) : Option Int64 := do
  let whole ← word? (d.wholeSeconds * ticksPerSecond)
  word? (whole.toInt + d.fractionNanos.tdiv 100)

/-- The duration of a tick count, from its whole seconds and the rest of its ticks, both in floor
form. -/
def ofTicks? (t : Int64) : Option Duration :=
  ofParts? (t.toInt / ticksPerSecond) (t.toInt % ticksPerSecond * 100).toNat

end Duration

end FieldSearch
