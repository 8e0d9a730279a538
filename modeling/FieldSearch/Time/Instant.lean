/-!
# Instants and durations

An `Instant` is a second counted from the start of 1970 with nanoseconds inside it. In the last
second of a minute the nanoseconds may run on through a leap second. A `Duration` is a signed
number of nanoseconds; its seconds and its fraction are both read toward zero.
-/

namespace FieldSearch

/-- Nanoseconds in a second. -/
abbrev second : Nat := 1000000000

/-- A point in time, in the proleptic Gregorian years -262143 to 262142. -/
structure Instant where
  seconds : Int
  nanos : Nat
  seconds_ge : -8334601228800 ≤ seconds
  seconds_le : seconds ≤ 8210266876799
  nanos_lt : nanos < second ∨ seconds % 60 = 59 ∧ nanos < 2 * second
deriving DecidableEq, Repr

namespace Instant

/-- The instant with the given parts, if there is one. -/
def of? (seconds : Int) (nanos : Nat) : Option Instant :=
  if hs : -8334601228800 ≤ seconds ∧ seconds ≤ 8210266876799 then
    if hn : nanos < second ∨ seconds % 60 = 59 ∧ nanos < 2 * second then
      some ⟨seconds, nanos, hs.1, hs.2, hn⟩
    else none
  else none

/-- Whether the instant lies in a leap second. -/
def isLeap (x : Instant) : Bool := second ≤ x.nanos

theorem of?_eq_some_iff {seconds : Int} {nanos : Nat} {x : Instant} :
    of? seconds nanos = some x ↔ x.seconds = seconds ∧ x.nanos = nanos := by
  constructor
  · intro h
    unfold of? at h
    split at h
    · split at h
      · obtain rfl := Option.some.inj h
        exact ⟨rfl, rfl⟩
      · cases h
    · cases h
  · rintro ⟨rfl, rfl⟩
    rw [of?, dif_pos ⟨x.seconds_ge, x.seconds_le⟩, dif_pos x.nanos_lt]

end Instant

/-- The longest duration, in nanoseconds: `2 ^ 63 - 1` milliseconds. -/
abbrev longestDuration : Int := 9223372036854775807 * 1000000

/-- A length of time in nanoseconds. -/
structure Duration where
  nanos : Int
  nanos_ge : -longestDuration ≤ nanos
  nanos_le : nanos ≤ longestDuration
deriving DecidableEq, Repr

namespace Duration

/-- The duration of so many nanoseconds, if it is not too long. -/
def of? (nanos : Int) : Option Duration :=
  if h : -longestDuration ≤ nanos ∧ nanos ≤ longestDuration then some ⟨nanos, h.1, h.2⟩ else none

/-- The duration of so many whole seconds and nanoseconds beyond them, if it is not too long. -/
def ofParts? (seconds : Int) (nanos : Nat) : Option Duration :=
  if nanos < second then of? (seconds * second + nanos) else none

/-- Whole seconds, toward zero. -/
def wholeSeconds (d : Duration) : Int := d.nanos.tdiv second

/-- The nanoseconds beyond the whole seconds, with the sign of the duration. -/
def fractionNanos (d : Duration) : Int := d.nanos.tmod second

end Duration

end FieldSearch
