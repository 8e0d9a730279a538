import FieldSearch.Proofs.Engine.Order
import FieldSearch.Proofs.Query.Meaning
import FieldSearch.Proofs.Time.Ticks

/-!
# The order of instants and of their ticks

Instants are ordered by their seconds first, and a leap second belongs to the second that it
follows. Ticks are a single number: those of a leap second run on into the next second. So the two
orders agree, up to what a tick cannot tell apart, for all instants but those of a leap second, and
for these against all instants but the ones at the start of the next second.

`Instant.Overtakes` says which pairs of instants are affected. Ranges and sorts over a field of
ticks compare ticks, so they agree with the order of instants for exactly the other pairs.

Main statement: `Instant.ticks_le_iff`; `Instant.ticks_overtake` is a pair that is affected.
-/

namespace FieldSearch

namespace Instant

/-- The order of time: by seconds, and in one second by nanoseconds, with a leap second behind. -/
instance : LE Instant where
  le x y := x.seconds < y.seconds ∨ x.seconds = y.seconds ∧ x.nanos ≤ y.nanos

lemma le_def {x y : Instant} :
    x ≤ y ↔ x.seconds < y.seconds ∨ x.seconds = y.seconds ∧ x.nanos ≤ y.nanos := Iff.rfl

instance : DecidableLE Instant := fun _ _ => decidable_of_iff' _ le_def

/-- An instant in a leap second is further into it, in ticks, than one in the next second is into
that. -/
def Overtakes (x y : Instant) : Prop :=
  x.isLeap = true ∧ y.seconds = x.seconds + 1 ∧ y.nanos / 100 < (x.nanos - second) / 100

instance (x y : Instant) : Decidable (x.Overtakes y) := by
  unfold Overtakes
  infer_instance

variable {x y : Instant} {s t : Int64}

/-- Ticks are in the order of their instants, unless one overtakes the other. -/
lemma toTicks?_le_iff (hs : x.toTicks? = some s) (ht : y.toTicks? = some t) (hle : x ≤ y) :
    s ≤ t ↔ ¬ x.Overtakes y := by
  obtain ⟨-, hs⟩ := toTicks?_eq_some_iff.1 hs
  obtain ⟨-, ht⟩ := toTicks?_eq_some_iff.1 ht
  have hx := x.nanos_lt
  have hy := y.nanos_lt
  rw [le_def] at hle
  simp only [ticksPerSecond] at hs ht
  -- No second has more ticks than two seconds, and only one with a leap second more than one.
  simp only [Int64.le_iff_toInt_le, hs, ht, Overtakes, isLeap, second, decide_eq_true_eq] at hx hy ⊢
  omega

lemma toTicks?_lt_iff (hs : x.toTicks? = some s) (ht : y.toTicks? = some t) (hle : x ≤ y) :
    t < s ↔ x.Overtakes y := by
  have hiff := toTicks?_le_iff hs ht hle
  rw [Int64.le_iff_toInt_le] at hiff
  rw [Int64.lt_iff_toInt_lt, ← Int.not_le, hiff, Decidable.not_not]

/-- A date-time is a bound by its ticks in a field of integers. -/
lemma bound_dateTime {f : MappedField} (hf : f.semanticType = .long) (hs : x.toTicks? = some s) :
    f.bound (.dateTime x) = .ok (some (.long s)) := by
  simp only [MappedField.bound, hf, hs]

/-- **The order of ticks.** Of two instants in the order of time that have ticks, the ticks are in
the same order, a sort by them does not put the second one first, and a range from the first one on
or up to the second one has the other in it, unless the first one lies in a leap second and
overtakes the second one in the next second. In that case all of this is the other way round. -/
theorem ticks_le_iff {x y : Instant} {s t : Int64} (hs : x.toTicks? = some s)
    (ht : y.toTicks? = some t) (hle : x ≤ y) :
    (s ≤ t ↔ ¬ x.Overtakes y) ∧
    (∀ (field : String) (d e : Document),
      SortKey.value ⟨field, .long, false⟩ d = .ofValue .long (.long s) →
      SortKey.value ⟨field, .long, false⟩ e = .ofValue .long (.long t) →
      (SortKey.Puts ⟨field, .long, false⟩ e d ↔ x.Overtakes y)) ∧
    ∀ (f : MappedField) (r : NumericRange), f.semanticType = .long →
      (f.bound (.dateTime x) = .ok r.min → r.minInclusive = true →
        (r.aboveMin (.long t) = true ↔ ¬ x.Overtakes y)) ∧
      (f.bound (.dateTime y) = .ok r.max → r.maxInclusive = true →
        (r.belowMax (.long s) = true ↔ ¬ x.Overtakes y)) := by
  refine ⟨toTicks?_le_iff hs ht hle, fun field d e hd he => ?_, fun f r hf => ⟨?_, ?_⟩⟩
  · rw [← toTicks?_lt_iff hs ht hle, Int64.lt_iff_toInt_lt]
    show (SortKey.value ⟨field, .long, false⟩ e).Below _ ↔ _
    rw [hd, he]
    constructor
    · rintro ⟨⟩
      assumption
    · exact .integer
  · intro hmin hinclusive
    rw [bound_dateTime hf hs] at hmin
    rw [NumericRange.aboveMin_long (Except.ok.inj hmin).symm, if_pos hinclusive]
    exact toTicks?_le_iff hs ht hle
  · intro hmax hinclusive
    rw [bound_dateTime hf ht] at hmax
    rw [NumericRange.belowMax_long (Except.ok.inj hmax).symm, if_pos hinclusive]
    exact toTicks?_le_iff hs ht hle

/-- Half a second into a leap second, and more than half a second into the next minute. -/
theorem ticks_le_iff_leap :
    let x : Instant := ⟨59, 1500000000, by decide, by decide, by decide⟩
    let y : Instant := ⟨60, 600000000, by decide, by decide, by decide⟩
    x.toTicks? = some 621355968605000000 ∧ y.toTicks? = some 621355968606000000 ∧ x ≤ y ∧
      (621355968605000000 : Int64) ≤ 621355968606000000 := by
  intro x y
  have hx : x.toTicks? = some 621355968605000000 := by decide
  have hy : y.toTicks? = some 621355968606000000 := by decide
  have hle : x ≤ y := by decide
  exact ⟨hx, hy, hle, (ticks_le_iff hx hy hle).1.2 (by decide)⟩

/-- Half a second into a leap second comes before a tenth of a second into the next minute, and has
more ticks. -/
theorem ticks_overtake :
    let x : Instant := ⟨59, 1500000000, by decide, by decide, by decide⟩
    let y : Instant := ⟨60, 100000000, by decide, by decide, by decide⟩
    x ≤ y ∧ x.toTicks? = some 621355968605000000 ∧ y.toTicks? = some 621355968601000000 ∧
      ¬ (621355968605000000 : Int64) ≤ 621355968601000000 := by
  intro x y
  exact ⟨by decide, by decide, by decide, by decide⟩

end Instant

end FieldSearch
