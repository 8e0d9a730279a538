import FieldSearch.Time.Ticks
import Mathlib.Tactic.Lemma

/-!
# Tick counts of instants and durations

Ticks are formed in steps, each of which has to fit a word. For durations all parts have one sign,
so it is enough that the result fits. For instants it is not: the ticks of the second are counted
from 1970, and have to fit before the offset that would bring them nearer to zero is added.
-/

namespace FieldSearch

lemma word?_eq_some_iff {n : Int} {w : Int64} : word? n = some w ↔ w.toInt = n := by
  constructor
  · exact toInt_of_word?
  · rintro rfl
    exact word?_toInt w

lemma exists_toInt_eq {n : Int} (hlow : -9223372036854775808 ≤ n)
    (hhigh : n < 9223372036854775808) : ∃ w : Int64, w.toInt = n :=
  ⟨Int64.ofInt n, Int64.toInt_ofInt_of_le (by omega) (by omega)⟩

/-- The instants with ticks. -/
def Instant.InTickRange (x : Instant) : Prop :=
  -wordEnd ≤ x.seconds * ticksPerSecond ∧
    x.seconds * ticksPerSecond + (x.nanos / 100 : Nat) + epochTicks < wordEnd

/-- The durations with ticks. -/
def Duration.InTickRange (d : Duration) : Prop :=
  -wordEnd ≤ d.nanos.tdiv 100 ∧ d.nanos.tdiv 100 < wordEnd

theorem Instant.toTicks?_eq_some_iff {x : Instant} {t : Int64} :
    x.toTicks? = some t ↔ x.InTickRange ∧
      t.toInt = x.seconds * ticksPerSecond + (x.nanos / 100 : Nat) + epochTicks := by
  simp only [toTicks?, Option.bind_eq_bind, Option.bind_eq_some_iff, word?_eq_some_iff,
    InTickRange, wordEnd, ticksPerSecond, epochTicks]
  constructor
  · rintro ⟨whole, hwhole, relative, hrelative, ht⟩
    have := whole.le_toInt
    have := t.toInt_lt
    omega
  · rintro ⟨⟨hlow, hhigh⟩, ht⟩
    obtain ⟨whole, hwhole⟩ := exists_toInt_eq hlow (by omega)
    obtain ⟨relative, hrelative⟩ :=
      exists_toInt_eq (n := whole.toInt + (x.nanos / 100 : Nat)) (by omega) (by omega)
    exact ⟨whole, hwhole, relative, hrelative, by omega⟩

lemma Instant.exists_toTicks?_iff {x : Instant} : (∃ t, x.toTicks? = some t) ↔ x.InTickRange := by
  simp only [toTicks?_eq_some_iff]
  constructor
  · rintro ⟨t, h, -⟩
    exact h
  · intro h
    refine (exists_toInt_eq ?_ ?_).imp fun t ht => ⟨h, ht⟩
    all_goals
      simp only [InTickRange, wordEnd, ticksPerSecond, epochTicks] at h ⊢
      omega

/-- The ticks of the seconds and of the fraction add up to the ticks of the whole. -/
lemma tdiv_second_add {n : Int} (h : 0 ≤ n) :
    n.tdiv 1000000000 * 10000000 + (n.tmod 1000000000).tdiv 100 = n.tdiv 100 ∧
      0 ≤ n.tdiv 1000000000 * 10000000 ∧ n.tdiv 1000000000 * 10000000 ≤ n.tdiv 100 := by
  rw [Int.tdiv_eq_ediv_of_nonneg h, Int.tdiv_eq_ediv_of_nonneg h, Int.tmod_eq_emod_of_nonneg h,
    Int.tdiv_eq_ediv_of_nonneg (by omega)]
  omega

/-- The ticks of the whole seconds lie between zero and the ticks of the duration. -/
lemma Duration.ticks_parts (d : Duration) :
    d.wholeSeconds * ticksPerSecond + d.fractionNanos.tdiv 100 = d.nanos.tdiv 100 ∧
      min 0 (d.nanos.tdiv 100) ≤ d.wholeSeconds * ticksPerSecond ∧
      d.wholeSeconds * ticksPerSecond ≤ max 0 (d.nanos.tdiv 100) := by
  have hsecond : ((second : Nat) : Int) = 1000000000 := rfl
  simp only [wholeSeconds, fractionNanos, ticksPerSecond, hsecond]
  rcases Int.le_total 0 d.nanos with h | h
  · have := tdiv_second_add h
    omega
  · have := tdiv_second_add (n := -d.nanos) (by omega)
    simp only [Int.neg_tdiv, Int.neg_tmod] at this
    omega

theorem Duration.toTicks?_eq_some_iff {d : Duration} {t : Int64} :
    d.toTicks? = some t ↔ t.toInt = d.nanos.tdiv 100 := by
  obtain ⟨hsum, hlower, hupper⟩ := d.ticks_parts
  simp only [toTicks?, Option.bind_eq_bind, Option.bind_eq_some_iff, word?_eq_some_iff]
  constructor
  · rintro ⟨whole, hw, ht⟩
    omega
  · intro ht
    have hlow := t.le_toInt
    have hhigh := t.toInt_lt
    obtain ⟨whole, hw⟩ :=
      exists_toInt_eq (n := d.wholeSeconds * ticksPerSecond) (by omega) (by omega)
    exact ⟨whole, hw, by omega⟩

lemma Duration.exists_toTicks?_iff {d : Duration} :
    (∃ t, d.toTicks? = some t) ↔ d.InTickRange := by
  simp only [toTicks?_eq_some_iff]
  constructor
  · rintro ⟨t, ht⟩
    rw [InTickRange, ← ht]
    exact ⟨t.le_toInt, t.toInt_lt⟩
  · rintro ⟨hlow, hhigh⟩
    exact exists_toInt_eq hlow hhigh

end FieldSearch
