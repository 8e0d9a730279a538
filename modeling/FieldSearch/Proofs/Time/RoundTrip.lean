import FieldSearch.Proofs.Object.Described
import FieldSearch.Proofs.Time.Ticks

/-!
# Ticks there and back

An instant is decoded from its ticks by a quotient and a remainder, both in floor form, and encoded
by a product and two sums. What one direction does the other one undoes, but each has its own
checks. Decoding asks that the ticks since 1970 fit a word, encoding that those of the second do.
So the instants of the first second of the range, which lies in the range only in part, are decoded
and never encoded. That is all that is lost: `Instant.ticks_reencode_iff` says so for every tick
count, and for the fields that hold tick counts. From the other side, `Instant.ticks_eq_floor` says
that an instant outside leap seconds loses what is less than a tick.

A duration is taken apart toward zero and put together in floor form. The two parts of the first
kind have the same sign, so neither direction refuses anything that fits: `Duration.ticks_exact`.
-/

namespace FieldSearch

namespace Instant

variable {x : Instant} {t : Int64}

/-! ## Decoded instants -/

/-- The first tick count that is decoded. -/
def firstTicks : Int := epochTicks - wordEnd

/-- The first tick count of the first second that is in the range as a whole. -/
def firstWholeTicks : Int := epochTicks + (-wordEnd / ticksPerSecond + 1) * ticksPerSecond

/-- Whole seconds and the rest of the ticks since 1970, both in floor form. -/
lemma ofTicks?_eq_some_iff :
    ofTicks? t = some x ↔ firstTicks ≤ t.toInt ∧
      x.seconds = (t.toInt - epochTicks) / ticksPerSecond ∧
      (x.nanos : Int) = (t.toInt - epochTicks) % ticksPerSecond * 100 := by
  have hlow := t.le_toInt
  have hhigh := t.toInt_lt
  simp only [ofTicks?, Option.bind_eq_bind, Option.bind_eq_some_iff, word?_eq_some_iff,
    of?_eq_some_iff, firstTicks, epochTicks, ticksPerSecond, wordEnd]
  constructor
  · rintro ⟨relative, hrelative, hseconds, hnanos⟩
    have := relative.le_toInt
    rw [hrelative] at hseconds hnanos this
    omega
  · rintro ⟨hfirst, hseconds, hnanos⟩
    obtain ⟨relative, hrelative⟩ :=
      exists_toInt_eq (n := t.toInt - 621355968000000000) (by omega) (by omega)
    rw [← hrelative] at hseconds hnanos
    exact ⟨relative, hrelative, hseconds, by omega⟩

lemma exists_ofTicks?_iff : (∃ x, ofTicks? t = some x) ↔ firstTicks ≤ t.toInt := by
  simp only [ofTicks?_eq_some_iff]
  constructor
  · rintro ⟨x, h, -⟩
    exact h
  · intro h
    have hhigh := t.toInt_lt
    have hrest : 0 ≤ (t.toInt - epochTicks) % ticksPerSecond ∧
        (t.toInt - epochTicks) % ticksPerSecond < ticksPerSecond :=
      ⟨Int.emod_nonneg _ (by decide), Int.emod_lt_of_pos _ (by decide)⟩
    refine ⟨⟨(t.toInt - epochTicks) / ticksPerSecond,
      ((t.toInt - epochTicks) % ticksPerSecond * 100).toNat, ?_, ?_, .inl ?_⟩, h, rfl, ?_⟩
    all_goals
      simp only [firstTicks, epochTicks, ticksPerSecond, wordEnd, second] at h hrest ⊢
      omega

/-- A decoded instant has the ticks it was decoded from, or none if its second begins before the
range. -/
lemma toTicks?_of_ofTicks? (h : ofTicks? t = some x) :
    x.toTicks? = if firstWholeTicks ≤ t.toInt then some t else none := by
  obtain ⟨hfirst, hseconds, hnanos⟩ := ofTicks?_eq_some_iff.1 h
  have hhigh := t.toInt_lt
  simp only [firstTicks, epochTicks, ticksPerSecond, wordEnd] at hfirst hseconds hnanos
  split
  · rename_i hwhole
    simp only [firstWholeTicks, epochTicks, ticksPerSecond, wordEnd] at hwhole
    simp only [toTicks?_eq_some_iff, InTickRange, epochTicks, ticksPerSecond, wordEnd]
    omega
  · rename_i hwhole
    rw [Option.eq_none_iff_forall_ne_some]
    intro s hs
    obtain ⟨⟨hlow, -⟩, -⟩ := toTicks?_eq_some_iff.1 hs
    simp only [firstWholeTicks, epochTicks, ticksPerSecond, wordEnd] at hlow hwhole
    omega

/-- A tick count in a tree is read as its instant. -/
lemma read_instantTicks (catalog : Catalog) (origin : Origin) (h : ofTicks? t = some x) :
    Schema.read catalog origin .instantTicks (.ofInt t.toInt) = some (.ofInstantTicks x) := by
  have hlow := t.le_toInt
  have hhigh := t.toInt_lt
  have hinteger : Schema.readInteger (-wordEnd) (wordEnd - 1) (.ofInt t.toInt) = some t.toInt :=
    Schema.readInteger_ofInt hlow (by unfold wordEnd; omega) hlow (by unfold UInt64.size; omega)
  show ((Schema.readInteger (-wordEnd) (wordEnd - 1) (.ofInt t.toInt)).bind fun n =>
    ofTicks? (.ofInt n)).map _ = _
  rw [hinteger, Option.bind_some, Int64.ofInt_toInt, h, Option.map_some]

/-- An instant is written as its ticks, if it has any. -/
lemma json?_ofInstantTicks (x : Instant) :
    (Value.ofInstantTicks x).json? = x.toTicks?.map fun t => .ofInt t.toInt := by
  unfold Value.ofInstantTicks
  cases x.toTicks? <;> rfl

/-- What is decoded is encoded again, with one exception. Ticks are decoded from `firstTicks` on.
The decoded instant has the same ticks if the whole second is in the range, and no ticks
otherwise; a field of ticks is read in both cases, and written again in the first one alone. -/
theorem ticks_reencode_iff (t : Int64) :
    ((∃ x, ofTicks? t = some x) ↔ firstTicks ≤ t.toInt) ∧
    ∀ x, ofTicks? t = some x →
      x.toTicks? = (if firstWholeTicks ≤ t.toInt then some t else none) ∧
      (∀ (catalog : Catalog) (origin : Origin),
        Schema.read catalog origin .instantTicks (.ofInt t.toInt) = some (.ofInstantTicks x)) ∧
      (Value.ofInstantTicks x).json? =
        if firstWholeTicks ≤ t.toInt then some (.ofInt t.toInt) else none := by
  refine ⟨exists_ofTicks?_iff, fun x h => ?_⟩
  have hticks := toTicks?_of_ofTicks? h
  refine ⟨hticks, fun catalog origin => read_instantTicks catalog origin h, ?_⟩
  rw [json?_ofInstantTicks, hticks]
  split <;> rfl

/-- The first tick of the range, and the first one of a whole second. -/
theorem ticks_reencode_iff_first :
    let first : Instant := ⟨-922337203686, 522419200, by decide, by decide, by decide⟩
    let whole : Instant := ⟨-922337203685, 0, by decide, by decide, by decide⟩
    ofTicks? (-8602016068854775808) = some first ∧ first.toTicks? = none ∧
      ofTicks? (-8602016068850000000) = some whole ∧
      whole.toTicks? = some (-8602016068850000000) ∧
      (Value.ofInstantTicks whole).json? = some (.ofInt (-8602016068850000000)) := by
  intro first whole
  have hfirst : ofTicks? (-8602016068854775808) = some first := by decide
  have hwhole : ofTicks? (-8602016068850000000) = some whole := by decide
  have hnone := ((ticks_reencode_iff _).2 first hfirst).1
  obtain ⟨hsome, -, hjson⟩ := (ticks_reencode_iff _).2 whole hwhole
  rw [if_neg (by decide)] at hnone
  rw [if_pos (by decide)] at hsome hjson
  exact ⟨hfirst, hnone, hwhole, hsome, hjson⟩

/-- The first tick of the range is decoded, and not encoded again. -/
theorem ticks_not_reencoded :
    let first : Instant := ⟨-922337203686, 522419200, by decide, by decide, by decide⟩
    ofTicks? (-8602016068854775808) = some first ∧
      ¬ first.toTicks? = some (-8602016068854775808) := by
  intro first
  exact ⟨by decide, by decide⟩

/-! ## Encoded instants -/

/-- The nanoseconds from the start of year 1, negative before it. -/
def elapsed (x : Instant) : Int :=
  (x.seconds - Date.toDays ⟨1, 1, 1⟩ * 86400) * second + x.nanos

/-- The instant without what it has beyond its last whole tick. -/
def floorTick (x : Instant) : Instant where
  seconds := x.seconds
  nanos := x.nanos - x.nanos % 100
  seconds_ge := x.seconds_ge
  seconds_le := x.seconds_le
  nanos_lt := by
    have h := x.nanos_lt
    simp only [second] at h ⊢
    omega

/-- Ticks count from the start of year 1, since `epochTicks` are those from there to 1970. -/
lemma toInt_of_toTicks? (h : x.toTicks? = some t) : t.toInt = x.elapsed.fdiv 100 := by
  obtain ⟨-, ht⟩ := toTicks?_eq_some_iff.1 h
  have hyear : Date.toDays ⟨1, 1, 1⟩ = -719162 := by decide
  simp only [ht, elapsed, hyear, second, epochTicks, ticksPerSecond,
    Int.fdiv_eq_ediv_of_nonneg _ (show (0 : Int) ≤ 100 by decide)]
  omega

/-- Outside leap seconds the ticks of the second are fewer than those of a second, so the quotient
and the remainder are the two parts again. -/
lemma ofTicks?_of_toTicks? (hleap : x.isLeap = false) (h : x.toTicks? = some t) :
    ofTicks? t = some x.floorTick := by
  obtain ⟨⟨hlow, -⟩, ht⟩ := toTicks?_eq_some_iff.1 h
  simp only [isLeap, decide_eq_false_iff_not, Nat.not_le] at hleap
  simp only [ofTicks?_eq_some_iff, floorTick, firstTicks, ht]
  simp only [second, epochTicks, ticksPerSecond, wordEnd] at hleap hlow ⊢
  omega

/-- **What ticks lose.** The ticks of an instant that is in no leap second are its nanoseconds from
the start of year 1 in hundreds, rounded down, and they are decoded to the instant with its
nanoseconds rounded down to a multiple of 100. -/
theorem ticks_eq_floor {x : Instant} {t : Int64} (hleap : x.isLeap = false)
    (h : x.toTicks? = some t) :
    t.toInt = x.elapsed.fdiv 100 ∧
      ∃ y, ofTicks? t = some y ∧ y.seconds = x.seconds ∧ y.nanos = x.nanos - x.nanos % 100 :=
  ⟨toInt_of_toTicks? h, x.floorTick, ofTicks?_of_toTicks? hleap h, rfl, rfl⟩

/-- A nanosecond before year 1. -/
theorem ticks_eq_floor_year_one :
    let x : Instant := ⟨-62135596801, 999999999, by decide, by decide, by decide⟩
    x.isLeap = false ∧ x.toTicks? = some (-1) ∧ x.elapsed = -1 ∧
      ∃ y, ofTicks? (-1) = some y ∧ y.seconds = -62135596801 ∧ y.nanos = 999999900 := by
  intro x
  have hleap : x.isLeap = false := by decide
  have hticks : x.toTicks? = some (-1) := by decide
  obtain ⟨-, y, hy, hseconds, hnanos⟩ := ticks_eq_floor hleap hticks
  exact ⟨hleap, hticks, by decide, y, hy, hseconds, hnanos.trans (by decide)⟩

end Instant

/-! ## Durations -/

namespace Duration

variable {d e : Duration} {t : Int64}

lemma of?_eq_some_iff {n : Int} : of? n = some d ↔ d.nanos = n := by
  constructor
  · intro h
    unfold of? at h
    split at h
    · obtain rfl := Option.some.inj h
      rfl
    · cases h
  · rintro rfl
    rw [of?, dif_pos ⟨d.nanos_ge, d.nanos_le⟩]

/-- The whole seconds of a tick count and the rest are put together again. -/
lemma ofTicks?_eq_of? (t : Int64) : ofTicks? t = of? (t.toInt * 100) := by
  have hrest : 0 ≤ t.toInt % ticksPerSecond ∧ t.toInt % ticksPerSecond < ticksPerSecond :=
    ⟨Int.emod_nonneg _ (by decide), Int.emod_lt_of_pos _ (by decide)⟩
  simp only [ticksPerSecond] at hrest
  have hparts : t.toInt / 10000000 * 1000000000 + (t.toInt % 10000000 * 100).toNat =
      t.toInt * 100 := by omega
  rw [ofTicks?, ofParts?, if_pos (by simp only [ticksPerSecond, second]; omega)]
  exact congrArg of? hparts

lemma exists_ofTicks? (t : Int64) : ∃ d, ofTicks? t = some d ∧ d.nanos = t.toInt * 100 := by
  have hlow := t.le_toInt
  have hhigh := t.toInt_lt
  refine ⟨⟨t.toInt * 100, ?_, ?_⟩, (ofTicks?_eq_of? t).trans (of?_eq_some_iff.2 rfl), rfl⟩
  all_goals
    unfold longestDuration
    omega

lemma toTicks?_eq_none_iff : d.toTicks? = none ↔ ¬ d.InTickRange := by
  rw [← exists_toTicks?_iff, ← Option.isSome_iff_exists, Option.not_isSome_iff_eq_none]

/-- A longer duration has no fewer ticks. -/
lemma toTicks?_mono {s : Int64} (hs : d.toTicks? = some s) (ht : e.toTicks? = some t)
    (hle : d.nanos ≤ e.nanos) : s ≤ t := by
  rw [toTicks?_eq_some_iff] at hs ht
  rw [Int64.le_iff_toInt_le, hs, ht]
  exact Int.tdiv_le_tdiv (by decide) hle

/-- **Ticks of durations are exact.** Every tick count is decoded, by whole seconds and a fraction
in floor form, and the duration has this tick count again. A duration of `n` nanoseconds has the
ticks `n / 100`, rounded toward zero, if they fit a word, and none otherwise; so longer durations
have no fewer ticks. -/
theorem ticks_exact (t : Int64) (d : Duration) :
    (∃ c, ofTicks? t = some c ∧ c.toTicks? = some t ∧ c.nanos = t.toInt * 100 ∧
      ofParts? (t.toInt / ticksPerSecond) (t.toInt % ticksPerSecond * 100).toNat = some c) ∧
    (∀ s, d.toTicks? = some s ↔ s.toInt = d.nanos.tdiv 100) ∧
    (d.toTicks? = none ↔ ¬ (-wordEnd ≤ d.nanos.tdiv 100 ∧ d.nanos.tdiv 100 < wordEnd)) ∧
    ∀ (e : Duration) (s s' : Int64), d.toTicks? = some s → e.toTicks? = some s' →
      d.nanos ≤ e.nanos → s ≤ s' := by
  refine ⟨?_, fun s => toTicks?_eq_some_iff, toTicks?_eq_none_iff, fun e s s' => toTicks?_mono⟩
  obtain ⟨c, hc, hnanos⟩ := exists_ofTicks? t
  refine ⟨c, hc, ?_, hnanos, hc⟩
  rw [toTicks?_eq_some_iff, hnanos, Int.mul_tdiv_cancel _ (by decide)]

/-- The longest negative duration with ticks, and a nanosecond more. -/
theorem ticks_exact_lowest :
    let lowest : Duration := ⟨-922337203685477580899, by decide, by decide⟩
    let below : Duration := ⟨-922337203685477580900, by decide, by decide⟩
    let nothing : Duration := ⟨-1, by decide, by decide⟩
    lowest.toTicks? = some (-9223372036854775808) ∧ below.toTicks? = none ∧
      nothing.toTicks? = some 0 ∧ lowest.nanos ≤ nothing.nanos ∧
      (-9223372036854775808 : Int64) ≤ 0 ∧
      ∃ c, ofTicks? (-9223372036854775808) = some c ∧
        c.toTicks? = some (-9223372036854775808) ∧ c.nanos = -922337203685477580800 := by
  intro lowest below nothing
  obtain ⟨⟨c, hc, hticks, hnanos, -⟩, hsome, -, hmono⟩ :=
    ticks_exact (-9223372036854775808) lowest
  have hlowest : lowest.toTicks? = some (-9223372036854775808) := (hsome _).2 (by decide)
  have hbelow : below.toTicks? = none := (ticks_exact 0 below).2.2.1.2 (by decide)
  have hnothing : nothing.toTicks? = some 0 := by decide
  have hle : lowest.nanos ≤ nothing.nanos := by decide
  exact ⟨hlowest, hbelow, hnothing, hle, hmono _ _ _ hlowest hnothing hle, c, hc, hticks,
    hnanos.trans (by decide)⟩

end Duration

end FieldSearch
