import FieldSearch.Proofs.Number.Value
import FieldSearch.Proofs.Time.Ticks

/-!
# Floats that are words

Whether a float may stand for a word is asked of doubles: it has to be whole, not below `-2 ^ 63`
and below `2 ^ 63 - 1`. The largest word is no double. The double nearest to it is `2 ^ 63`, so the
comparison with it leaves out exactly the numbers that no word is left for, and all whole numbers
that pass are words (`Binary.isIntegral_iff`).

A single is asked as the double that it is. All digits of a single fit a double, and its exponents
are among those of doubles, so widening rounds nothing (`Binary.units_toDouble`), and the single is
a word exactly if the double passes (`Binary.isIntegral_toDouble_iff`).

The word of a value that passes is that number: the cut to the range does nothing to it
(`Binary.IsWord.toWord_eq`).
-/

namespace FieldSearch

/-! ## Rounding that loses nothing -/

lemma roundQuotient_mul {den : Nat} (hden : 0 < den) (q : Nat) :
    roundQuotient (den * q) den = q := by
  unfold roundQuotient
  rw [Nat.mul_div_cancel_left q hden, Nat.mul_mod_right, if_pos (by omega)]

namespace Format

variable {f : Format} {num den k e : Nat}

lemma shift_le_of_digits (hk : k < 2 ^ (f.fraction + 1))
    (hexact : num * 2 ^ f.scale / den = k * 2 ^ e) : f.shift num den ≤ e := by
  rw [shift, hexact]
  by_cases hzero : k * 2 ^ e = 0
  · rw [hzero]
    simp
  · have hlt : k * 2 ^ e < 2 ^ (f.fraction + 1 + e) := by
      rw [Nat.pow_add]
      exact Nat.mul_lt_mul_of_pos_right hk (Nat.two_pow_pos e)
    have hlog := (Nat.log2_lt hzero).2 hlt
    omega

/-- A quotient with no more digits than a fraction, counted in smallest positive values, is
rounded to itself. -/
lemma magnitude_round_exact (negative : Bool) (hden : 0 < den) (hk : k < 2 ^ (f.fraction + 1))
    (hfinite : f.nearest num den < f.infinite)
    (hexact : num * 2 ^ f.scale = den * (k * 2 ^ e)) :
    (f.round negative num den).magnitude = k * 2 ^ e := by
  have hdiv : num * 2 ^ f.scale / den = k * 2 ^ e := by
    rw [hexact, Nat.mul_div_cancel_left _ hden]
  obtain ⟨d, rfl⟩ := Nat.exists_eq_add_of_le (shift_le_of_digits hk hdiv)
  have hunits : num * 2 ^ f.scale = den * 2 ^ f.shift num den * (k * 2 ^ d) := by
    rw [hexact, Nat.pow_add]
    ring
  have hsignificand : f.significand num den = k * 2 ^ d := by
    rw [significand, hunits]
    exact roundQuotient_mul (Nat.mul_pos hden (Nat.two_pow_pos _)) _
  rw [magnitude_round negative hden hfinite, hsignificand, Nat.pow_add]
  ring

lemma nearest_lt_signWeight (num den : Nat) : f.nearest num den < f.signWeight :=
  Nat.lt_of_le_of_lt (Nat.min_le_right _ _) infinite_lt_signWeight

lemma negative_round (negative : Bool) (num den : Nat) :
    (f.round negative num den).negative = negative :=
  negative_pattern negative (nearest_lt_signWeight num den)

lemma isFinite_round (negative : Bool) (h : f.nearest num den < f.infinite) :
    (f.round negative num den).isFinite = true := by
  rw [Binary.isFinite, round, unsigned_pattern negative (nearest_lt_signWeight num den)]
  exact decide_eq_true h

end Format

namespace Binary

variable {f : Format} {x : Binary f}

/-- A finite value has the digits of a fraction, and one of the exponents below the highest. -/
lemma exists_magnitude_eq (hx : x.isFinite = true) :
    ∃ k e, k < 2 ^ (f.fraction + 1) ∧ e ≤ f.top - 2 ∧ x.magnitude = k * 2 ^ e := by
  have hfraction : x.fractionField < 2 ^ f.fraction := Nat.mod_lt _ (Nat.two_pow_pos _)
  have hsucc : 2 ^ (f.fraction + 1) = 2 * 2 ^ f.fraction := Nat.pow_succ'
  have hexponent : x.exponentField < f.top := by
    rw [isFinite, decide_eq_true_iff] at hx
    rwa [exponentField, Nat.pow_eq, Nat.div_lt_iff_lt_mul (Nat.two_pow_pos _)]
  unfold magnitude
  split
  · exact ⟨x.fractionField, 0, by omega, Nat.zero_le _, by rw [Nat.pow_zero, Nat.mul_one]⟩
  · exact ⟨2 ^ f.fraction + x.fractionField, x.exponentField - 1, by omega, by omega, rfl⟩

lemma isNaN_of_isFinite (hx : x.isFinite = true) : x.isNaN = false := by
  rw [isFinite, decide_eq_true_iff] at hx
  exact decide_eq_false (by omega)

lemma isInfinite_of_isFinite (hx : x.isFinite = true) : x.isInfinite = false := by
  rw [isFinite, decide_eq_true_iff] at hx
  exact decide_eq_false (by omega)

lemma isFinite_of_not (hnan : x.isNaN = false) (hinfinite : x.isInfinite = false) :
    x.isFinite = true := by
  rw [isNaN, decide_eq_false_iff_not] at hnan
  rw [isInfinite, decide_eq_false_iff_not] at hinfinite
  exact decide_eq_true (by omega)

/-! ## Singles as doubles -/

section Widening

variable {x : Single}

/-- Beside the largest finite single there is room for all its digits in a double. -/
lemma nearest_double_lt (hx : x.isFinite = true) :
    Format.double.nearest x.magnitude (2 ^ Format.single.scale) < Format.double.infinite := by
  obtain ⟨k, e, hk, he, hmagnitude⟩ := exists_magnitude_eq hx
  refine Format.nearest_lt_infinite (by decide) ?_
  -- 24 digits, the last of them at most 253 places above that of the smallest single.
  have hlt : x.magnitude < 2 ^ 24 * 2 ^ 253 := by
    rw [hmagnitude]
    calc k * 2 ^ e < 2 ^ 24 * 2 ^ e := Nat.mul_lt_mul_of_pos_right hk (Nat.two_pow_pos e)
      _ ≤ 2 ^ 24 * 2 ^ 253 := Nat.mul_le_mul_left _ (Nat.pow_le_pow_right (by decide) he)
  calc 2 * (x.magnitude * 2 ^ Format.double.scale)
      < 2 * (2 ^ 24 * 2 ^ 253 * 2 ^ Format.double.scale) :=
        Nat.mul_lt_mul_of_pos_left
          (Nat.mul_lt_mul_of_pos_right hlt (Nat.two_pow_pos _)) (by decide)
    _ ≤ Format.double.overflow * 2 ^ Format.single.scale := by decide +kernel

lemma toDouble_of_isFinite (hx : x.isFinite = true) :
    x.toDouble = Format.double.round x.negative x.magnitude (2 ^ Format.single.scale) := by
  rw [toDouble, convert, isNaN_of_isFinite hx, isInfinite_of_isFinite hx]
  rfl

/-- Widening rounds nothing: each side counts the same number in smallest positive values, and the
factors bring both to one unit. -/
lemma units_toDouble (hx : x.isFinite = true) :
    x.toDouble.units * (2 ^ Format.single.scale : Nat) =
      x.units * (2 ^ Format.double.scale : Nat) := by
  obtain ⟨k, e, hk, -, hmagnitude⟩ := exists_magnitude_eq hx
  obtain ⟨d, hd⟩ := Nat.exists_eq_add_of_le
    (show Format.single.scale ≤ Format.double.scale by decide)
  have hexact : x.magnitude * 2 ^ Format.double.scale =
      2 ^ Format.single.scale * (k * 2 ^ (e + d)) := by
    rw [hmagnitude, hd, Nat.pow_add, Nat.pow_add]
    ring
  have hround := Format.magnitude_round_exact x.negative (Nat.two_pow_pos _)
    (Nat.lt_of_lt_of_le hk (by decide)) (nearest_double_lt hx) hexact
  have hwide : x.toDouble.magnitude * 2 ^ Format.single.scale =
      x.magnitude * 2 ^ Format.double.scale := by
    rw [toDouble_of_isFinite hx, hround, hmagnitude, hd, Nat.pow_add, Nat.pow_add]
    ring
  have hnegative : x.toDouble.negative = x.negative := by
    rw [toDouble_of_isFinite hx, Format.negative_round]
  rw [units, units, hnegative]
  split
  · rw [Int.neg_mul, Int.neg_mul, ← Nat.cast_mul, hwide, Nat.cast_mul]
  · rw [← Nat.cast_mul, hwide, Nat.cast_mul]

lemma isFinite_toDouble (x : Single) : x.toDouble.isFinite = x.isFinite := by
  cases hx : x.isFinite with
  | true =>
    rw [toDouble_of_isFinite hx]
    exact Format.isFinite_round _ (nearest_double_lt hx)
  | false =>
    unfold toDouble convert
    split
    · decide
    split
    · cases x.negative <;> decide
    next hnan hinfinite =>
      rw [isFinite_of_not (by simpa using hnan) (by simpa using hinfinite)] at hx
      cases hx

end Widening

/-! ## Floats that are words -/

/-- A value that is exactly an integer. -/
def IsWord (x : Binary f) (n : Int64) : Prop :=
  x.isFinite = true ∧ x.units = n.toInt * (Nat.pow 2 f.scale : Nat)

lemma isWord_iff {n : Int64} :
    x.IsWord n ↔ x.isFinite = true ∧ x.units = n.toInt * (2 ^ f.scale : Nat) := Iff.rfl

lemma two_pow_scale_ne_zero : ((2 ^ f.scale : Nat) : Int) ≠ 0 := by
  exact_mod_cast (Nat.two_pow_pos f.scale).ne'

lemma isWord_toDouble_iff {x : Single} {n : Int64} : x.toDouble.IsWord n ↔ x.IsWord n := by
  rw [isWord_iff, isWord_iff, isFinite_toDouble]
  refine and_congr_right fun hx => ?_
  rw [← mul_left_inj' (two_pow_scale_ne_zero (f := .single)), units_toDouble hx, mul_right_comm,
    mul_left_inj' (two_pow_scale_ne_zero (f := .double))]

/-- A whole value without its fraction is that value. -/
lemma isWhole_iff : x.isWhole = true ↔
    x.isFinite = true ∧ x.units = x.truncate * (2 ^ f.scale : Nat) := by
  have habs : x.units.natAbs = x.magnitude := by
    unfold units
    split <;> simp
  have hdvd : x.magnitude % Nat.pow 2 f.scale = 0 ↔ ((2 ^ f.scale : Nat) : Int) ∣ x.units := by
    rw [← Int.dvd_natAbs, habs, Int.natCast_dvd_natCast, Nat.dvd_iff_mod_eq_zero, Nat.pow_eq]
  rw [isWhole, Bool.and_eq_true, decide_eq_true_eq, hdvd]
  refine and_congr_right fun _ => ⟨fun h => ?_, fun h => ⟨x.truncate, ?_⟩⟩
  · rw [truncate, Nat.pow_eq, Int.tdiv_mul_cancel h]
  · rw [mul_comm]
    exact h

/-- A value that is a word is cut to itself. -/
lemma IsWord.truncate_eq {n : Int64} (h : x.IsWord n) : x.truncate = n.toInt := by
  rw [truncate, h.2]
  exact Int.mul_tdiv_cancel _ two_pow_scale_ne_zero

theorem IsWord.toWord_eq {n : Int64} (h : x.IsWord n) : x.toWord = n := by
  rw [toWord, isNaN_of_isFinite h.1, if_neg Bool.false_ne_true, h.truncate_eq, ← Int64.toInt_inj]
  exact toInt_clampWord n.le_toInt n.toInt_lt

/-- The least word is a double. -/
lemma units_lowest : (Format.double.ofInt (-wordEnd)).units =
    -wordEnd * (2 ^ Format.double.scale : Nat) := by decide +kernel

/-- The largest word is rounded to the number after it. -/
lemma units_highest : (Format.double.ofInt (wordEnd - 1)).units =
    wordEnd * (2 ^ Format.double.scale : Nat) := by decide +kernel

/-- The guard of a double, on the number that it stands for. -/
lemma isIntegral_iff_truncate {x : Double} : x.isIntegral = true ↔
    x.isWhole = true ∧ -wordEnd ≤ x.truncate ∧ x.truncate < wordEnd := by
  have hlowest : (Format.double.ofInt (-wordEnd)).isNaN = false := by decide +kernel
  have hhighest : (Format.double.ofInt (wordEnd - 1)).isNaN = false := by decide +kernel
  unfold isIntegral
  rw [Bool.and_eq_true, Bool.and_eq_true, decide_eq_true_iff, and_assoc]
  refine and_congr_right fun hwhole => ?_
  obtain ⟨hfinite, hunits⟩ := isWhole_iff.1 hwhole
  have hpos : (0 : Int) < (2 ^ Format.double.scale : Nat) :=
    Int.natCast_pos.2 (Nat.two_pow_pos _)
  simp only [compare?, isNaN_of_isFinite hfinite, hlowest, hhighest, Bool.or_self,
    Bool.false_eq_true, if_false, Option.any_some, Option.some.injEq]
  rw [units_lowest, units_highest, hunits, Int.isGE_compare, Int.compare_eq_lt,
    mul_le_mul_iff_of_pos_right hpos, mul_lt_mul_iff_of_pos_right hpos]

/-- **The guard of a double.** A double passes exactly if it is a word. -/
theorem isIntegral_iff {x : Double} : x.isIntegral = true ↔ ∃ n, x.IsWord n := by
  rw [isIntegral_iff_truncate]
  constructor
  · rintro ⟨hwhole, hlow, hhigh⟩
    obtain ⟨n, hn⟩ := exists_toInt_eq hlow hhigh
    obtain ⟨hfinite, hunits⟩ := isWhole_iff.1 hwhole
    exact ⟨n, isWord_iff.2 ⟨hfinite, by rw [hn, hunits]⟩⟩
  · rintro ⟨n, hn⟩
    have hlow := n.le_toInt
    have hhigh := n.toInt_lt
    rw [isWhole_iff, hn.truncate_eq]
    exact ⟨isWord_iff.1 hn, by unfold wordEnd; omega, by unfold wordEnd; omega⟩

/-- The guard of a single, which is asked as the double that it is. -/
theorem isIntegral_toDouble_iff {x : Single} :
    x.toDouble.isIntegral = true ↔ ∃ n, x.IsWord n := by
  simp only [isIntegral_iff, isWord_toDouble_iff]

end Binary

end FieldSearch
