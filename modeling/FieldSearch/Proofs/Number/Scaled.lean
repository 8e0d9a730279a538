import FieldSearch.Number.Numeral
import FieldSearch.Proofs.Number.Rounding
import Mathlib.Algebra.Order.Field.Rat
import Mathlib.Algebra.Order.Field.Power
import Mathlib.Tactic.NormNum

/-!
# Numerals read through 64 bits of digits

Reading a numeral drops digits and rounds twice, so it may go beyond the largest double although
the numeral does not. `Numeral.isSome_scaled?` says that it does not as long as the value of the
numeral is below `readable`, three and a half places of the last digit below the end of the range:
dropping digits never makes a number larger, and each of the two roundings adds less than one
place.
-/

namespace FieldSearch

namespace Numeral

/-! ## Digits -/

lemma mul_pow_le_ofDigitChars (s : Nat) (ds : List Char) :
    s * 10 ^ ds.length ≤ Nat.ofDigitChars 10 ds s := by
  rw [Nat.ofDigitChars_eq_ofDigitChars_zero, Nat.mul_comm]
  exact Nat.le_add_right _ _

/-- The digits taken are some of the first ones, and the rest is left. -/
lemma take64_spec {s : Nat} (hs : s < UInt64.size) (ds : List Char) :
    (take64 s ds).1 < UInt64.size ∧ ∃ taken, ds = taken ++ (take64 s ds).2 ∧
      (take64 s ds).1 = Nat.ofDigitChars 10 taken s := by
  induction ds generalizing s with
  | nil => exact ⟨hs, [], rfl, rfl⟩
  | cons c ds ih =>
    rw [take64]
    split
    next hnext =>
      obtain ⟨hlt, taken, hds, hvalue⟩ := ih hnext
      refine ⟨hlt, c :: taken, congrArg (c :: ·) hds, ?_⟩
      rw [hvalue, Nat.ofDigitChars_cons, Nat.mul_comm]
    next => exact ⟨hs, [], rfl, rfl⟩

/-- Digits of a number that fits are all taken. -/
lemma take64_eq {s : Nat} {ds : List Char} (h : Nat.ofDigitChars 10 ds s < UInt64.size) :
    take64 s ds = (Nat.ofDigitChars 10 ds s, []) := by
  induction ds generalizing s with
  | nil => rfl
  | cons c ds ih =>
    rw [Nat.ofDigitChars_cons] at h ⊢
    have hnext : s * 10 + (c.toNat - '0'.toNat) < UInt64.size := by
      have hle := mul_pow_le_ofDigitChars (10 * s + (c.toNat - '0'.toNat)) ds
      have hpow : 0 < 10 ^ ds.length := Nat.pow_pos (by omega)
      have hmul := Nat.le_mul_of_pos_right (10 * s + (c.toNat - '0'.toNat)) hpow
      omega
    have hcomm : s * 10 + (c.toNat - '0'.toNat) = 10 * s + (c.toNat - '0'.toNat) := by omega
    rw [take64]
    rw [if_pos hnext, hcomm, ih h]

/-- Without the digits that were dropped, a number is smaller. -/
lemma take64_mul_pow_le {s : Nat} (hs : s < UInt64.size) (ds : List Char) :
    (take64 s ds).1 * 10 ^ (take64 s ds).2.length ≤ Nat.ofDigitChars 10 ds s := by
  obtain ⟨-, taken, hds, hvalue⟩ := take64_spec hs ds
  conv_rhs => rw [hds]
  rw [Nat.ofDigitChars_append, ← hvalue]
  exact mul_pow_le_ofDigitChars _ _

/-! ## Scaling -/

/-- A bound below which numerals are read as finite doubles. -/
def readable : Nat := (2 ^ 54 - 7) * 2 ^ 970

/-- An integer of up to `10 ^ 308` is inside the range of doubles. -/
lemma two_mul_lt_overflow {a : Nat} (h : a ≤ 10 ^ 308) :
    2 * (a * 2 ^ Format.double.scale) < Format.double.overflow := by
  have hlimit : 2 * (10 ^ 308 * 2 ^ Format.double.scale) < Format.double.overflow := by
    decide +kernel
  have hle := Nat.mul_le_mul_right (2 ^ Format.double.scale) h
  omega

lemma two_pow_fraction_le {a : Nat} (h : 0 < a) :
    2 ^ Format.double.fraction ≤ a * 2 ^ Format.double.scale := by
  have hscale : 2 ^ Format.double.fraction ≤ 2 ^ Format.double.scale := by decide +kernel
  exact Nat.le_trans hscale (Nat.le_mul_of_pos_left _ h)

lemma isInfinite_ofInt_mul_powerOfTen {s k : Nat} (hs : s < UInt64.size) (hk : k ≤ 308)
    (h : s * 10 ^ k ≤ readable) :
    ((Format.double.ofInt s).mul (powerOfTen k)).isInfinite = false := by
  have htop : 3 ≤ Format.double.top := by decide
  rcases Nat.eq_zero_or_pos s with rfl | hpos
  · have hzero : (Format.double.ofInt (0 : Nat)).magnitude = 0 := by decide +kernel
    refine Format.isInfinite_round _ (Format.nearest_lt_infinite htop ?_)
    rw [hzero, Nat.zero_mul, Nat.zero_mul]
    decide +kernel
  · have hsize : UInt64.size ≤ 10 ^ 308 := by decide +kernel
    have hsmall : s ≤ 10 ^ 308 := Nat.le_trans (Nat.le_of_lt hs) hsize
    have hpow : 10 ^ k ≤ 10 ^ 308 := pow_le_pow_right₀ (by decide) hk
    have hab : 2 * (s * 10 ^ k) ≤ 2 * readable := Nat.mul_le_mul_left 2 h
    exact Format.isInfinite_mul_round htop (two_mul_lt_overflow hsmall)
      (two_pow_fraction_le hpos) (two_mul_lt_overflow hpow)
      (two_pow_fraction_le (Nat.pow_pos (by omega))) hab (by decide +kernel) _ _

/-- A power of ten times digits is read as a finite double if it is below the bound. -/
lemma isSome_scaleBy {s : Nat} {e : Int} (hs : s < UInt64.size)
    (h : ∀ k : Nat, e = k → s * 10 ^ k ≤ readable) :
    (scaleBy (Format.double.ofInt s) e).isSome := by
  unfold scaleBy
  by_cases hneg : e < 0
  · rw [if_pos hneg]
    rfl
  obtain ⟨k, rfl⟩ := Int.eq_ofNat_of_zero_le (Int.not_lt.1 hneg)
  have hbound := h k rfl
  rw [if_neg hneg]
  by_cases hk : k ≤ 308
  · have hfinite := isInfinite_ofInt_mul_powerOfTen hs hk hbound
    rw [if_pos (by omega), Int.toNat_natCast]
    dsimp only
    rw [hfinite]
    rfl
  · -- Beyond the table of powers only zero is read, and any other digits exceed the bound.
    have hzero : s = 0 := by
      by_contra hne
      have hpow : 10 ^ 309 ≤ 10 ^ k := pow_le_pow_right₀ (by decide) (Nat.lt_of_not_le hk)
      have hle : 10 ^ k ≤ s * 10 ^ k := Nat.le_mul_of_pos_left _ (Nat.pos_of_ne_zero hne)
      have hlimit : readable < 10 ^ 309 := by decide +kernel
      exact absurd (Nat.le_trans hpow (Nat.le_trans hle hbound)) (Nat.not_le.2 hlimit)
    have hisZero : (Format.double.ofInt (0 : Nat)).isZero = true := by decide +kernel
    rw [if_neg (by omega), hzero, if_pos hisZero]
    rfl

/-! ## Reading -/

/-- The value of a numeral without its sign. -/
def value (n : Numeral) : ℚ :=
  Nat.ofDigitChars 10 (n.whole ++ n.fraction) 0 * 10 ^ (n.exponent.getD 0 - n.fraction.length)

lemma value_eq (n : Numeral) :
    n.value = Nat.ofDigitChars 10 n.fraction (Nat.ofDigitChars 10 n.whole 0) *
      10 ^ (n.exponent.getD 0 - n.fraction.length) := by
  rw [value, Nat.ofDigitChars_append]

variable {n : Numeral}

/-- A number that the digits reach with zeros behind it, scaled, does not exceed the value. -/
lemma mul_zpow_le_value {s k : Nat} {e : Int}
    (h : s * 10 ^ k ≤ Nat.ofDigitChars 10 n.fraction (Nat.ofDigitChars 10 n.whole 0))
    (he : e = k + (n.exponent.getD 0 - n.fraction.length)) : (s : ℚ) * 10 ^ e ≤ n.value := by
  have hcast : (s : ℚ) * 10 ^ k ≤
      (Nat.ofDigitChars 10 n.fraction (Nat.ofDigitChars 10 n.whole 0) : Nat) := by
    exact_mod_cast h
  rw [value_eq, he, zpow_add₀ (by norm_num), zpow_natCast, ← mul_assoc]
  exact mul_le_mul_of_nonneg_right hcast (by positivity)

/-- The whole digits of a numeral, with its exponent, do not exceed its value. -/
lemma whole_mul_le_value (n : Numeral) :
    (Nat.ofDigitChars 10 n.whole 0 : ℚ) * 10 ^ n.exponent.getD 0 ≤ n.value :=
  mul_zpow_le_value (mul_pow_le_ofDigitChars _ n.fraction) (by omega)

/-- The digits taken, scaled as they are read, do not exceed the value of the numeral. -/
lemma taken_mul_pow_le_value {s : Nat} {dropped : List Char}
    (hwhole : Nat.ofDigitChars 10 n.whole 0 < UInt64.size)
    (htake : take64 (Nat.ofDigitChars 10 n.whole 0) n.fraction = (s, dropped)) :
    (s : ℚ) * 10 ^ (n.exponent.getD 0 - (n.fraction.length - dropped.length : Nat)) ≤ n.value := by
  have hle := take64_mul_pow_le hwhole n.fraction
  obtain ⟨-, taken, hds, -⟩ := take64_spec hwhole n.fraction
  rw [htake] at hle hds
  dsimp only at hle hds
  have hlength : n.fraction.length = taken.length + dropped.length := by
    rw [← List.length_append, ← hds]
  exact mul_zpow_le_value hle (by omega)

/-- A numeral of which a digit other than zero was taken is not zero. -/
lemma value_ne_zero_of_taken {s : Nat} {dropped : List Char}
    (hwhole : Nat.ofDigitChars 10 n.whole 0 < UInt64.size)
    (htake : take64 (Nat.ofDigitChars 10 n.whole 0) n.fraction = (s, dropped)) (hs : s ≠ 0) :
    n.value ≠ 0 := by
  intro hzero
  have hle := taken_mul_pow_le_value hwhole htake
  have hpos : (0 : ℚ) <
      s * 10 ^ (n.exponent.getD 0 - (n.fraction.length - dropped.length : Nat)) := by positivity
  rw [hzero] at hle
  exact absurd hle (not_le.2 hpos)

/-- A numeral is read as a finite double if its value is below the bound, its whole digits fit and
its exponent is small, unless all of its digits are zeros. -/
theorem isSome_scaled? (hwhole : Nat.ofDigitChars 10 n.whole 0 < UInt64.size)
    (hexponent : ∀ e ∈ n.exponent, n.value ≠ 0 → e < 2147483648)
    (hvalue : n.value ≤ readable) : n.scaled?.isSome := by
  have htaken : (take64 (Nat.ofDigitChars 10 n.whole 0) n.fraction).1 < UInt64.size :=
    (take64_spec hwhole n.fraction).1
  rcases htake : take64 (Nat.ofDigitChars 10 n.whole 0) n.fraction with ⟨s, dropped⟩
  rw [htake] at htaken
  have hle := taken_mul_pow_le_value hwhole htake
  have hbound : ∀ k : Nat,
      n.exponent.getD 0 - (n.fraction.length - dropped.length : Nat) = (k : Int) →
        s * 10 ^ k ≤ readable := by
    intro k hk
    rw [hk, zpow_natCast] at hle
    exact_mod_cast hle.trans hvalue
  unfold scaled?
  rw [take64_eq hwhole]
  dsimp only
  rw [htake]
  dsimp only
  rw [Option.isSome_map]
  cases hn : n.exponent with
  | none =>
    rw [hn, Option.getD_none] at hbound
    refine isSome_scaleBy htaken fun k hk => hbound k ?_
    rw [List.length_nil] at hk
    omega
  | some e =>
    rw [hn, Option.getD_some] at hbound
    dsimp only
    by_cases habs : e.natAbs < 2147483648
    · rw [if_pos habs]
      refine isSome_scaleBy htaken fun k hk => hbound k ?_
      rw [List.length_nil] at hk
      omega
    · -- An exponent that does not fit fails only if it is positive and a digit is not zero.
      rw [if_neg habs, if_neg]
      · rfl
      · rintro ⟨hs, hpos⟩
        have hlt := hexponent e hn (value_ne_zero_of_taken hwhole htake hs)
        omega

end Numeral

end FieldSearch
