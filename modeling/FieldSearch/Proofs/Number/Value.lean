import FieldSearch.Proofs.Number.Rounding
import Mathlib.Algebra.Order.Field.Power
import Mathlib.Algebra.Order.Field.Rat
import Mathlib.Tactic.FieldSimp
import Mathlib.Tactic.NormNum

/-!
# The numbers of a format

`Binary.real?` reads a pattern as the format describes it: a significand with a leading one, or with
a leading zero under the lowest exponent, times a power of two. The same number is
`Binary.units`, counted in smallest positive values (`Binary.real?_eq_some_iff`), which is how
patterns are computed with.
-/

namespace FieldSearch

/-- The exponent field of the numbers from one up to two. -/
def Format.bias (f : Format) : Nat := 2 ^ (f.exponent - 1) - 1

namespace Binary

variable {f : Format}

/-- The number that a pattern stands for; infinities and NaN stand for none. -/
def real? (x : Binary f) : Option ℚ :=
  let part : ℚ := x.fractionField / 2 ^ f.fraction
  let size : ℚ :=
    if x.exponentField = 0 then part * 2 ^ (1 - f.bias : Int)
    else (1 + part) * 2 ^ (x.exponentField - f.bias : Int)
  if x.exponentField = f.top then none else some (if x.negative then -size else size)

variable {x : Binary f}

/-- Beyond the finite patterns only the highest exponent is left. -/
lemma isFinite_iff : x.isFinite = true ↔ x.exponentField ≠ f.top := by
  have hfraction : 0 < 2 ^ f.fraction := Nat.two_pow_pos _
  have hexponent : 0 < 2 ^ f.exponent := Nat.two_pow_pos _
  have hweight : 0 < f.signWeight := by
    rw [Format.signWeight_eq]
    exact Nat.mul_pos hexponent hfraction
  have hunsigned : x.unsigned < 2 ^ f.exponent * 2 ^ f.fraction := by
    rw [← Format.signWeight_eq]
    exact Nat.mod_lt _ hweight
  have htop : x.exponentField < 2 ^ f.exponent := by
    rw [exponentField, Nat.pow_eq, Nat.div_lt_iff_lt_mul hfraction]
    exact hunsigned
  have hfinite : x.unsigned < f.infinite ↔ x.exponentField < f.top := by
    rw [exponentField, Format.infinite, Nat.pow_eq, Nat.div_lt_iff_lt_mul hfraction]
  have heq : f.top = 2 ^ f.exponent - 1 := rfl
  rw [isFinite, decide_eq_true_iff, hfinite]
  omega

/-- The lowest exponent of a format, in which its smallest positive values are counted. -/
lemma two_zpow_mul_two_pow_scale (hf : 2 ≤ f.exponent) (e : Int) :
    (2 : ℚ) ^ (e + 1 - f.bias) * 2 ^ f.scale = 2 ^ e * 2 ^ f.fraction := by
  have hpow : 2 ≤ 2 ^ (f.exponent - 1) :=
    Nat.pow_le_pow_right (n := 2) (by decide) (show 1 ≤ f.exponent - 1 by omega)
  have hscale : f.scale = 2 ^ (f.exponent - 1) - 2 + f.fraction := rfl
  have hexponent : e + 1 - (f.bias : Int) + (f.scale : Int) = e + (f.fraction : Int) := by
    rw [hscale, Format.bias]
    omega
  rw [← zpow_natCast, ← zpow_add₀ (by norm_num), hexponent, zpow_add₀ (by norm_num), zpow_natCast]

/-- The number without its sign, counted in smallest positive values. -/
lemma size_mul_two_pow_scale (hf : 2 ≤ f.exponent) :
    (if x.exponentField = 0 then
        (x.fractionField / 2 ^ f.fraction : ℚ) * 2 ^ (1 - f.bias : Int)
      else (1 + x.fractionField / 2 ^ f.fraction : ℚ) * 2 ^ (x.exponentField - f.bias : Int)) *
        2 ^ f.scale = x.magnitude := by
  have hne : (2 : ℚ) ^ f.fraction ≠ 0 := by positivity
  unfold magnitude
  split
  next =>
    have hlow := two_zpow_mul_two_pow_scale hf 0
    rw [zero_add, zpow_zero, one_mul] at hlow
    rw [mul_assoc, hlow, div_mul_cancel₀ _ hne]
  next hexponent =>
    have hshift := two_zpow_mul_two_pow_scale hf (x.exponentField - 1 : Nat)
    have heq : ((x.exponentField - 1 : Nat) : Int) + 1 = x.exponentField := by omega
    rw [heq, zpow_natCast] at hshift
    rw [mul_assoc, hshift, Nat.pow_eq, Nat.pow_eq]
    push_cast
    field_simp

theorem real?_eq_some_iff (hf : 2 ≤ f.exponent) {y : ℚ} :
    x.real? = some y ↔ x.isFinite = true ∧ (x.units : ℚ) = y * 2 ^ f.scale := by
  have hne : (2 : ℚ) ^ f.scale ≠ 0 := by positivity
  have hsize := size_mul_two_pow_scale (x := x) hf
  unfold real?
  dsimp only
  rw [isFinite_iff]
  split
  next htop => simp [htop]
  next htop =>
    rw [Option.some.injEq, ← mul_left_inj' hne]
    unfold units
    split
    next => simp [htop, ← hsize]
    next => simp [htop, ← hsize]

end Binary

end FieldSearch
