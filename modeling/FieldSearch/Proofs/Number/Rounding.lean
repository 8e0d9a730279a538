import FieldSearch.Number.Binary
import Mathlib.Algebra.Order.Ring.Nat
import Mathlib.Tactic.Linarith
import Mathlib.Tactic.Ring

/-!
# Rounding to a format

The value of a format nearest to a quotient, read as an integer: a quotient that is not too large
gives a finite value (`Format.nearest_lt_infinite`), and a quotient with as many binary digits as a
fraction has, or more, grows by at most one part in `2 ^ (fraction + 1)`
(`Format.magnitude_round_le`). So the product of two values is finite as soon as the product of
what they were rounded from is a little below the largest finite value.
-/

namespace FieldSearch

/-! ## Quotients -/

lemma div_le_roundQuotient (num den : Nat) : num / den ≤ roundQuotient num den := by
  unfold roundQuotient
  dsimp only
  split
  · exact Nat.le_refl _
  split <;> omega

lemma roundQuotient_le_succ (num den : Nat) : roundQuotient num den ≤ num / den + 1 := by
  unfold roundQuotient
  dsimp only
  split
  · omega
  split <;> omega

/-- Rounding adds at most a half. -/
lemma two_mul_roundQuotient_le (num den : Nat) :
    2 * (den * roundQuotient num den) ≤ 2 * num + den := by
  have hdiv : den * (num / den) + num % den = num := Nat.div_add_mod num den
  by_cases hup : roundQuotient num den ≤ num / den
  · have hle := Nat.mul_le_mul_left den hup
    omega
  · have hsucc : roundQuotient num den = num / den + 1 := by
      have hle := roundQuotient_le_succ num den
      omega
    have hhalf : den ≤ 2 * (num % den) := by
      by_contra hlt
      have hbelow : roundQuotient num den = num / den := by
        unfold roundQuotient
        rw [if_pos (by omega)]
      omega
    rw [hsucc, Nat.mul_add]
    omega

/-! ## Patterns -/

namespace Format

variable {f : Format}

lemma signWeight_eq : f.signWeight = 2 ^ f.exponent * 2 ^ f.fraction := by
  rw [signWeight, Nat.pow_eq, width, Nat.add_sub_cancel, Nat.add_comm, Nat.pow_add]

lemma infinite_lt_signWeight : f.infinite < f.signWeight := by
  have hexponent : 0 < 2 ^ f.exponent := Nat.two_pow_pos _
  have hfraction : 0 < 2 ^ f.fraction := Nat.two_pow_pos _
  rw [signWeight_eq, infinite, top, Nat.pow_eq, Nat.pow_eq]
  exact Nat.mul_lt_mul_of_pos_right (by omega) hfraction

variable (negative : Bool) {u : Nat}

lemma toNat_bits_pattern (hu : u < f.signWeight) :
    (f.pattern negative u).bits.toNat = u + if negative then f.signWeight else 0 := by
  have hwidth : 2 ^ f.width = 2 * f.signWeight := by
    rw [signWeight, Nat.pow_eq, ← Nat.pow_succ']
    rfl
  have hbits : (u + if negative then f.signWeight else 0) < 2 ^ f.width := by
    rw [hwidth]
    split <;> omega
  unfold pattern
  rw [BitVec.toNat_ofNat, Nat.mod_eq_of_lt hbits]

lemma unsigned_pattern (hu : u < f.signWeight) : (f.pattern negative u).unsigned = u := by
  rw [Binary.unsigned, toNat_bits_pattern negative hu]
  split
  · rw [Nat.add_mod_right, Nat.mod_eq_of_lt hu]
  · rw [Nat.add_zero, Nat.mod_eq_of_lt hu]

lemma negative_pattern (hu : u < f.signWeight) : (f.pattern negative u).negative = negative := by
  rw [Binary.negative, toNat_bits_pattern negative hu]
  cases negative with
  | true => exact decide_eq_true (Nat.le_add_left _ _)
  | false => exact decide_eq_false (Nat.not_le_of_lt hu)

end Format

namespace Binary

variable {f : Format} {x : Binary f}

lemma fields_eq {e fraction : Nat} (hfraction : fraction < 2 ^ f.fraction)
    (hx : x.unsigned = e * 2 ^ f.fraction + fraction) :
    x.exponentField = e ∧ x.fractionField = fraction := by
  have hpos : 0 < 2 ^ f.fraction := Nat.two_pow_pos _
  rw [exponentField, fractionField, Nat.pow_eq, hx, Nat.add_comm, Nat.add_mul_div_right _ _ hpos,
    Nat.add_mul_mod_self_right, Nat.div_eq_of_lt hfraction, Nat.mod_eq_of_lt hfraction,
    Nat.zero_add]
  exact ⟨rfl, rfl⟩

/-- A pattern made of a shift and a significand is that significand, shifted: a carry out of the
fraction has gone to the exponent. -/
lemma magnitude_eq {t r : Nat}
    (hx : x.unsigned = t * 2 ^ f.fraction + r) (hr : r ≤ 2 ^ (f.fraction + 1))
    (hnormal : 0 < t → 2 ^ f.fraction ≤ r) : x.magnitude = r * 2 ^ t := by
  have hpos : 0 < 2 ^ f.fraction := Nat.two_pow_pos _
  have hsucc : 2 ^ (f.fraction + 1) = 2 * 2 ^ f.fraction := Nat.pow_succ'
  by_cases hsub : r < 2 ^ f.fraction
  · obtain rfl : t = 0 := by
      by_contra ht
      have hle := hnormal (Nat.pos_of_ne_zero ht)
      omega
    obtain ⟨hexponent, hfraction⟩ := fields_eq hsub hx
    rw [magnitude, if_pos hexponent, hfraction, Nat.pow_zero, Nat.mul_one]
  by_cases hcarry : r = 2 ^ (f.fraction + 1)
  · have hu : x.unsigned = (t + 2) * 2 ^ f.fraction + 0 := by
      rw [hx, hcarry, hsucc]
      ring
    obtain ⟨hexponent, hfraction⟩ := fields_eq hpos hu
    rw [magnitude, hexponent, if_neg (by omega), hfraction, hcarry, Nat.pow_eq, Nat.pow_eq]
    have hshift : t + 2 - 1 = t + 1 := by omega
    rw [hshift]
    ring
  · have hu : x.unsigned = (t + 1) * 2 ^ f.fraction + (r - 2 ^ f.fraction) := by
      rw [hx, Nat.add_mul]
      omega
    obtain ⟨hexponent, hfraction⟩ := fields_eq (by omega) hu
    rw [magnitude, hexponent, if_neg (by omega), hfraction, Nat.pow_eq, Nat.pow_eq]
    have hr' : 2 ^ f.fraction + (r - 2 ^ f.fraction) = r := by omega
    rw [hr', Nat.add_sub_cancel]

end Binary

/-! ## Rounding -/

namespace Format

variable {f : Format} {num den : Nat}

/-- The shift that brings a quotient below `2 ^ (fraction + 1)`. -/
def shift (f : Format) (num den : Nat) : Nat :=
  Nat.log2 (num * 2 ^ f.scale / den) - f.fraction

/-- The rounded quotient, shifted. -/
def significand (f : Format) (num den : Nat) : Nat :=
  roundQuotient (num * 2 ^ f.scale) (den * 2 ^ f.shift num den)

lemma nearest_eq (num den : Nat) :
    f.nearest num den =
      min (f.shift num den * 2 ^ f.fraction + f.significand num den) f.infinite := rfl

lemma significand_le : f.significand num den ≤ 2 ^ (f.fraction + 1) := by
  have hlog : num * 2 ^ f.scale / den < 2 ^ (Nat.log2 (num * 2 ^ f.scale / den) + 1) :=
    Nat.lt_log2_self
  have hexponent : Nat.log2 (num * 2 ^ f.scale / den) + 1 ≤
      f.fraction + 1 + f.shift num den := by
    unfold shift
    omega
  have hlt : num * 2 ^ f.scale / den < 2 ^ (f.fraction + 1) * 2 ^ f.shift num den := by
    rw [← Nat.pow_add]
    exact Nat.lt_of_lt_of_le hlog (Nat.pow_le_pow_right (by omega) hexponent)
  have hquotient : num * 2 ^ f.scale / (den * 2 ^ f.shift num den) < 2 ^ (f.fraction + 1) := by
    rw [← Nat.div_div_eq_div_mul, Nat.div_lt_iff_lt_mul (Nat.two_pow_pos _)]
    exact hlt
  have hround := roundQuotient_le_succ (num * 2 ^ f.scale) (den * 2 ^ f.shift num den)
  unfold significand
  omega

/-- A quotient that is shifted has a leading one. -/
lemma le_of_shift_pos (hden : 0 < den) (hshift : 0 < f.shift num den) :
    den * 2 ^ f.shift num den * 2 ^ f.fraction ≤ num * 2 ^ f.scale := by
  have hne : num * 2 ^ f.scale / den ≠ 0 := by
    intro h
    unfold shift at hshift
    rw [h] at hshift
    simp at hshift
  have hlog : 2 ^ Nat.log2 (num * 2 ^ f.scale / den) ≤ num * 2 ^ f.scale / den :=
    Nat.log2_self_le hne
  have hexponent : Nat.log2 (num * 2 ^ f.scale / den) = f.shift num den + f.fraction := by
    unfold shift at hshift ⊢
    omega
  rw [hexponent, Nat.pow_add, Nat.le_div_iff_mul_le hden] at hlog
  calc den * 2 ^ f.shift num den * 2 ^ f.fraction
      = 2 ^ f.shift num den * 2 ^ f.fraction * den := by ring
    _ ≤ num * 2 ^ f.scale := hlog

lemma le_significand_of_shift_pos (hden : 0 < den) (hshift : 0 < f.shift num den) :
    2 ^ f.fraction ≤ f.significand num den := by
  have hle := le_of_shift_pos hden hshift
  have hpos : 0 < den * 2 ^ f.shift num den := Nat.mul_pos hden (Nat.two_pow_pos _)
  refine Nat.le_trans ?_ (div_le_roundQuotient _ _)
  rw [Nat.le_div_iff_mul_le hpos, Nat.mul_comm]
  exact hle

/-- The magnitude of a rounded quotient that is finite. -/
lemma magnitude_round (negative : Bool) (hden : 0 < den)
    (hfinite : f.nearest num den < f.infinite) :
    (f.round negative num den).magnitude = f.significand num den * 2 ^ f.shift num den := by
  rw [nearest_eq] at hfinite
  have hnearest : f.nearest num den =
      f.shift num den * 2 ^ f.fraction + f.significand num den := by
    rw [nearest_eq]
    omega
  have hunsigned := unsigned_pattern negative (f := f)
    (Nat.lt_trans (nearest_eq (f := f) num den ▸ hfinite) infinite_lt_signWeight)
  rw [hnearest] at hunsigned
  rw [round, hnearest]
  exact Binary.magnitude_eq hunsigned significand_le fun h => le_significand_of_shift_pos hden h

/-- A quotient with the digits of a fraction grows by at most one part in `2 ^ (fraction + 1)`. -/
lemma magnitude_round_le (negative : Bool) (hden : 0 < den)
    (hfinite : f.nearest num den < f.infinite)
    (hlarge : den * 2 ^ f.fraction ≤ num * 2 ^ f.scale) :
    den * (f.round negative num den).magnitude * 2 ^ (f.fraction + 1) ≤
      num * 2 ^ f.scale * (2 ^ (f.fraction + 1) + 1) := by
  have hleading : den * 2 ^ f.shift num den * 2 ^ f.fraction ≤ num * 2 ^ f.scale := by
    by_cases hshift : 0 < f.shift num den
    · exact le_of_shift_pos hden hshift
    · rw [Nat.eq_zero_of_not_pos hshift, Nat.pow_zero, Nat.mul_one]
      exact hlarge
  have hhalf := two_mul_roundQuotient_le (num * 2 ^ f.scale) (den * 2 ^ f.shift num den)
  rw [magnitude_round negative hden hfinite]
  calc den * (f.significand num den * 2 ^ f.shift num den) * 2 ^ (f.fraction + 1)
      = 2 * (den * 2 ^ f.shift num den * f.significand num den) * 2 ^ f.fraction := by ring
    _ ≤ (2 * (num * 2 ^ f.scale) + den * 2 ^ f.shift num den) * 2 ^ f.fraction :=
        Nat.mul_le_mul_right _ hhalf
    _ = 2 * (num * 2 ^ f.scale) * 2 ^ f.fraction +
        den * 2 ^ f.shift num den * 2 ^ f.fraction := by ring
    _ ≤ 2 * (num * 2 ^ f.scale) * 2 ^ f.fraction + num * 2 ^ f.scale :=
        Nat.add_le_add_left hleading _
    _ = num * 2 ^ f.scale * (2 ^ (f.fraction + 1) + 1) := by ring

/-- Below this bound, in units of the smallest positive value, a quotient is rounded to a finite
value: it is half a last place beyond the largest one. -/
def overflow (f : Format) : Nat := (2 ^ (f.fraction + 2) - 1) * 2 ^ (f.top - 2)

lemma overflow_add : f.overflow + 2 ^ (f.top - 2) = 2 ^ (f.fraction + 2) * 2 ^ (f.top - 2) := by
  have hpos : 0 < 2 ^ (f.fraction + 2) := Nat.two_pow_pos _
  rw [overflow, Nat.sub_mul, Nat.one_mul, Nat.sub_add_cancel]
  exact Nat.le_mul_of_pos_left _ hpos

lemma shift_le (h : 2 * (num * 2 ^ f.scale) < f.overflow * den) :
    f.shift num den ≤ f.top - 2 := by
  have hquotient : num * 2 ^ f.scale / den < 2 ^ (f.fraction + 1 + (f.top - 2)) := by
    have hden : 0 < den := Nat.pos_of_ne_zero fun hzero => by simp [hzero] at h
    rw [Nat.div_lt_iff_lt_mul hden]
    have hoverflow : f.overflow ≤ 2 * 2 ^ (f.fraction + 1 + (f.top - 2)) := by
      calc f.overflow ≤ f.overflow + 2 ^ (f.top - 2) := Nat.le_add_right _ _
        _ = 2 ^ (f.fraction + 2) * 2 ^ (f.top - 2) := overflow_add
        _ = 2 * 2 ^ (f.fraction + 1 + (f.top - 2)) := by ring
    have hle := Nat.mul_le_mul_right den hoverflow
    rw [Nat.mul_assoc] at hle
    omega
  by_cases hzero : num * 2 ^ f.scale / den = 0
  · rw [shift, hzero]
    simp
  · have hlog := (Nat.log2_lt hzero).2 hquotient
    rw [shift]
    omega

/-- A quotient below the bound is rounded to a finite value. -/
lemma nearest_lt_infinite (htop : 3 ≤ f.top) (h : 2 * (num * 2 ^ f.scale) < f.overflow * den) :
    f.nearest num den < f.infinite := by
  have hinfinite : f.infinite = (f.top - 2) * 2 ^ f.fraction + 2 ^ (f.fraction + 1) := by
    rw [infinite, Nat.pow_eq, Nat.pow_succ', ← Nat.add_mul, Nat.sub_add_cancel (by omega)]
  have hsignificand : f.significand num den ≤ 2 ^ (f.fraction + 1) := significand_le
  have hshift := shift_le h
  rw [nearest_eq, hinfinite]
  by_cases hlast : f.shift num den = f.top - 2
  · have hhalf := two_mul_roundQuotient_le (num * 2 ^ f.scale) (den * 2 ^ f.shift num den)
    have hlt : den * 2 ^ f.shift num den * (2 * f.significand num den) <
        den * 2 ^ f.shift num den * 2 ^ (f.fraction + 2) := by
      calc den * 2 ^ f.shift num den * (2 * f.significand num den)
          = 2 * (den * 2 ^ f.shift num den * f.significand num den) := by ring
        _ ≤ 2 * (num * 2 ^ f.scale) + den * 2 ^ f.shift num den := hhalf
        _ < f.overflow * den + den * 2 ^ f.shift num den := Nat.add_lt_add_right h _
        _ = (f.overflow + 2 ^ (f.top - 2)) * den := by rw [hlast]; ring
        _ = den * 2 ^ f.shift num den * 2 ^ (f.fraction + 2) := by
          rw [overflow_add, hlast]; ring
    have hsmall := Nat.lt_of_mul_lt_mul_left hlt
    rw [hlast]
    have hdouble : 2 ^ (f.fraction + 2) = 2 * 2 ^ (f.fraction + 1) := Nat.pow_succ'
    omega
  · have hle : (f.shift num den + 1) * 2 ^ f.fraction ≤ (f.top - 2) * 2 ^ f.fraction :=
      Nat.mul_le_mul_right _ (by omega)
    have hpos : 0 < 2 ^ f.fraction := Nat.two_pow_pos _
    rw [Nat.add_mul, Nat.one_mul] at hle
    omega

/-- A pattern is made of its sign and the rest. -/
lemma pattern_unsigned (x : Binary f) : f.pattern x.negative x.unsigned = x := by
  unfold pattern
  rw [← x.toNat_bits, BitVec.ofNat_toNat, BitVec.setWidth_eq]

lemma isInfinite_round (negative : Bool) (h : f.nearest num den < f.infinite) :
    (f.round negative num den).isInfinite = false := by
  have hunsigned := unsigned_pattern negative (Nat.lt_trans h infinite_lt_signWeight)
  rw [Binary.isInfinite, round, hunsigned, decide_eq_false_iff_not]
  omega

/-- Two integers, each within a bound of what it was rounded from. -/
lemma two_mul_mul_lt {x y a b c s bound limit : Nat} (hx : x * c ≤ a * s * (c + 1))
    (hy : y * c ≤ b * s * (c + 1)) (hab : 2 * (a * b) ≤ bound)
    (hbound : bound * (s * s) * ((c + 1) * (c + 1)) < limit * s * (c * c)) :
    2 * (x * y) < limit * s := by
  have hlt : 2 * (x * y) * (c * c) < limit * s * (c * c) := by
    calc 2 * (x * y) * (c * c) = 2 * ((x * c) * (y * c)) := by ring
      _ ≤ 2 * ((a * s * (c + 1)) * (b * s * (c + 1))) :=
          Nat.mul_le_mul_left 2 (Nat.mul_le_mul hx hy)
      _ = 2 * (a * b) * (s * s) * ((c + 1) * (c + 1)) := by ring
      _ ≤ bound * (s * s) * ((c + 1) * (c + 1)) :=
          Nat.mul_le_mul_right _ (Nat.mul_le_mul_right _ hab)
      _ < limit * s * (c * c) := hbound
  exact Nat.lt_of_mul_lt_mul_right hlt

lemma magnitude_round_one_le (negative : Bool) {a : Nat} (htop : 3 ≤ f.top)
    (hsmall : 2 * (a * 2 ^ f.scale) < f.overflow) (hlarge : 2 ^ f.fraction ≤ a * 2 ^ f.scale) :
    (f.round negative a 1).magnitude * 2 ^ (f.fraction + 1) ≤
      a * 2 ^ f.scale * (2 ^ (f.fraction + 1) + 1) := by
  have hfinite : f.nearest a 1 < f.infinite := nearest_lt_infinite htop (by rwa [Nat.mul_one])
  have hle := magnitude_round_le negative Nat.one_pos hfinite (by rwa [Nat.one_mul])
  rwa [Nat.one_mul] at hle

/-- The product of two rounded integers is finite if the product of the integers is enough below
the bound for the error of both roundings. -/
lemma isInfinite_mul_round {a b bound : Nat} (htop : 3 ≤ f.top)
    (ha : 2 * (a * 2 ^ f.scale) < f.overflow) (hla : 2 ^ f.fraction ≤ a * 2 ^ f.scale)
    (hb : 2 * (b * 2 ^ f.scale) < f.overflow) (hlb : 2 ^ f.fraction ≤ b * 2 ^ f.scale)
    (hab : 2 * (a * b) ≤ bound)
    (hbound : bound * (2 ^ f.scale * 2 ^ f.scale) *
      ((2 ^ (f.fraction + 1) + 1) * (2 ^ (f.fraction + 1) + 1)) <
        f.overflow * 2 ^ f.scale * (2 ^ (f.fraction + 1) * 2 ^ (f.fraction + 1)))
    (na nb : Bool) : ((f.round na a 1).mul (f.round nb b 1)).isInfinite = false := by
  have hproduct := two_mul_mul_lt (magnitude_round_one_le na htop ha hla)
    (magnitude_round_one_le nb htop hb hlb) hab hbound
  have hscaled := Nat.mul_lt_mul_of_pos_right hproduct (Nat.two_pow_pos f.scale)
  rw [Nat.mul_assoc, Nat.mul_assoc f.overflow] at hscaled
  exact isInfinite_round _ (nearest_lt_infinite htop hscaled)

end Format

end FieldSearch
