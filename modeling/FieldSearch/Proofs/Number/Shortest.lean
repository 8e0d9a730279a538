import FieldSearch.Object.Schema
import FieldSearch.Proofs.Json.Numerals
import FieldSearch.Proofs.Number.Scaled

/-!
# Numerals of floats

The shortest decimal of a float lies in the interval of the decimals that round to it, so it is not
beyond the upper end (`RoundingInterval.reaches_search`); its numeral is in the grammar of JSON and
has its value, however it is laid out.

Main statement: the numeral of a finite double is read as a finite double
(`Binary.isSome_double?_numeral`), and so is that of a finite single. For the three largest
magnitudes of doubles the interval reaches too close to the end of the range for the general bound,
and reading is carried out instead.
-/

namespace FieldSearch

/-! ## Decimals inside the interval -/

namespace RoundingInterval

variable {i : RoundingInterval} {tie : Tie}

lemma le_of_holds {num d : Nat} (h : i.holds num d = true) : num * i.den ≤ i.upper * d := by
  unfold holds at h
  split at h
  · simp only [Bool.and_eq_true, decide_eq_true_eq] at h
    exact h.2
  · simp only [Bool.and_eq_true, decide_eq_true_eq] at h
    exact Nat.le_of_lt h.2

/-- A decimal that is not beyond the upper end. -/
def Reaches (i : RoundingInterval) (d : Decimal) : Prop :=
  d.digits * 10 ^ d.exponent.toNat * i.den ≤ i.upper * 10 ^ (-d.exponent).toNat

lemma reaches_of_pick {p : Int} {digits : Nat} (h : i.pick tie p = some digits) :
    i.Reaches ⟨digits, p⟩ := by
  have hinside : ∀ k, i.holds (k * Nat.pow 10 p.toNat) (Nat.pow 10 (-p).toNat) = true →
      i.Reaches ⟨k, p⟩ := fun k hk => le_of_holds hk
  unfold pick at h
  dsimp only at h
  generalize i.value * Nat.pow 10 (-p).toNat / (i.den * Nat.pow 10 p.toNat) = below at h
  split at h
  next => cases h
  next hbelow _ =>
    obtain rfl := Option.some.inj h
    exact hinside _ hbelow
  next _ habove =>
    obtain rfl := Option.some.inj h
    exact hinside _ habove
  next hbelow habove =>
    have heither : digits = below ∨ digits = below + 1 := by
      split at h
      · exact .inl (Option.some.inj h).symm
      split at h
      · exact .inr (Option.some.inj h).symm
      cases tie with
      | up => exact .inr (Option.some.inj h).symm
      | even =>
        have hdigits := Option.some.inj h
        omega
    rcases heither with rfl | rfl
    · exact hinside _ hbelow
    · exact hinside _ habove

/-- The search ends inside the interval, or below its value when no grid has a point in it. -/
lemma reaches_search (hvalue : i.value ≤ i.upper) (p : Int) (steps : Nat) :
    i.Reaches (i.search tie p steps) := by
  induction steps generalizing p with
  | zero =>
    have hfloor := Nat.div_mul_le_self (i.value * 10 ^ (-p).toNat) (i.den * 10 ^ p.toNat)
    calc i.value * 10 ^ (-p).toNat / (i.den * 10 ^ p.toNat) * 10 ^ p.toNat * i.den
        = i.value * 10 ^ (-p).toNat / (i.den * 10 ^ p.toNat) * (i.den * 10 ^ p.toNat) := by ring
      _ ≤ i.value * 10 ^ (-p).toNat := hfloor
      _ ≤ i.upper * 10 ^ (-p).toNat := Nat.mul_le_mul_right _ hvalue
  | succ steps ih =>
    rw [search]
    split
    next digits hpick => exact reaches_of_pick hpick
    next => exact ih (p - 1)

end RoundingInterval

/-! ## Values of numerals -/

namespace Decimal

/-- The value of a decimal. -/
def value (d : Decimal) : ℚ := d.digits * 10 ^ d.exponent

lemma value_mul_den_le {d : Decimal} {i : RoundingInterval} (h : i.Reaches d) :
    d.value * i.den ≤ i.upper := by
  have hpow : (10 : ℚ) ^ d.exponent * 10 ^ (-d.exponent).toNat = 10 ^ d.exponent.toNat := by
    rw [← zpow_natCast, ← zpow_natCast, ← zpow_add₀ (by norm_num)]
    congr 1
    omega
  have hreaches : (d.digits : ℚ) * 10 ^ d.exponent.toNat * i.den ≤
      i.upper * 10 ^ (-d.exponent).toNat := by
    exact_mod_cast h
  have hpos : (0 : ℚ) < 10 ^ (-d.exponent).toNat := by positivity
  refine le_of_mul_le_mul_right ?_ hpos
  calc d.value * i.den * 10 ^ (-d.exponent).toNat
      = d.digits * (10 ^ d.exponent * 10 ^ (-d.exponent).toNat) * i.den := by
        rw [value]
        ring
    _ ≤ i.upper * 10 ^ (-d.exponent).toNat := by
        rw [hpow]
        exact hreaches

/-- The digits behind the point count against the exponent. -/
lemma value_numeral {n : Numeral} {digits : Nat} {p : Int}
    (hdigits : Nat.ofDigitChars 10 (n.whole ++ n.fraction) 0 = digits)
    (hexponent : n.exponent.getD 0 - n.fraction.length = p) :
    n.value = digits * 10 ^ p := by
  rw [Numeral.value, hdigits, hexponent]

/-- Digits with zeros behind them; zero itself is written without. -/
lemma ofDigitChars_padded (digits k : Nat) :
    Nat.ofDigitChars 10 (Nat.toDigits 10 digits ++
      if digits = 0 then [] else List.replicate k '0') 0 = digits * 10 ^ k := by
  rw [Nat.ofDigitChars_append, Nat.ofDigitChars_ten_toDigits]
  split
  next hzero => rw [Nat.ofDigitChars_nil, hzero, Nat.zero_mul]
  next => rw [Nat.ofDigitChars_replicate_zero, Nat.mul_comm]

lemma value_positional (d : Decimal) (negative keepFraction : Bool) :
    (d.positional negative keepFraction).value = d.value := by
  have htoDigits : Nat.ofDigitChars 10 (Nat.toDigits 10 d.digits) 0 = d.digits :=
    Nat.ofDigitChars_ten_toDigits
  unfold positional
  dsimp only
  by_cases hexponent : 0 ≤ d.exponent
  · obtain ⟨k, hk⟩ := Int.eq_ofNat_of_zero_le hexponent
    rw [if_pos hexponent, Numeral.value_eq, hk, Int.toNat_natCast, ofDigitChars_padded, value, hk,
      zpow_natCast]
    cases keepFraction with
    | false => simp
    | true =>
      have hten : (10 : ℚ) * (d.digits * 10 ^ k) * 10⁻¹ = d.digits * 10 ^ k := by ring
      simpa [Nat.ofDigitChars_cons] using hten
  rw [if_neg hexponent]
  by_cases hplaces : d.exponent.natAbs < (Nat.toDigits 10 d.digits).length
  · rw [if_pos hplaces]
    refine value_numeral ?_ ?_
    · rw [List.take_append_drop, htoDigits]
    · rw [List.length_drop, Option.getD_none]
      omega
  · rw [if_neg hplaces]
    refine value_numeral ?_ ?_
    · rw [Nat.ofDigitChars_append, Nat.ofDigitChars_append, Nat.ofDigitChars_replicate_zero]
      exact htoDigits
    · rw [List.length_append, List.length_replicate, Option.getD_none]
      omega

lemma value_scientific (d : Decimal) (negative : Bool) :
    (d.scientific negative).value = d.value := by
  have hpos : 0 < (Nat.toDigits 10 d.digits).length := Nat.length_toDigits_pos
  refine value_numeral ?_ ?_
  · rw [scientific, List.take_append_drop]
    exact Nat.ofDigitChars_ten_toDigits
  · rw [scientific, List.length_drop, Option.getD_some, leading]
    omega

/-! ## Sizes -/

lemma digits_lt (d : Decimal) : d.digits < 10 ^ (Nat.toDigits 10 d.digits).length :=
  (Nat.length_toDigits_le_iff (by decide) Nat.length_toDigits_pos).1 (Nat.le_refl _)

/-- A decimal is below the power of ten behind its first digit. -/
lemma value_lt (d : Decimal) : d.value < 10 ^ (d.leading + 1) := by
  have hlt : (d.digits : ℚ) < 10 ^ (Nat.toDigits 10 d.digits).length := by
    exact_mod_cast d.digits_lt
  have hexponent : d.leading + 1 = ((Nat.toDigits 10 d.digits).length : Int) + d.exponent := by
    rw [leading]
    omega
  rw [value, hexponent, zpow_add₀ (by norm_num), zpow_natCast]
  exact mul_lt_mul_of_pos_right hlt (by positivity)

/-- A decimal that is not zero is at least the power of ten of its first digit. -/
lemma le_value {d : Decimal} (h : d.value ≠ 0) : 10 ^ d.leading ≤ d.value := by
  have hdigits : d.digits ≠ 0 := by
    intro hzero
    exact h (by rw [value, hzero, Nat.cast_zero, zero_mul])
  have hlength := Nat.length_toDigits_pos (b := 10) (n := d.digits)
  have hle : 10 ^ ((Nat.toDigits 10 d.digits).length - 1) ≤ d.digits := by
    by_contra hlt
    rw [Nat.not_le] at hlt
    by_cases hone : (Nat.toDigits 10 d.digits).length - 1 = 0
    · rw [hone, Nat.pow_zero] at hlt
      omega
    · have hshort := (Nat.length_toDigits_le_iff (by decide) (Nat.pos_of_ne_zero hone)).2 hlt
      omega
  have hcast : (10 : ℚ) ^ ((Nat.toDigits 10 d.digits).length - 1) ≤ d.digits := by
    exact_mod_cast hle
  have hexponent : d.leading =
      (((Nat.toDigits 10 d.digits).length - 1 : Nat) : Int) + d.exponent := by
    rw [leading]
    omega
  rw [value, hexponent, zpow_add₀ (by norm_num), zpow_natCast]
  exact mul_le_mul_of_nonneg_right hcast (by positivity)

end Decimal

/-! ## Grammar -/

namespace Decimal

/-- The first digits of a number, zeros behind them or not, are whole digits in the grammar. -/
lemma grammatical_of_head {n : Numeral} {k : Nat}
    (hhead : n.whole.head? = (Nat.toDigits 10 k).head?) (hzero : k = 0 → n.whole = ['0'])
    (hdigits : ∀ c ∈ n.whole ++ n.fraction, c.isDigit = true) : n.Grammatical where
  whole_ne_nil := by
    intro hnil
    rw [hnil, List.head?_nil, eq_comm, List.head?_eq_none_iff] at hhead
    exact Nat.toDigits_ne_nil hhead
  whole_digits c hc := hdigits c (List.mem_append_left _ hc)
  no_zero_first h := by
    rcases Nat.eq_zero_or_pos k with hk | hk
    · exact hzero hk
    · exact absurd (hhead ▸ h) (head?_toDigits_ne_zero hk)
  fraction_digits c hc := hdigits c (List.mem_append_right _ hc)

/-- So are the first digits of a number that is cut off behind one of them. -/
lemma grammatical_take {negative : Bool} {k places : Nat} {exponent : Option Int}
    (hplaces : 0 < places) :
    Numeral.Grammatical ⟨negative, (Nat.toDigits 10 k).take places,
      (Nat.toDigits 10 k).drop places, exponent⟩ := by
  refine grammatical_of_head (k := k) ?_ ?_ ?_
  · rw [List.head?_take, if_neg (by omega)]
  · rintro rfl
    exact List.take_of_length_le hplaces
  · rw [List.take_append_drop]
    exact isDigit_of_mem_toDigits

lemma isDigit_of_mem_replicate {k : Nat} : ∀ c ∈ List.replicate k '0', c.isDigit = true := by
  intro c hc
  rw [List.eq_of_mem_replicate hc]
  rfl

lemma grammatical_positional (d : Decimal) (negative keepFraction : Bool) :
    (d.positional negative keepFraction).Grammatical := by
  unfold positional
  dsimp only
  by_cases hexponent : 0 ≤ d.exponent
  · rw [if_pos hexponent]
    refine grammatical_of_head (k := d.digits) ?_ ?_ ?_
    · exact List.head?_append_of_ne_nil _ Nat.toDigits_ne_nil
    · intro hzero
      rw [if_pos hzero, hzero]
      rfl
    · simp only [List.forall_mem_append]
      refine ⟨⟨isDigit_of_mem_toDigits, ?_⟩, ?_⟩
      · split
        · exact fun c hc => absurd hc List.not_mem_nil
        · exact isDigit_of_mem_replicate
      · split
        · exact List.forall_mem_singleton.2 rfl
        · exact fun c hc => absurd hc List.not_mem_nil
  rw [if_neg hexponent]
  by_cases hplaces : d.exponent.natAbs < (Nat.toDigits 10 d.digits).length
  · rw [if_pos hplaces]
    exact grammatical_take (by omega)
  · rw [if_neg hplaces]
    refine grammatical_of_head (k := 0) rfl (fun _ => rfl) ?_
    simp only [List.forall_mem_append]
    exact ⟨List.forall_mem_singleton.2 rfl, isDigit_of_mem_replicate, isDigit_of_mem_toDigits⟩

lemma grammatical_scientific (d : Decimal) (negative : Bool) :
    (d.scientific negative).Grammatical := grammatical_take (by decide)

end Decimal

/-! ## Floats -/

namespace Binary

/-- The numeral of a float is in the grammar of JSON. -/
lemma grammatical_numeral {f : Format} (l : FloatLayout) (x : Binary f) :
    (l.numeral x).Grammatical := by
  unfold FloatLayout.numeral
  generalize (if x.isZero then (⟨0, 0⟩ : Decimal) else x.shortest l.tie) = d
  dsimp only
  split
  · exact d.grammatical_positional _ _
  · split
    · exact d.grammatical_positional _ _
    · exact d.grammatical_scientific _

lemma exponent_positional (d : Decimal) (negative keepFraction : Bool) :
    (d.positional negative keepFraction).exponent = none := by
  unfold Decimal.positional
  dsimp only
  split
  · rfl
  · split <;> rfl

lemma isSome_scaled?_positional {d : Decimal} (h : d.value ≤ Numeral.readable)
    (hleading : d.leading ≤ 15) (negative : Bool) :
    (d.positional negative true).scaled?.isSome := by
  have hexponent := exponent_positional d negative true
  have hvalue := d.value_positional negative true
  refine Numeral.isSome_scaled? ?_ ?_ (hvalue ▸ h)
  · have hwhole := (d.positional negative true).whole_mul_le_value
    rw [hexponent, Option.getD_none, zpow_zero, mul_one, hvalue] at hwhole
    have hpow : (10 : ℚ) ^ (d.leading + 1) ≤ 10 ^ (16 : Int) :=
      zpow_le_zpow_right₀ (by norm_num) (by omega)
    have hlt := hwhole.trans_lt (d.value_lt.trans_le hpow)
    have hnat : Nat.ofDigitChars 10 (d.positional negative true).whole 0 < 10 ^ 16 := by
      exact_mod_cast hlt
    exact Nat.lt_trans hnat (by decide)
  · rw [hexponent]
    exact fun e he => absurd he (Option.not_mem_none e)

lemma isSome_scaled?_scientific {d : Decimal} (h : d.value ≤ Numeral.readable) (negative : Bool) :
    (d.scientific negative).scaled?.isSome := by
  have hvalue := d.value_scientific negative
  refine Numeral.isSome_scaled? ?_ ?_ (hvalue ▸ h)
  · have hwhole := (d.scientific negative).whole_mul_le_value
    rw [hvalue] at hwhole
    have hlt := hwhole.trans_lt d.value_lt
    rw [zpow_add_one₀ (by norm_num), mul_comm (10 ^ d.leading)] at hlt
    have hdigit := lt_of_mul_lt_mul_right hlt (by positivity)
    have hnat : Nat.ofDigitChars 10 (d.scientific negative).whole 0 < 10 := by
      exact_mod_cast hdigit
    exact Nat.lt_trans hnat (by decide)
  · rintro e ⟨⟩ hne
    rw [hvalue] at hne
    by_contra hlarge
    have hpow : (10 : ℚ) ^ (309 : Int) ≤ 10 ^ d.leading :=
      zpow_le_zpow_right₀ (by norm_num) (by omega)
    have hle := hpow.trans ((Decimal.le_value hne).trans h)
    have hnat : 10 ^ 309 ≤ Numeral.readable := by exact_mod_cast hle
    exact absurd hnat (by decide +kernel)

lemma upper_interval {f : Format} (x : Binary f) :
    x.interval.upper = 4 * x.magnitude + 2 * 2 ^ (x.exponentField - 1) := rfl

lemma den_interval {f : Format} (x : Binary f) : x.interval.den = 4 * 2 ^ f.scale := rfl

/-- The interval of all but the three largest magnitudes is below the bound. -/
lemma upper_interval_le {x : Double} (h : x.unsigned + 4 ≤ Format.double.infinite) :
    x.interval.upper ≤ Numeral.readable * x.interval.den := by
  have hinfinite : Format.double.infinite = 2047 * 2 ^ 52 := by decide +kernel
  have hfields : x.exponentField * 2 ^ 52 + x.fractionField = x.unsigned :=
    Nat.div_add_mod' x.unsigned (2 ^ 52)
  have hfraction : x.fractionField < 2 ^ 52 := Nat.mod_lt _ (by decide)
  have hbound : ∀ c k c' k' : Nat, c ≤ c' → k ≤ k' →
      c' * 2 ^ k' ≤ Numeral.readable * (4 * 2 ^ Format.double.scale) →
      c * 2 ^ k ≤ Numeral.readable * (4 * 2 ^ Format.double.scale) := by
    intro c k c' k' hc hk hle
    exact Nat.le_trans (Nat.mul_le_mul hc (Nat.pow_le_pow_right (by decide) hk)) hle
  rw [upper_interval, den_interval]
  by_cases hsub : x.exponentField = 0
  · have hmagnitude : x.magnitude = x.fractionField := by
      rw [magnitude, if_pos hsub]
    have hle := hbound (4 * x.fractionField + 2) 0 (2 ^ 55) 0
      (by omega) (by omega) (by decide +kernel)
    rw [hmagnitude, hsub]
    omega
  have hmagnitude : 4 * x.magnitude + 2 * 2 ^ (x.exponentField - 1) =
      (4 * (2 ^ 52 + x.fractionField) + 2) * 2 ^ (x.exponentField - 1) := by
    rw [magnitude, if_neg hsub, Nat.pow_eq, Nat.pow_eq]
    ring
  rw [hmagnitude]
  -- Only the last binade is too close to the bound to be counted as full.
  by_cases hlast : x.exponentField = 2046
  · exact hbound _ _ (2 ^ 55 - 14) 2045 (by omega) (by omega) (by decide +kernel)
  · exact hbound _ _ (2 ^ 55) 2044 (by omega) (by omega) (by decide +kernel)

/-- The interval of a single is far below the bound. -/
lemma upper_interval_single_le {x : Single} (h : x.isFinite = true) :
    x.interval.upper ≤ Numeral.readable * x.interval.den := by
  have hlt : x.unsigned < 255 * 2 ^ 23 := of_decide_eq_true h
  have hfields : x.exponentField * 2 ^ 23 + x.fractionField = x.unsigned :=
    Nat.div_add_mod' x.unsigned (2 ^ 23)
  have hfraction : x.fractionField < 2 ^ 23 := Nat.mod_lt _ (by decide)
  have hpow : 2 ^ (x.exponentField - 1) ≤ 2 ^ 253 := Nat.pow_le_pow_right (by decide) (by omega)
  have hmagnitude : x.magnitude ≤ 2 ^ 24 * 2 ^ 253 := by
    unfold magnitude
    split
    · exact Nat.le_trans (Nat.le_of_lt hfraction) (by decide +kernel)
    · have hsignificand : 2 ^ Format.single.fraction + x.fractionField ≤ 2 ^ 24 := by
        change 2 ^ 23 + x.fractionField ≤ 2 ^ 24
        omega
      exact Nat.mul_le_mul hsignificand hpow
  calc x.interval.upper
    _ = 4 * x.magnitude + 2 * 2 ^ (x.exponentField - 1) := upper_interval x
    _ ≤ 4 * (2 ^ 24 * 2 ^ 253) + 2 * 2 ^ 253 :=
      Nat.add_le_add (Nat.mul_le_mul_left 4 hmagnitude) (Nat.mul_le_mul_left 2 hpow)
    _ ≤ Numeral.readable * (4 * 2 ^ Format.single.scale) := by decide +kernel

/-- The decimal of a float, zero included, is below the bound if its interval is. -/
lemma value_decimal_le {f : Format} {x : Binary f}
    (h : x.interval.upper ≤ Numeral.readable * x.interval.den) (tie : Tie) :
    (if x.isZero then (⟨0, 0⟩ : Decimal) else x.shortest tie).value ≤ Numeral.readable := by
  by_cases hzero : x.isZero = true
  · rw [if_pos hzero, Decimal.value, Nat.cast_zero, zero_mul]
    exact Nat.cast_nonneg _
  · have hvalue : x.interval.value ≤ x.interval.upper := Nat.le_add_right _ _
    have hreaches : x.interval.Reaches (x.shortest tie) :=
      RoundingInterval.reaches_search hvalue x.decimalCeiling 20
    have hupper : (x.interval.upper : ℚ) ≤ Numeral.readable * x.interval.den := by
      exact_mod_cast h
    have hden : (0 : ℚ) < x.interval.den := by
      rw [den_interval]
      exact Nat.cast_pos.2 (Nat.mul_pos (by decide) (Nat.two_pow_pos _))
    rw [if_neg hzero]
    exact le_of_mul_le_mul_right ((Decimal.value_mul_den_le hreaches).trans hupper) hden

/-- A numeral below the bound is read, if it has no long row of digits before the point. -/
lemma isSome_scaled?_numeral {f : Format} {x : Binary f} {l : FloatLayout} {low high : Int}
    (hplain : l.plain = some (low, high)) (hhigh : high ≤ 15) (hkeep : l.keepFraction = true)
    (h : x.interval.upper ≤ Numeral.readable * x.interval.den) :
    (l.numeral x).scaled?.isSome = true := by
  have hvalue := value_decimal_le h l.tie
  unfold FloatLayout.numeral
  generalize (if x.isZero then (⟨0, 0⟩ : Decimal) else x.shortest l.tie) = d at hvalue ⊢
  rw [hplain, hkeep]
  dsimp only
  by_cases hleading : low ≤ d.leading ∧ d.leading ≤ high
  · rw [if_pos hleading]
    exact isSome_scaled?_positional hvalue (Int.le_trans hleading.2 hhigh) _
  · rw [if_neg hleading]
    exact isSome_scaled?_scientific hvalue _

lemma isSome_double?_of_scaled? {n : Numeral} (h : n.scaled?.isSome = true) :
    (Json.double? n).isSome = true := by
  unfold Json.double?
  split
  · rfl
  · exact h

/-- The three largest magnitudes are read as finite doubles. -/
lemma isSome_double?_of_largest : ∀ k < 3, ∀ negative : Bool,
    (Json.double? (Json.doubleLayout.numeral
      (Format.double.pattern negative (Format.double.infinite - (k + 1))))).isSome = true := by
  decide +kernel

/-- The numeral of a finite double is read as a double. -/
theorem isSome_double?_numeral {x : Double} (hx : x.isFinite = true) :
    (Json.double? (Json.doubleLayout.numeral x)).isSome = true := by
  have hlt : x.unsigned < Format.double.infinite := of_decide_eq_true hx
  by_cases hlarge : x.unsigned + 4 ≤ Format.double.infinite
  · exact isSome_double?_of_scaled?
      (isSome_scaled?_numeral rfl (by decide) rfl (upper_interval_le hlarge))
  · -- The interval of these ends above the range, so the bound on its decimals is of no use.
    have hlargest := isSome_double?_of_largest (Format.double.infinite - 1 - x.unsigned)
      (by omega) x.negative
    have hunsigned : Format.double.infinite - (Format.double.infinite - 1 - x.unsigned + 1) =
        x.unsigned := by omega
    rw [hunsigned, Format.pattern_unsigned] at hlargest
    exact hlargest

/-- The numeral of a finite single is read as a double too. -/
theorem isSome_double?_numeral_single {x : Single} (hx : x.isFinite = true) :
    (Json.double? (Json.singleLayout.numeral x)).isSome = true :=
  isSome_double?_of_scaled?
    (isSome_scaled?_numeral rfl (by decide) rfl (upper_interval_single_le hx))

end Binary

end FieldSearch
