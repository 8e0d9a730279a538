/-!
# Binary floating point on bits

A `Binary` value is the bit pattern of an interchange format: one sign bit, an exponent field and
a fraction field. Every finite value is an integer multiple of the smallest positive value of its
format, so the file reads a pattern as that integer (`Binary.magnitude`, `Binary.units`), and
orders, rounds and converts in exact integer arithmetic. Infinities take part as the first
magnitude beyond the finite ones.

* `Format.round` — the nearest value of a format to a quotient of naturals, ties to even.
* `Binary.compare?` — the order of numbers, undefined on NaN.
* `Binary.totalOrder` — the order of all patterns, NaN included.
-/

namespace FieldSearch

/-- The quotient of two naturals to the nearest natural, a half going to the even neighbour. -/
def roundQuotient (num den : Nat) : Nat :=
  let q := num / den
  let r := num % den
  if 2 * r < den then q
  else if den < 2 * r then q + 1
  else q + q % 2

/-- An interchange format: the widths of the fraction and exponent fields. -/
structure Format where
  fraction : Nat
  exponent : Nat
deriving DecidableEq, Repr

namespace Format

/-- Double precision. -/
abbrev double : Format := ⟨52, 11⟩

/-- Single precision. -/
abbrev single : Format := ⟨23, 8⟩

variable (f : Format)

/-- All bits of a pattern. -/
def width : Nat := f.fraction + f.exponent + 1

/-- The exponent field of infinities and NaN. -/
def top : Nat := Nat.pow 2 f.exponent - 1

/-- The smallest positive value is `2 ^ (-scale)`. -/
def scale : Nat := Nat.pow 2 (f.exponent - 1) - 2 + f.fraction

/-- The weight of the sign bit. -/
def signWeight : Nat := Nat.pow 2 (f.width - 1)

/-- The unsigned pattern of infinity. -/
def infinite : Nat := f.top * Nat.pow 2 f.fraction

/-- The unsigned pattern nearest to `num / den`, ties to even; infinity once the quotient is
beyond the largest finite value. The shift `t` brings the quotient, counted in smallest positive
values, below `2 ^ (fraction + 1)`; a carry out of the fraction moves on to the exponent field. -/
def nearest (num den : Nat) : Nat :=
  let n := num * Nat.pow 2 f.scale
  let t := Nat.log2 (n / den) - f.fraction
  min (t * Nat.pow 2 f.fraction + roundQuotient n (den * Nat.pow 2 t)) f.infinite

end Format

/-- A value of a format, as its bit pattern. -/
structure Binary (f : Format) where
  bits : BitVec f.width
deriving DecidableEq, Repr

/-- Double precision values. -/
abbrev Double := Binary .double

/-- Single precision values. -/
abbrev Single := Binary .single

namespace Format

/-- The value with a given sign and unsigned pattern. -/
def pattern (f : Format) (negative : Bool) (unsigned : Nat) : Binary f :=
  ⟨BitVec.ofNat f.width (unsigned + if negative then f.signWeight else 0)⟩

/-- The value nearest to the signed quotient `± num / den`, ties to even. -/
def round (f : Format) (negative : Bool) (num den : Nat) : Binary f :=
  f.pattern negative (f.nearest num den)

/-- The value nearest to an integer. -/
def ofInt (f : Format) (n : Int) : Binary f :=
  f.round (n < 0) n.natAbs 1

/-- The quiet NaN without sign and payload. -/
def nan (f : Format) : Binary f :=
  f.pattern false (f.infinite + Nat.pow 2 (f.fraction - 1))

/-- Infinity with a given sign. -/
def infinity (f : Format) (negative : Bool) : Binary f :=
  f.pattern negative f.infinite

end Format

namespace Binary

variable {f : Format}

/-! ## Fields of a pattern -/

/-- The sign bit. -/
def negative (x : Binary f) : Bool := f.signWeight ≤ x.bits.toNat

/-- The pattern without its sign. -/
def unsigned (x : Binary f) : Nat := x.bits.toNat % f.signWeight

/-- The exponent field. -/
def exponentField (x : Binary f) : Nat := x.unsigned / Nat.pow 2 f.fraction

/-- The fraction field. -/
def fractionField (x : Binary f) : Nat := x.unsigned % Nat.pow 2 f.fraction

/-- Not a number. -/
def isNaN (x : Binary f) : Bool := f.infinite < x.unsigned

/-- One of the two infinities. -/
def isInfinite (x : Binary f) : Bool := x.unsigned = f.infinite

/-- A number with a magnitude inside the range. -/
def isFinite (x : Binary f) : Bool := x.unsigned < f.infinite

/-- Whether the value is zero, of either sign. -/
def isZero (x : Binary f) : Bool := x.unsigned = 0

/-! ## The value as an integer -/

/-- The absolute value in units of the smallest positive value. -/
def magnitude (x : Binary f) : Nat :=
  if x.exponentField = 0 then x.fractionField
  else (Nat.pow 2 f.fraction + x.fractionField) * Nat.pow 2 (x.exponentField - 1)

/-- The value in units of the smallest positive value. -/
def units (x : Binary f) : Int :=
  if x.negative then -(x.magnitude : Int) else x.magnitude

/-! ## Order -/

/-- The order of two numbers; undefined if one is NaN. Both zeros are equal. -/
def compare? (x y : Binary f) : Option Ordering :=
  if x.isNaN || y.isNaN then none else some (compare x.units y.units)

/-- Equality of numbers: NaN differs from itself and both zeros are equal. -/
def equal (x y : Binary f) : Bool := x.compare? y == some .eq

/-- The place of a pattern in the total order: negative patterns below positive ones, larger
magnitudes further out, NaN outermost. -/
def totalKey (x : Binary f) : Int :=
  if x.negative then -(x.unsigned : Int) - 1 else x.unsigned

/-- The total order on patterns. -/
def totalOrder (x y : Binary f) : Ordering := compare x.totalKey y.totalKey

theorem toNat_bits_lt (x : Binary f) : x.bits.toNat < 2 * f.signWeight := by
  have hw : 2 * f.signWeight = 2 ^ f.width := by
    rw [Format.signWeight, Nat.pow_eq, ← Nat.pow_succ']
    rfl
  rw [hw]
  exact x.bits.isLt

theorem toNat_bits (x : Binary f) :
    x.bits.toNat = x.unsigned + if x.negative then f.signWeight else 0 := by
  have hlt := x.toNat_bits_lt
  unfold unsigned negative
  by_cases h : f.signWeight ≤ x.bits.toNat
  · rw [Nat.mod_eq_sub_mod h, Nat.mod_eq_of_lt (by omega), if_pos (decide_eq_true h)]
    omega
  · rw [Nat.mod_eq_of_lt (Nat.lt_of_not_le h), if_neg (by simpa using h)]
    rfl

/-- No two patterns share a place in the total order. -/
theorem totalKey_inj {x y : Binary f} : x.totalKey = y.totalKey ↔ x = y := by
  constructor
  · intro h
    have hbits : x.bits.toNat = y.bits.toNat := by
      rw [x.toNat_bits, y.toNat_bits]
      unfold totalKey at h
      cases hx : x.negative <;> cases hy : y.negative <;> simp [hx, hy] at h ⊢ <;> omega
    cases x
    cases y
    simpa [BitVec.toNat_inj] using hbits
  · rintro rfl
    rfl

/-! ## Arithmetic and conversion -/

/-- The value with its sign turned. -/
def neg (x : Binary f) : Binary f := f.pattern (!x.negative) x.unsigned

/-- The rounded product of two finite values. -/
def mul (x y : Binary f) : Binary f :=
  f.round (x.negative != y.negative) (x.magnitude * y.magnitude)
    (Nat.pow 2 f.scale * Nat.pow 2 f.scale)

/-- The rounded quotient of two finite values, the second not zero. -/
def div (x y : Binary f) : Binary f :=
  f.round (x.negative != y.negative) x.magnitude y.magnitude

/-- The nearest value of another format. -/
def convert (g : Format) (x : Binary f) : Binary g :=
  if x.isNaN then g.nan
  else if x.isInfinite then g.infinity x.negative
  else g.round x.negative x.magnitude (Nat.pow 2 f.scale)

/-- Whether the value is a whole number. -/
def isWhole (x : Binary f) : Bool := x.isFinite && x.magnitude % Nat.pow 2 f.scale = 0

/-- The value without its fraction. -/
def truncate (x : Binary f) : Int := x.units.tdiv (Nat.pow 2 f.scale)

/-- A single as a double; nothing is lost. -/
def toDouble (x : Single) : Double := x.convert .double

/-- A double as the nearest single. -/
def toSingle (x : Double) : Single := x.convert .single

end Binary

end FieldSearch
