import FieldSearch.Number.Integer

/-!
# Decimal numerals

A `Numeral` is a decimal literal taken apart: sign, whole digits, digits behind the point, and an
exponent. It is written by `Numeral.render` and read in three ways:

* `Numeral.integer?` — as an integer, if it is one and fits a signed or unsigned word;
* `Numeral.scaled?` — as a double, through 64 bits of digits and powers of ten in double
  arithmetic, so the last bit may differ from the nearest double;
* `Numeral.nearest` — as the nearest double.
-/

namespace FieldSearch

/-- A decimal literal. The digit lists hold the characters `0` to `9`; no digits behind the point
stand for no point. -/
structure Numeral where
  negative : Bool
  whole : List Char
  fraction : List Char
  exponent : Option Int
deriving DecidableEq, Repr

namespace Numeral

/-- The literal of an integer. -/
def ofInt (n : Int) : Numeral := ⟨n < 0, Nat.toDigits 10 n.natAbs, [], none⟩

/-- The text of a numeral; an exponent always carries its sign. -/
def render (n : Numeral) : List Char :=
  (if n.negative then ['-'] else []) ++ n.whole
    ++ (if n.fraction.isEmpty then [] else '.' :: n.fraction)
    ++ match n.exponent with
      | none => []
      | some e => 'e' :: (if 0 ≤ e then '+' else '-') :: Nat.toDigits 10 e.natAbs

/-- The integer a numeral without point and exponent stands for, if it fits a signed or unsigned
word of 64 bits. A negative zero is no integer. -/
def integer? (n : Numeral) : Option Int :=
  if n.fraction.isEmpty && n.exponent.isNone then
    let magnitude : Nat := Nat.ofDigitChars 10 n.whole 0
    if n.negative then
      if 0 < magnitude ∧ magnitude ≤ wordEnd then some (-(magnitude : Int)) else none
    else if magnitude < UInt64.size then some magnitude else none
  else none

theorem integer?_ofInt {n : Int} (hlow : -wordEnd ≤ n) (hhigh : n < UInt64.size) :
    (ofInt n).integer? = some n := by
  have hdigits : Nat.ofDigitChars 10 (Nat.toDigits 10 n.natAbs) 0 = n.natAbs :=
    Nat.ofDigitChars_ten_toDigits
  simp only [integer?, ofInt, List.isEmpty_nil, Option.isNone_none, Bool.and_self, if_true, hdigits,
    decide_eq_true_eq]
  split
  · rw [if_pos (by omega)]
    congr 1
    omega
  · rw [if_pos (by omega)]
    congr 1
    omega

/-! ## Reading through 64 bits of digits -/

/-- Digits taken into a word of 64 bits as long as they fit, and those that did not. -/
def take64 (significand : Nat) : List Char → Nat × List Char
  | [] => (significand, [])
  | c :: cs =>
    let next := significand * 10 + (c.toNat - '0'.toNat)
    if next < UInt64.size then take64 next cs else (significand, c :: cs)

/-- A power of ten as a double. -/
def powerOfTen (k : Nat) : Double := Format.double.round false (Nat.pow 10 k) 1

/-- A double divided by `10 ^ k`, in steps of `10 ^ 308`. -/
def divideByPower (x : Double) (k : Nat) : Double :=
  if k ≤ 308 then x.div (powerOfTen k)
  else if x.isZero then x
  else divideByPower (x.div (powerOfTen 308)) (k - 308)
termination_by k

/-- A double times `10 ^ e`; nothing if the product is beyond the doubles. -/
def scaleBy (x : Double) (e : Int) : Option Double :=
  if e < 0 then some (divideByPower x e.natAbs)
  else if e ≤ 308 then
    let y := x.mul (powerOfTen e.toNat)
    if y.isInfinite then none else some y
  else if x.isZero then some x
  else none

/-- The double of a numeral, read through the leading digits that fit 64 bits. Further whole
digits only raise the exponent, further digits behind the point are dropped. -/
def scaled? (n : Numeral) : Option Double :=
  let (significand, beyond) := take64 0 n.whole
  let (significand, dropped) := take64 significand n.fraction
  let shift : Int := beyond.length - (n.fraction.length - dropped.length : Nat)
  let x := Format.double.ofInt significand
  let y? : Option Double :=
    match n.exponent with
    | none => scaleBy x shift
    | some e =>
      if e.natAbs < 2147483648 then
        scaleBy x (max (-2147483648) (min (shift + e) 2147483647))
      else if significand ≠ 0 ∧ 0 < e then none
      else some (Format.double.ofInt 0)
  y?.map fun y => if n.negative then y.neg else y

/-! ## Reading to the nearest double -/

/-- The double nearest to a numeral; infinity beyond the doubles. -/
def nearest (n : Numeral) : Double :=
  let digits := (n.whole ++ n.fraction).dropWhile (· == '0')
  let significand := Nat.ofDigitChars 10 digits 0
  let e : Int := n.exponent.getD 0 - n.fraction.length
  if digits.isEmpty then Format.double.round n.negative 0 1
  else if 310 < e + digits.length then Format.double.infinity n.negative
  else if e + digits.length < -330 then Format.double.round n.negative 0 1
  else if 0 ≤ e then Format.double.round n.negative (significand * Nat.pow 10 e.toNat) 1
  else Format.double.round n.negative significand (Nat.pow 10 e.natAbs)

end Numeral

/-! ## Free-standing numbers in text -/

/-- Splits a leading sign off. -/
def takeSign : List Char → Bool × List Char
  | '+' :: r => (false, r)
  | '-' :: r => (true, r)
  | r => (false, r)

/-- An integer in text: an optional sign and digits. -/
def readInteger? (s : List Char) : Option Int :=
  let (negative, ds) := takeSign s
  if ds.isEmpty || !ds.all Char.isDigit then none
  else
    let n : Int := Nat.ofDigitChars 10 ds 0
    some (if negative then -n else n)

/-- An integer in text inside the range of words. -/
def readWord? (s : String) : Option Int64 := (readInteger? s.toList).bind word?

/-- The exponent of a free-standing number: nothing, or a mark and an integer. -/
def readExponent? : List Char → Option (Option Int)
  | [] => some none
  | c :: r => if c = 'e' ∨ c = 'E' then (readInteger? r).map some else none

/-- A free-standing decimal number without sign: digits with at most one point and at least one
digit, and an optional exponent. -/
def readNumeral? (negative : Bool) (s : List Char) : Option Numeral :=
  let whole := s.takeWhile Char.isDigit
  let rest := s.dropWhile Char.isDigit
  let (fraction, rest) := match rest with
    | '.' :: r => (r.takeWhile Char.isDigit, r.dropWhile Char.isDigit)
    | r => ([], r)
  if whole.isEmpty && fraction.isEmpty then none
  else (readExponent? rest).map fun exponent => ⟨negative, whole, fraction, exponent⟩

/-- A number in text to the nearest double: an optional sign, then a decimal number or one of the
words `inf`, `infinity` and `nan` in any case. -/
def readDouble? (s : String) : Option Double :=
  let (negative, r) := takeSign s.toList
  let lower := r.map Char.toLower
  if lower = "inf".toList ∨ lower = "infinity".toList then
    some (Format.double.infinity negative)
  else if lower = "nan".toList then
    some (if negative then Format.double.nan.neg else Format.double.nan)
  else (readNumeral? negative r).map Numeral.nearest

end FieldSearch
