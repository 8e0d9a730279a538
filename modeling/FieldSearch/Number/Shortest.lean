import FieldSearch.Number.Numeral

/-!
# Shortest decimal digits

The decimal numbers that round to a finite positive value of a format form an interval around it,
the ends included when the fraction is even. `Binary.shortest` looks for the coarsest decimal
grid `10 ^ p` with a point in that interval; a point of the grid lies in it only if one of the two
neighbours of the value on the grid does. Of two neighbours inside, the nearer is taken, and a
caller says where an exact tie goes.

`FloatLayout` says how digits become a numeral: which exponents are written without one, and
whether whole numbers keep a fraction.
-/

namespace FieldSearch

/-- The decimal number `digits * 10 ^ exponent`. -/
structure Decimal where
  digits : Nat
  exponent : Int
deriving DecidableEq, Repr

/-- Where the shorter of two equally near decimals is taken from. -/
inductive Tie where
  | up
  | even
deriving DecidableEq, Repr

/-- The decimals that round to one value, as multiples of one `den`-th: the value itself, the two
ends, and whether the ends belong to it. -/
structure RoundingInterval where
  value : Nat
  lower : Nat
  upper : Nat
  den : Nat
  closed : Bool
deriving Repr

namespace RoundingInterval

/-- Whether the fraction `num / d` of the interval's unit scale lies inside. -/
def holds (i : RoundingInterval) (num d : Nat) : Bool :=
  if i.closed then i.lower * d ≤ num * i.den && num * i.den ≤ i.upper * d
  else i.lower * d < num * i.den && num * i.den < i.upper * d

/-- The chosen point of the grid `10 ^ p` inside the interval, if there is one. -/
def pick (i : RoundingInterval) (tie : Tie) (p : Int) : Option Nat :=
  let up := Nat.pow 10 p.toNat
  let down := Nat.pow 10 (-p).toNat
  let below := i.value * down / (i.den * up)
  let inside (k : Nat) : Bool := i.holds (k * up) down
  match inside below, inside (below + 1) with
  | false, false => none
  | true, false => some below
  | false, true => some (below + 1)
  | true, true =>
    let twice := 2 * i.value * down
    let middle := (2 * below + 1) * (i.den * up)
    if twice < middle then some below
    else if middle < twice then some (below + 1)
    else match tie with
      | .up => some (below + 1)
      | .even => some (below + below % 2)

/-- The first grid with a point inside, from `10 ^ p` down; at most `steps` grids are tried. -/
def search (i : RoundingInterval) (tie : Tie) (p : Int) : Nat → Decimal
  | 0 => ⟨i.value * Nat.pow 10 (-p).toNat / (i.den * Nat.pow 10 p.toNat), p⟩
  | steps + 1 =>
    match i.pick tie p with
    | some digits => ⟨digits, p⟩
    | none => i.search tie (p - 1) steps

end RoundingInterval

namespace Binary

variable {f : Format}

/-- The decimals that round to a finite nonzero value, in quarters of its unit in the last place.
Just above a power of two the lower neighbour is only half as far away. -/
def interval (x : Binary f) : RoundingInterval :=
  let ulp := Nat.pow 2 (x.exponentField - 1)
  let m := x.magnitude
  let narrow := x.fractionField = 0 && 1 < x.exponentField
  { value := 4 * m
    lower := 4 * m - if narrow then ulp else 2 * ulp
    upper := 4 * m + 2 * ulp
    den := 4 * Nat.pow 2 f.scale
    closed := x.fractionField % 2 = 0 }

/-- A power of ten above a finite nonzero value: `30103 / 100000` is a little more than the
decimal logarithm of two. -/
def decimalCeiling (x : Binary f) : Int :=
  ((Nat.log2 x.magnitude : Int) + 1 - f.scale) * 30103 / 100000 + 1

/-- The shortest decimal that rounds to a finite nonzero value. -/
def shortest (x : Binary f) (tie : Tie) : Decimal :=
  x.interval.search tie x.decimalCeiling 20

end Binary

/-! ## Text -/

/-- How a float is written. -/
structure FloatLayout where
  /-- The exponents of the first digit that are written without an exponent, all if there is no
  bound. -/
  plain : Option (Int × Int)
  /-- Whether a whole number written without an exponent ends in `.0`. -/
  keepFraction : Bool
  /-- Where a tie between two shortest decimals goes. -/
  tie : Tie

namespace Decimal

/-- The exponent of the first digit. -/
def leading (d : Decimal) : Int := (Nat.toDigits 10 d.digits).length + d.exponent - 1

/-- The digits without an exponent. -/
def positional (d : Decimal) (negative keepFraction : Bool) : Numeral :=
  let ds := Nat.toDigits 10 d.digits
  if 0 ≤ d.exponent then
    let zeros := if d.digits = 0 then [] else List.replicate d.exponent.toNat '0'
    ⟨negative, ds ++ zeros, if keepFraction then ['0'] else [], none⟩
  else
    let places := d.exponent.natAbs
    if places < ds.length then
      ⟨negative, ds.take (ds.length - places), ds.drop (ds.length - places), none⟩
    else
      ⟨negative, ['0'], List.replicate (places - ds.length) '0' ++ ds, none⟩

/-- One digit, the others behind a point, and an exponent. -/
def scientific (d : Decimal) (negative : Bool) : Numeral :=
  let ds := Nat.toDigits 10 d.digits
  ⟨negative, ds.take 1, ds.drop 1, some d.leading⟩

end Decimal

namespace FloatLayout

/-- The numeral of a finite value. -/
def numeral {f : Format} (l : FloatLayout) (x : Binary f) : Numeral :=
  let d := if x.isZero then ⟨0, 0⟩ else x.shortest l.tie
  match l.plain with
  | none => d.positional x.negative l.keepFraction
  | some (low, high) =>
    if low ≤ d.leading ∧ d.leading ≤ high then d.positional x.negative l.keepFraction
    else d.scientific x.negative

/-- Floats in messages and queries: never an exponent, whole numbers bare. -/
def display : FloatLayout where
  plain := none
  keepFraction := false
  tie := .up

end FloatLayout

/-- The text of a float in messages and queries. -/
def Binary.display {f : Format} (x : Binary f) : String :=
  if x.isNaN then "NaN"
  else if x.isInfinite then if x.negative then "-inf" else "inf"
  else String.ofList (FloatLayout.display.numeral x).render

end FieldSearch
