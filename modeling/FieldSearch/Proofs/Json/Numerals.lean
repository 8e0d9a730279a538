import FieldSearch.Json.Reader
import Mathlib.Data.List.Basic

/-!
# Numerals in JSON

A numeral in the grammar of JSON has whole digits, none of them a zero before others
(`Numeral.Grammatical`). Such a numeral is read back from its text, whatever stands behind it, as
long as that does not go on with the numeral (`Json.readNumeral_render`). The numerals of integers
are of this kind.
-/

namespace FieldSearch

/-! ## Digits -/

/-- A text that does not start with a digit. -/
abbrev StartsNoDigit (r : List Char) : Prop := ∀ c ∈ r.head?, c.isDigit = false

lemma Json.spanDigits_append {ds r : List Char} (hds : ∀ c ∈ ds, c.isDigit = true)
    (hr : StartsNoDigit r) : Json.spanDigits (ds ++ r) = (ds, r) := by
  have htake : r.takeWhile Char.isDigit = [] := by
    cases r with
    | nil => rfl
    | cons c r => exact List.takeWhile_cons_of_neg (by simp [hr c rfl])
  have hdrop : r.dropWhile Char.isDigit = r := by
    cases r with
    | nil => rfl
    | cons c r => exact List.dropWhile_cons_of_neg (by simp [hr c rfl])
  rw [Json.spanDigits, List.takeWhile_append_of_pos hds, List.dropWhile_append_of_pos hds, htake,
    hdrop, List.append_nil]

lemma isDigit_of_mem_toDigits {n : Nat} : ∀ c ∈ Nat.toDigits 10 n, c.isDigit = true :=
  fun _ hc => Nat.isDigit_of_mem_toDigits (by omega) (by omega) hc

/-- The digits of a positive number do not start with a zero. -/
lemma head?_toDigits_ne_zero {n : Nat} (hn : 0 < n) : (Nat.toDigits 10 n).head? ≠ some '0' := by
  induction n using Nat.strongRecOn with
  | _ n ih =>
    by_cases hlt : n < 10
    · have hfirst : ∀ k < 10, 0 < k → Nat.digitChar k ≠ '0' := by decide
      rw [Nat.toDigits_of_lt_base hlt]
      exact fun h => hfirst n hlt hn (Option.some.inj h)
    · have hdiv : 0 < n / 10 := by omega
      have hhead := ih (n / 10) (by omega) hdiv
      rw [Nat.toDigits_of_base_le (by omega) (by omega),
        List.head?_append_of_ne_nil _ Nat.toDigits_ne_nil]
      exact hhead

namespace Numeral

/-! ## Grammar -/

/-- A numeral in the grammar of JSON. -/
structure Grammatical (n : Numeral) : Prop where
  whole_ne_nil : n.whole ≠ []
  whole_digits : ∀ c ∈ n.whole, c.isDigit = true
  no_zero_first : n.whole.head? = some '0' → n.whole = ['0']
  fraction_digits : ∀ c ∈ n.fraction, c.isDigit = true

lemma grammatical_toDigits (negative : Bool) (n : Nat) {fraction : List Char}
    (hfraction : ∀ c ∈ fraction, c.isDigit = true) (exponent : Option Int) :
    Grammatical ⟨negative, Nat.toDigits 10 n, fraction, exponent⟩ where
  whole_ne_nil := Nat.toDigits_ne_nil
  whole_digits := isDigit_of_mem_toDigits
  no_zero_first h := by
    rcases Nat.eq_zero_or_pos n with rfl | hn
    · rfl
    · exact absurd h (head?_toDigits_ne_zero hn)
  fraction_digits := hfraction

lemma grammatical_ofInt (n : Int) : (ofInt n).Grammatical :=
  grammatical_toDigits _ _ (fun _ hc => absurd hc List.not_mem_nil) _

end Numeral

namespace Json

/-! ## Reading numerals -/

/-- A text that does not go on with a numeral before it. -/
def EndsNumeral (r : List Char) : Prop :=
  ∀ c ∈ r.head?, c.isDigit = false ∧ c ≠ '.' ∧ c ≠ 'e' ∧ c ≠ 'E'

variable {n : Numeral} {r : List Char}

/-- The text of an exponent. -/
def exponentText : Option Int → List Char
  | none => []
  | some e => 'e' :: (if 0 ≤ e then '+' else '-') :: Nat.toDigits 10 e.natAbs

lemma readExponent_append (exponent : Option Int) (hr : EndsNumeral r) :
    readExponent (exponentText exponent ++ r) = some (exponent, r) := by
  cases exponent with
  | none =>
    cases r with
    | nil => rfl
    | cons c r =>
      obtain ⟨-, -, he, hE⟩ := hr c rfl
      simp [exponentText, readExponent, he, hE]
  | some e =>
    obtain ⟨n, hn⟩ : ∃ n, e.natAbs = n := ⟨_, rfl⟩
    have hdigits : Nat.ofDigitChars 10 (Nat.toDigits 10 n) 0 = n :=
      Nat.ofDigitChars_ten_toDigits
    have hspan : spanDigits (Nat.toDigits 10 n ++ r) = (Nat.toDigits 10 n, r) :=
      spanDigits_append isDigit_of_mem_toDigits fun c hc => (hr c hc).1
    have hne : (Nat.toDigits 10 n).isEmpty = false := by
      simp
    by_cases he : 0 ≤ e
    · have hvalue : (n : Int) = e := by omega
      simp [exponentText, readExponent, he, takeSign, hn, hspan, hne, hdigits, hvalue]
    · have hvalue : -(n : Int) = e := by omega
      simp [exponentText, readExponent, he, takeSign, hn, hspan, hne, hdigits, hvalue]

/-- The text of the digits behind a point. -/
def fractionText (fraction : List Char) : List Char :=
  if fraction.isEmpty then [] else '.' :: fraction

lemma readFraction_append {fraction : List Char} (hfraction : ∀ c ∈ fraction, c.isDigit = true)
    (hr : StartsNoDigit r) (hpoint : ∀ c ∈ r.head?, c ≠ '.') :
    readFraction (fractionText fraction ++ r) = some (fraction, r) := by
  cases fraction with
  | nil =>
    unfold readFraction
    split
    next r' hr' =>
      exact absurd rfl (hpoint '.' (by simpa [fractionText] using congrArg List.head? hr'))
    next => rfl
  | cons c cs =>
    have hspan : spanDigits (c :: cs ++ r) = (c :: cs, r) := spanDigits_append hfraction hr
    have htext : fractionText (c :: cs) ++ r = '.' :: (c :: cs ++ r) := rfl
    rw [htext, readFraction, hspan]
    rfl

lemma exponentText_append_head (exponent : Option Int) (hr : EndsNumeral r) :
    ∀ c ∈ (exponentText exponent ++ r).head?, c.isDigit = false ∧ c ≠ '.' := by
  cases exponent with
  | none => exact fun c hc => ⟨(hr c hc).1, (hr c hc).2.1⟩
  | some e =>
    rintro c ⟨⟩
    decide

lemma fractionText_append_head {fraction : List Char} (hr : StartsNoDigit r) :
    StartsNoDigit (fractionText fraction ++ r) := by
  cases fraction with
  | nil => exact hr
  | cons c cs =>
    rintro c ⟨⟩
    decide

/-- The sign of a numeral, and the rest. -/
def readSign : List Char → Bool × List Char
  | '-' :: r => (true, r)
  | r => (false, r)

/-- The whole digits of a numeral, and the rest. -/
def readWhole : List Char → Option (List Char × List Char)
  | '0' :: r => some (['0'], r)
  | r =>
    let (ds, r) := spanDigits r
    if ds.isEmpty then none else some (ds, r)

/-- A numeral is read part by part. -/
lemma readNumeral_eq (s : List Char) :
    readNumeral s = do
      let (whole, r) ← readWhole (readSign s).2
      let (fraction, r) ← readFraction r
      let (exponent, r) ← readExponent r
      return (⟨(readSign s).1, whole, fraction, exponent⟩, r) := by
  have hwhole : ∀ (negative : Bool) (r : List Char), (do
      let (whole, r) ← match r with
        | '0' :: r => some (['0'], r)
        | r =>
          let (ds, r) := spanDigits r
          if ds.isEmpty then none else some (ds, r)
      let (fraction, r) ← readFraction r
      let (exponent, r) ← readExponent r
      return (⟨negative, whole, fraction, exponent⟩, r)) = do
      let (whole, r) ← readWhole r
      let (fraction, r) ← readFraction r
      let (exponent, r) ← readExponent r
      return ((⟨negative, whole, fraction, exponent⟩ : Numeral), r) := by
    intro negative r
    unfold readWhole
    split
    · rfl
    · dsimp only
      split <;> rfl
  unfold readNumeral
  split
  next negative r hs =>
    have hsign : readSign s = (negative, r) := hs
    rw [hsign]
    exact hwhole negative r

lemma readSign_append (hn : n.Grammatical) :
    readSign ((if n.negative then ['-'] else []) ++ (n.whole ++ r)) =
      (n.negative, n.whole ++ r) := by
  by_cases hnegative : n.negative = true
  · rw [if_pos hnegative, hnegative]
    rfl
  · rw [Bool.not_eq_true] at hnegative
    rw [hnegative, if_neg Bool.false_ne_true, List.nil_append]
    unfold readSign
    split
    next r' hr' =>
      have hhead : '-' ∈ n.whole.head? := by
        rw [← List.head?_append_of_ne_nil _ hn.whole_ne_nil, hr']
        rfl
      exact absurd (hn.whole_digits '-' (List.mem_of_mem_head? hhead)) (by decide)
    next => rfl

lemma readWhole_append (hn : n.Grammatical) (hr : StartsNoDigit r) :
    readWhole (n.whole ++ r) = some (n.whole, r) := by
  have hne : n.whole.isEmpty = false := by
    simpa using hn.whole_ne_nil
  unfold readWhole
  split
  next r' hr' =>
    -- A zero is the only whole digit, so nothing is lost by reading it alone.
    have hhead : n.whole.head? = some '0' := by
      rw [← List.head?_append_of_ne_nil _ hn.whole_ne_nil, hr']
      rfl
    rw [hn.no_zero_first hhead] at hr' ⊢
    obtain rfl : r = r' := List.tail_eq_of_cons_eq hr'
    rfl
  next =>
    rw [spanDigits_append hn.whole_digits hr]
    simp [hne]

/-- A numeral in the grammar is read back from its text. -/
theorem readNumeral_render (hn : n.Grammatical) (hr : EndsNumeral r) :
    readNumeral (n.render ++ r) = some (n, r) := by
  have hrender : n.render ++ r = (if n.negative then ['-'] else []) ++
      (n.whole ++ (fractionText n.fraction ++ (exponentText n.exponent ++ r))) := by
    simp only [Numeral.render, List.append_assoc]
    cases n.exponent <;> rfl
  have hexponent := exponentText_append_head n.exponent hr
  have hnodigit : StartsNoDigit (exponentText n.exponent ++ r) := fun c hc => (hexponent c hc).1
  have hnopoint : ∀ c ∈ (exponentText n.exponent ++ r).head?, c ≠ '.' :=
    fun c hc => (hexponent c hc).2
  rw [readNumeral_eq, hrender, readSign_append hn]
  simp only [readWhole_append hn (fractionText_append_head hnodigit), Option.bind_eq_bind,
    Option.bind_some, readFraction_append hn.fraction_digits hnodigit hnopoint,
    readExponent_append n.exponent hr]
  rfl

end Json

end FieldSearch
