import FieldSearch.Proofs.Number.Value
import FieldSearch.Proofs.Query.Grammar
import FieldSearch.Proofs.Query.Meaning

/-!
# Floats against fields of integers

A field of integers may be compared with a float. The bound is an integer all the same, so the
float has to be one: a whole number inside the range of words, whose lower end is a float and whose
upper end is only the float above it. What is no such number is refused, be it a fraction, too
large, infinite or NaN, and no bound is made of it.

Which floats these are is found out with floats, by comparing with both ends of the range as
doubles, and the bound is the float cut to a word. That nothing is lost on the way, neither by
widening a single, nor at the end that is no float, nor by the cut, is `Binary.isIntegral_iff`,
`Binary.isIntegral_toDouble_iff` and `Binary.IsWord.toWord_eq`.

`Operand.real?` is the number that an operand stands for. `Expr.ComparesExactly` says of a property
that its values are compared with these numbers as numbers compare.

Main statement: `Expr.floats_exact_or_refused`.
-/

namespace FieldSearch

/-! ## Operands as numbers -/

/-- The word of a float is the number that it stands for. -/
lemma Binary.isWord_iff_real? {f : Format} (hf : 2 ≤ f.exponent) {x : Binary f} {n : Int64} :
    x.IsWord n ↔ x.real? = some (n.toInt : ℚ) := by
  rw [isWord_iff, real?_eq_some_iff hf]
  refine and_congr_right fun _ => ?_
  rw [← Int.cast_inj (α := ℚ)]
  push_cast
  rfl

namespace Operand

/-- Whether an operand is a float, of either format. -/
def isFloat : Operand → Bool
  | float _ | double _ => true
  | _ => false

/-- The number that an operand stands for in a field of integers. -/
def real? : Operand → Option ℚ
  | float x => x.real?
  | double x => x.real?
  | v => v.encoded?.map fun n => n.toInt

/-- The number of an operand is a whole number inside the range of words. -/
def IsWhole (v : Operand) : Prop :=
  ∃ n : Int, v.real? = some (n : ℚ) ∧ -2 ^ 63 ≤ n ∧ n < 2 ^ 63

variable {v : Operand}

lemma isWhole_iff : v.IsWhole ↔ ∃ n : Int64, v.real? = some (n.toInt : ℚ) := by
  constructor
  · rintro ⟨k, hk, hlow, hhigh⟩
    obtain ⟨n, rfl⟩ := exists_toInt_eq hlow hhigh
    exact ⟨n, hk⟩
  · rintro ⟨n, hn⟩
    exact ⟨n.toInt, hn, n.le_toInt, n.toInt_lt⟩

lemma isWhole_float_iff {x : Single} : (float x).IsWhole ↔ ∃ n, x.IsWord n := by
  simp only [isWhole_iff, real?, Binary.isWord_iff_real? (f := .single) (by decide)]

lemma isWhole_double_iff {x : Double} : (double x).IsWhole ↔ ∃ n, x.IsWord n := by
  simp only [isWhole_iff, real?, Binary.isWord_iff_real? (f := .double) (by decide)]

end Operand

namespace MappedField

variable {f : MappedField} {v : Operand}

/-- A term of a field of numbers is made of the bound of its operand. -/
lemma termQuery_of_numeric (hf : f.semanticType.isNumeric = true) (v : Operand) :
    f.termQuery v = (match f.bound v with
      | .error e => .error e
      | .ok (some b) => .ok (.range (.point f.name f.semanticType b))
      | .ok none => .error (.nullTerm f.name)) := if_neg (isNumeric_iff.1 hf)

/-- An operand that is whole is the bound that it says. -/
lemma bound_of_real (hf : f.semanticType = .long) {n : Int64}
    (h : v.real? = some (n.toInt : ℚ)) : f.bound v = .ok (some (.long n)) := by
  have hcast : ∀ m : Int64, (m.toInt : ℚ) = n.toInt → m = n := fun m hm =>
    Int64.toInt_inj.1 (Int.cast_inj.1 hm)
  cases v with
  | null | string s => cases h
  | float x => exact bound_float hf ((Binary.isWord_iff_real? (by decide)).2 h)
  | double x => exact bound_double hf ((Binary.isWord_iff_real? (by decide)).2 h)
  | long m | boolean b =>
    simp only [bound, hf, hcast _ (Option.some.inj h)]
  | dateTime x =>
    obtain ⟨m, hm, hn⟩ := Option.map_eq_some_iff.1 h
    have hticks : x.toTicks? = some n := hcast m hn ▸ hm
    simp only [bound, hf, hticks]
  | duration d =>
    obtain ⟨m, hm, hn⟩ := Option.map_eq_some_iff.1 h
    have hticks : d.toTicks? = some n := hcast m hn ▸ hm
    simp only [bound, hf, hticks]

/-- A float that is not whole is refused. -/
lemma bound_of_not_isWhole (hf : f.semanticType = .long) (hv : v.isFloat = true)
    (h : ¬ v.IsWhole) : ∃ err, f.bound v = .error err ∧ err.kind = .unsupportedExpression := by
  refine ⟨.incomparable v.display SemanticType.long.name f.name, ?_, rfl⟩
  cases v with
  | float x => exact bound_float_of_not hf (mt Operand.isWhole_float_iff.2 h)
  | double x => exact bound_double_of_not hf (mt Operand.isWhole_double_iff.2 h)
  | _ => cases hv

end MappedField

/-! ## Ranges of integers -/

namespace NumericRange

variable {r : NumericRange} {n : Option Int64} {x : Int64}

lemma aboveMin_iff_real (h : r.min = n.map .long) :
    r.aboveMin (.long x) = true ↔
      ∀ y ∈ n.map fun n => (n.toInt : ℚ), if r.minInclusive then y ≤ x.toInt else y < x.toInt := by
  cases n with
  | none => simp [aboveMin_open h]
  | some n =>
    rw [aboveMin_long h]
    simp [Int64.le_iff_toInt_le, Int64.lt_iff_toInt_lt]

lemma belowMax_iff_real (h : r.max = n.map .long) :
    r.belowMax (.long x) = true ↔
      ∀ y ∈ n.map fun n => (n.toInt : ℚ), if r.maxInclusive then x.toInt ≤ y else x.toInt < y := by
  cases n with
  | none => simp [belowMax_open h]
  | some n =>
    rw [belowMax_long h]
    simp [Int64.le_iff_toInt_le, Int64.lt_iff_toInt_lt]

end NumericRange

namespace Expr

variable {ω : Type} {field e : Expr ω} {f : MappedField} {v : Operand} {s s₁ : ω}

/-- A side of a range, with the operand that is read there unless the side is open. -/
inductive ReadsSide : Option (Expr ω) → ω → Option Operand → ω → Prop
  | absent (s : ω) : ReadsSide none s none s
  | operand {e : Expr ω} {s s₁ : ω} {v : Operand} :
      e.Reads s v s₁ → ReadsSide (some e) s (some v) s₁

/-- A predicate is refused as an unsupported expression. -/
def IsUnsupported (e : Expr ω) (s : ω) : Prop :=
  ∃ err s', e.translate s = (.error err, s') ∧ err.kind = .unsupportedExpression

/-- The values of a property are compared with the numbers of operands exactly, or not at all. -/
structure ComparesExactly (field : Expr ω) : Prop where
  /-- A range whose operands are null or whole contains the integers that are on the right side
  of their numbers. -/
  range_ok : ∀ {min max : Option (Expr ω)} {lo hi : Option Operand} {s s₁ s₂ : ω} (i j : Bool),
    ReadsSide min s lo s₁ → ReadsSide max s₁ hi s₂ →
    (∀ v ∈ lo, v = .null ∨ v.IsWhole) → (∀ v ∈ hi, v = .null ∨ v.IsWhole) →
    ∃ r, (range field min max i j).translate s = (.ok (.range r), s₂) ∧
      ∀ x : Int64, r.contains (.long x) = true ↔
        (∀ y ∈ lo.bind Operand.real?, if i then y ≤ x.toInt else y < x.toInt) ∧
          ∀ y ∈ hi.bind Operand.real?, if j then x.toInt ≤ y else x.toInt < y
  /-- A float that is not whole is no lower bound, whatever the other side is, -/
  lower_refused : ∀ {e : Expr ω} {v : Operand} {s s₁ : ω} (max : Option (Expr ω)) (i j : Bool),
    e.Reads s v s₁ → v.isFloat = true → ¬ v.IsWhole →
    (range field (some e) max i j).IsUnsupported s
  /-- and no upper bound. -/
  upper_refused : ∀ {min : Option (Expr ω)} {e : Expr ω} {lo : Option Operand} {v : Operand}
    {s s₁ s₂ : ω} (i j : Bool), ReadsSide min s lo s₁ → (∀ v ∈ lo, v = .null ∨ v.IsWhole) →
    e.Reads s₁ v s₂ → v.isFloat = true → ¬ v.IsWhole →
    (range field min (some e) i j).IsUnsupported s
  /-- The term of an operand that is whole asks for the integer that it is. -/
  term_ok : ∀ {e : Expr ω} {v : Operand} {s s₁ : ω}, e.Reads s v s₁ → v.IsWhole →
    ∃ r, (term field e).translate s = (.ok (.range r), s₁) ∧
      ∀ x : Int64, r.contains (.long x) = true ↔ v.real? = some (x.toInt : ℚ)
  /-- A float that is not whole is no term. -/
  term_refused : ∀ {e : Expr ω} {v : Operand} {s s₁ : ω}, e.Reads s v s₁ →
    v.isFloat = true → ¬ v.IsWhole → (term field e).IsUnsupported s

/-! ## Sides of a range -/

/-- A side with an operand that is null or whole has the bound of its number, if it has one. -/
lemma side_of_isWhole (hf : f.semanticType = .long) {a : Option (Expr ω)} {v? : Option Operand}
    (ha : ReadsSide a s v? s₁) (h : ∀ v ∈ v?, v = .null ∨ v.IsWhole) :
    ∃ n : Option Int64, side f a s = (.ok (n.map .long), s₁) ∧
      v?.bind Operand.real? = n.map fun n => (n.toInt : ℚ) := by
  cases ha with
  | absent => exact ⟨none, rfl, rfl⟩
  | @operand e _ _ v hreads =>
    have hside : ∀ b, f.bound v = .ok b → side f (some e) s = (.ok b, s₁) := by
      intro b hb
      rw [side, Translation.bind_of_ok (operand_eq_ok_iff.2 hreads), hb]
      rfl
    rcases h v rfl with rfl | hwhole
    · refine ⟨none, hside none ?_, rfl⟩
      exact (MappedField.bound_eq_none_iff (by rw [hf]; rfl)).2 rfl
    · obtain ⟨n, hn⟩ := Operand.isWhole_iff.1 hwhole
      exact ⟨some n, hside _ (MappedField.bound_of_real hf hn), hn⟩

lemma side_of_not_isWhole (hf : f.semanticType = .long) (hreads : e.Reads s v s₁)
    (hv : v.isFloat = true) (h : ¬ v.IsWhole) :
    ∃ err, side f (some e) s = (.error err, s₁) ∧ err.kind = .unsupportedExpression := by
  obtain ⟨err, hbound, hkind⟩ := MappedField.bound_of_not_isWhole hf hv h
  refine ⟨err, ?_, hkind⟩
  rw [side, Translation.bind_of_ok (operand_eq_ok_iff.2 hreads), hbound]
  rfl

/-! ## The theorem -/

/-- **Floats are exact or refused.** A property of integers is compared with the number of a float,
be it a bound or a term, exactly if that is a whole number from `-2 ^ 63` on and below `2 ^ 63`;
otherwise the float is refused as an unsupported expression. -/
theorem floats_exact_or_refused (hfield : field.IsField f) (hlong : f.semanticType = .long) :
    field.ComparesExactly := by
  have hnumeric : f.semanticType.isNumeric = true := by
    rw [hlong]
    rfl
  constructor
  case range_ok =>
    intro min max lo hi s s₁ s₂ i j hmin hmax hlo hhi
    obtain ⟨low, hlow, hlowReal⟩ := side_of_isWhole hlong hmin hlo
    obtain ⟨high, hhigh, hhighReal⟩ := side_of_isWhole hlong hmax hhi
    refine ⟨⟨f.name, f.semanticType, low.map .long, high.map .long, i, j⟩, ?_, fun x => ?_⟩
    · rw [translate, rangeQuery_of_numeric hfield hnumeric, Translation.bind_of_ok hlow,
        Translation.bind_of_ok hhigh]
      rfl
    · rw [NumericRange.contains, Bool.and_eq_true, NumericRange.aboveMin_iff_real rfl,
        NumericRange.belowMax_iff_real rfl, hlowReal, hhighReal]
  case lower_refused =>
    intro e v s s₁ max i j hreads hv hwhole
    obtain ⟨err, hside, hkind⟩ := side_of_not_isWhole hlong hreads hv hwhole
    refine ⟨err, s₁, ?_, hkind⟩
    rw [translate, rangeQuery_of_numeric hfield hnumeric, Translation.bind_of_error hside]
  case upper_refused =>
    intro min e lo v s s₁ s₂ i j hmin hlo hreads hv hwhole
    obtain ⟨low, hlow, -⟩ := side_of_isWhole hlong hmin hlo
    obtain ⟨err, hside, hkind⟩ := side_of_not_isWhole hlong hreads hv hwhole
    refine ⟨err, s₂, ?_, hkind⟩
    rw [translate, rangeQuery_of_numeric hfield hnumeric, Translation.bind_of_ok hlow,
      Translation.bind_of_error hside]
  case term_ok =>
    intro e v s s₁ hreads hwhole
    obtain ⟨n, hn⟩ := Operand.isWhole_iff.1 hwhole
    refine ⟨.point f.name f.semanticType (.long n), ?_, fun x => ?_⟩
    · rw [translate, termQuery_of_reads hfield hreads, MappedField.termQuery_of_numeric hnumeric,
        MappedField.bound_of_real hlong hn]
    · rw [NumericRange.contains_point, hn, Option.some.injEq, Int.cast_inj, Int64.toInt_inj]
  case term_refused =>
    intro e v s s₁ hreads hv hwhole
    obtain ⟨err, hbound, hkind⟩ := MappedField.bound_of_not_isWhole hlong hv hwhole
    refine ⟨err, s₁, ?_, hkind⟩
    rw [translate, termQuery_of_reads hfield hreads, MappedField.termQuery_of_numeric hnumeric,
      hbound]

/-- From the least word to three; the float above all words, a half and NaN are refused. -/
theorem floats_exact_or_refused_ends :
    let number : Property Unit := .ofName "number" (.leaf .integer)
    let lowest : Operand := .double (Format.double.ofInt (-9223372036854775808))
    let three : Operand := .float (Format.single.ofInt 3)
    let beyond : Operand := .double (Format.double.ofInt 9223372036854775808)
    let half : Operand := .float (Format.single.round false 1 2)
    let nan : Operand := .double Format.double.nan
    number.path.IsField ⟨"number", .integer⟩ ∧ lowest.real? = some (-2 ^ 63) ∧
      three.real? = some 3 ∧ ¬ beyond.IsWhole ∧ ¬ half.IsWhole ∧ ¬ nan.IsWhole ∧
      (∃ r,
        (number.between (constant lowest) (constant three)).translate () = (.ok (.range r), ()) ∧
        ∀ x : Int64, r.contains (.long x) = true ↔
          -2 ^ 63 ≤ (x.toInt : ℚ) ∧ (x.toInt : ℚ) ≤ 3) ∧
      (number.atLeast (constant beyond)).IsUnsupported () ∧
      (number.between (constant lowest) (constant nan)).IsUnsupported () ∧
      (∃ r, (number.term (constant three)).translate () = (.ok (.range r), ()) ∧
        ∀ x : Int64, r.contains (.long x) = true ↔ three.real? = some (x.toInt : ℚ)) ∧
      (number.term (constant half)).IsUnsupported () := by
  intro number lowest three beyond half nan
  have hlowest : lowest.real? = some (Int64.minValue.toInt : ℚ) := by
    have hword : (Format.double.ofInt (-9223372036854775808)).IsWord Int64.minValue :=
      ⟨by decide +kernel, by decide +kernel⟩
    have hreal := (Binary.isWord_iff_real? (by decide)).1 hword
    exact hreal
  have hthree : three.real? = some ((3 : Int64).toInt : ℚ) := by
    have hword : (Format.single.ofInt 3).IsWord 3 := ⟨by decide +kernel, by decide +kernel⟩
    have hreal := (Binary.isWord_iff_real? (by decide)).1 hword
    exact hreal
  have hminimum : (Int64.minValue.toInt : ℚ) = -2 ^ 63 := by
    rw [Int64.toInt_minValue]
    norm_num
  have hnumber : ((3 : Int64).toInt : ℚ) = 3 := by
    have hint : (3 : Int64).toInt = 3 := rfl
    rw [hint]
    norm_num
  have hbeyond : ¬ beyond.IsWhole := fun h =>
    absurd (Binary.isIntegral_iff.2 (Operand.isWhole_double_iff.1 h)) (by decide +kernel)
  have hhalf : ¬ half.IsWhole := fun h =>
    absurd (Binary.isIntegral_toDouble_iff.2 (Operand.isWhole_float_iff.1 h)) (by decide +kernel)
  have hnan : ¬ nan.IsWhole := fun h =>
    absurd (Binary.isIntegral_iff.2 (Operand.isWhole_double_iff.1 h)) (by decide +kernel)
  have hlow : ∀ v ∈ some lowest, v = .null ∨ v.IsWhole := by
    rintro v ⟨⟩
    exact .inr (Operand.isWhole_iff.2 ⟨_, hlowest⟩)
  have hwhole : three.IsWhole := Operand.isWhole_iff.2 ⟨_, hthree⟩
  have hhigh : ∀ v ∈ some three, v = .null ∨ v.IsWhole := by
    rintro v ⟨⟩
    exact .inr hwhole
  have reads : ∀ v, (constant v : Expr Unit).Reads () v () := fun v => .constant v ()
  have hfield : number.path.IsField ⟨"number", .integer⟩ := field_eq_ok_iff.1 rfl
  obtain ⟨hrange, hlower, hupper, hterm, hrefused⟩ := floats_exact_or_refused hfield rfl
  obtain ⟨r, htranslate, hcontains⟩ :=
    hrange true true (.operand (reads lowest)) (.operand (reads three)) hlow hhigh
  rw [hminimum] at hlowest
  rw [hnumber] at hthree
  rw [Option.bind_some, Option.bind_some, hlowest, hthree] at hcontains
  refine ⟨hfield, hlowest, hthree, hbeyond, hhalf, hnan, ⟨r, htranslate, ?_⟩,
    hlower none true false (reads beyond) rfl hbeyond,
    hupper true true (.operand (reads lowest)) hlow (reads nan) rfl hnan,
    hterm (reads three) hwhole, hrefused (reads half) rfl hhalf⟩
  simpa using hcontains

end Expr

end FieldSearch
