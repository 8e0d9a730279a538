import FieldSearch.Proofs.Number.Words
import FieldSearch.Proofs.Query.Conjunction
import FieldSearch.Proofs.Query.Paths
import FieldSearch.Proofs.Time.Ticks

/-!
# The predicates that have a query

`Expr.Derives` is the grammar of the predicates that translate: conjunctions of ranges over
numeric fields and terms, each with operands that suit the field. `Expr.Refused` is its
complement on a single clause, with the error of every way to miss the grammar, in the order in
which translation finds them: first the field, then its family, then the operands from left to
right.

`Expr.translate_iff_derives` says that translation accepts exactly the derived predicates, and
stops in any other one at the first leaf that is not derived, with that leaf's error, whatever
comes behind it. Captured operands are read from the surroundings on the way, so both relations
carry the surroundings along.
-/

namespace FieldSearch

/-! ## Operands that suit a field -/

/-- The operands that the values of a family are compared with. -/
inductive Operand.Suits : SemanticType → Operand → Prop
  | long (n : Int64) : Suits .long (.long n)
  | boolean (b : Bool) : Suits .long (.boolean b)
  | dateTime {x : Instant} : x.InTickRange → Suits .long (.dateTime x)
  | duration {d : Duration} : d.InTickRange → Suits .long (.duration d)
  | wholeFloat {x : Single} {n : Int64} : x.IsWord n → Suits .long (.float x)
  | wholeDouble {x : Double} {n : Int64} : x.IsWord n → Suits .long (.double x)
  | floatOfLong (n : Int64) : Suits .float (.long n)
  | float (x : Single) : Suits .float (.float x)
  | floatOfDouble (x : Double) : Suits .float (.double x)
  | doubleOfLong (n : Int64) : Suits .double (.long n)
  | doubleOfFloat (x : Single) : Suits .double (.float x)
  | double (x : Double) : Suits .double (.double x)
  | string (s : String) : Suits .string (.string s)

lemma Operand.Suits.ne_null {family : SemanticType} {v : Operand} (h : v.Suits family) :
    v ≠ .null := by
  rintro rfl
  cases h

namespace MappedField

variable {f : MappedField} {v : Operand} {err err' : Error}

/-- How an operand that does not suit a numeric field is refused. -/
inductive Incomparable (f : MappedField) : Operand → Error → Prop
  | dateTime {x : Instant} : f.semanticType = .long → ¬ x.InTickRange →
      Incomparable f (.dateTime x) (.outsideTicks x.spaced)
  | duration {d : Duration} : f.semanticType = .long → ¬ d.InTickRange →
      Incomparable f (.duration d) (.outsideTicks d.text)
  | other {v : Operand} : v ≠ .null → ¬ v.Suits f.semanticType →
      (f.semanticType = .long → (∀ x, v ≠ .dateTime x) ∧ ∀ d, v ≠ .duration d) →
      Incomparable f v (.incomparable v.display f.semanticType.name f.name)

lemma Incomparable.ne_null (h : f.Incomparable v err) : v ≠ .null := by
  cases h with
  | dateTime => nofun
  | duration => nofun
  | other hnull => exact hnull

lemma Incomparable.not_suits (h : f.Incomparable v err) : ¬ v.Suits f.semanticType := by
  cases h with
  | dateTime hf hx =>
    rw [hf]
    rintro (_ | _ | h)
    exact hx h
  | duration hf hd =>
    rw [hf]
    rintro (_ | _ | _ | h)
    exact hd h
  | other _ hsuits => exact hsuits

lemma Incomparable.unique (h : f.Incomparable v err) (h' : f.Incomparable v err') : err = err' := by
  cases h with
  | dateTime hf =>
    cases h' with
    | dateTime => rfl
    | other _ _ hother => exact ((hother hf).1 _ rfl).elim
  | duration hf =>
    cases h' with
    | duration => rfl
    | other _ _ hother => exact ((hother hf).2 _ rfl).elim
  | other _ _ hother =>
    cases h' with
    | dateTime hf => exact ((hother hf).1 _ rfl).elim
    | duration hf => exact ((hother hf).2 _ rfl).elim
    | other => rfl

lemma Incomparable.of_family {family : SemanticType} (hf : f.semanticType = family)
    (hnull : v ≠ .null) (hsuits : ¬ v.Suits family)
    (hother : family = .long → (∀ x, v ≠ .dateTime x) ∧ ∀ d, v ≠ .duration d) :
    f.Incomparable v (.incomparable v.display family.name f.name) := by
  subst hf
  exact .other hnull hsuits hother

/-- An operand is no bound of a numeric field, a bound of it, or refused. -/
inductive Compares (f : MappedField) (v : Operand) : Prop
  | null : v = .null → f.bound v = .ok none → Compares f v
  | bound (b : NumericValue) : v.Suits f.semanticType → f.bound v = .ok (some b) → Compares f v
  | refused {err : Error} : f.Incomparable v err → f.bound v = .error err → Compares f v

/-- The operands of integer fields that may have no ticks. -/
lemma Compares.of_ticks {n? : Option Int64} {P : Prop}
    (hsome : ∀ n, n? = some n → f.bound v = .ok (some (.long n)))
    (hnone : n? = none → f.bound v = .error err)
    (hP : (∃ n, n? = some n) ↔ P) (hsuits : P → v.Suits f.semanticType)
    (hrefused : ¬ P → f.Incomparable v err) : f.Compares v := by
  cases n? with
  | some n => exact .bound (.long n) (hsuits (hP.1 ⟨n, rfl⟩)) (hsome n rfl)
  | none =>
    have hfails : ¬ P := fun h => by simpa using hP.2 h
    exact .refused (hrefused hfails) (hnone rfl)

section Floats

variable (hf : f.semanticType = .long) {n : Int64} {x : Single} {y : Double}
include hf

/-- A float that passes the guard of an integer field is the bound that it says. -/
lemma bound_float (h : x.IsWord n) : f.bound (.float x) = .ok (some (.long n)) := by
  simp only [bound, hf, Binary.isIntegral_toDouble_iff.2 ⟨n, h⟩, h.toWord_eq, if_true]

lemma bound_double (h : y.IsWord n) : f.bound (.double y) = .ok (some (.long n)) := by
  simp only [bound, hf, Binary.isIntegral_iff.2 ⟨n, h⟩, h.toWord_eq, if_true]

/-- Any other float is refused. -/
lemma bound_float_of_not (h : ¬ ∃ n, x.IsWord n) : f.bound (.float x) =
    .error (.incomparable (Operand.float x).display SemanticType.long.name f.name) := by
  rw [← Binary.isIntegral_toDouble_iff] at h
  simp only [bound, hf]
  exact if_neg h

lemma bound_double_of_not (h : ¬ ∃ n, y.IsWord n) : f.bound (.double y) =
    .error (.incomparable (Operand.double y).display SemanticType.long.name f.name) := by
  rw [← Binary.isIntegral_iff] at h
  simp only [bound, hf]
  exact if_neg h

end Floats

theorem compares (hf : f.semanticType.isNumeric = true) (v : Operand) : f.Compares v := by
  cases hfamily : f.semanticType with
  | string => simp [hfamily, SemanticType.isNumeric] at hf
  | float | double =>
    cases v with
    | null => exact .null rfl (by simp only [bound])
    | long n | float x | double x =>
      exact .bound _ (hfamily ▸ by constructor) (by simp only [bound, hfamily]; rfl)
    | _ =>
      refine .refused (.of_family hfamily nofun nofun nofun) ?_
      simp only [bound, hfamily]
  | long =>
    -- Ticks and floats suit by their value, not by their kind alone.
    cases v with
    | null => exact .null rfl (by simp only [bound])
    | long n | boolean b =>
      exact .bound _ (hfamily ▸ by constructor) (by simp only [bound, hfamily]; rfl)
    | string s =>
      refine .refused (.of_family hfamily nofun (by rintro ⟨⟩) (by simp)) ?_
      simp only [bound, hfamily]
    | dateTime x =>
      exact .of_ticks (fun n h => by simp only [bound, hfamily, h])
        (fun h => by simp only [bound, hfamily, h]) x.exists_toTicks?_iff
        (fun h => hfamily ▸ .dateTime h) (.dateTime hfamily)
    | duration d =>
      exact .of_ticks (fun n h => by simp only [bound, hfamily, h])
        (fun h => by simp only [bound, hfamily, h]) d.exists_toTicks?_iff
        (fun h => hfamily ▸ .duration h) (.duration hfamily)
    | float x =>
      by_cases h : ∃ n, x.IsWord n
      · obtain ⟨n, hn⟩ := h
        exact .bound _ (hfamily ▸ .wholeFloat hn) (bound_float hfamily hn)
      · refine .refused (.of_family hfamily nofun ?_ (by simp)) (bound_float_of_not hfamily h)
        rintro (_ | _ | _ | _ | hx)
        exact h ⟨_, hx⟩
    | double x =>
      by_cases h : ∃ n, x.IsWord n
      · obtain ⟨n, hn⟩ := h
        exact .bound _ (hfamily ▸ .wholeDouble hn) (bound_double hfamily hn)
      · refine .refused (.of_family hfamily nofun ?_ (by simp)) (bound_double_of_not hfamily h)
        rintro (_ | _ | _ | _ | _ | hx)
        exact h ⟨_, hx⟩

lemma bound_eq_none_iff (hf : f.semanticType.isNumeric = true) :
    f.bound v = .ok none ↔ v = .null := by
  cases compares hf v with
  | null hnull hbound => simp only [hnull, hnull ▸ hbound]
  | bound b hsuits hbound =>
    simp only [hbound, Except.ok.injEq, reduceCtorEq, hsuits.ne_null]
  | refused hrefused hbound => simp only [hbound, reduceCtorEq, hrefused.ne_null]

lemma exists_bound_iff (hf : f.semanticType.isNumeric = true) :
    (∃ b, f.bound v = .ok (some b)) ↔ v.Suits f.semanticType := by
  cases compares hf v with
  | null hnull hbound =>
    simp only [hbound, Except.ok.injEq, reduceCtorEq, exists_false, false_iff]
    exact fun hsuits => hsuits.ne_null hnull
  | bound b hsuits hbound => simp [hbound, hsuits]
  | refused hrefused hbound => simp [hbound, hrefused.not_suits]

lemma bound_eq_error_iff (hf : f.semanticType.isNumeric = true) :
    f.bound v = .error err ↔ f.Incomparable v err := by
  cases compares hf v with
  | null hnull hbound =>
    simp only [hbound, reduceCtorEq, false_iff]
    exact fun h => h.ne_null hnull
  | bound b hsuits hbound =>
    simp only [hbound, reduceCtorEq, false_iff]
    exact fun h => h.not_suits hsuits
  | refused hrefused hbound =>
    rw [hbound, Except.error.injEq]
    constructor
    · rintro rfl
      exact hrefused
    · exact hrefused.unique

lemma isNumeric_iff : f.semanticType.isNumeric = true ↔ f.semanticType ≠ .string := by
  cases f.semanticType <;> simp [SemanticType.isNumeric]

/-- How an operand that does not suit a field is refused in a term. -/
inductive RefusedTerm (f : MappedField) : Operand → Error → Prop
  | null : RefusedTerm f .null (.nullTerm f.name)
  | text {v : Operand} : f.semanticType.isNumeric = false → v ≠ .null →
      ¬ v.Suits f.semanticType → RefusedTerm f v (.nonTextTerm f.name v.display)
  | number {v : Operand} {err : Error} : f.semanticType.isNumeric = true →
      f.Incomparable v err → RefusedTerm f v err

lemma RefusedTerm.not_suits (h : f.RefusedTerm v err) : ¬ v.Suits f.semanticType := by
  cases h with
  | null => exact fun hsuits => hsuits.ne_null rfl
  | text _ _ hsuits => exact hsuits
  | number _ h => exact h.not_suits

lemma RefusedTerm.unique (h : f.RefusedTerm v err) (h' : f.RefusedTerm v err') : err = err' := by
  cases h with
  | null =>
    cases h' with
    | null => rfl
    | text _ hnull => exact (hnull rfl).elim
    | number _ h' => exact (h'.ne_null rfl).elim
  | text hf hnull =>
    cases h' with
    | null => exact (hnull rfl).elim
    | text => rfl
    | number hf' => cases hf.symm.trans hf'
  | number hf h =>
    cases h' with
    | null => exact (h.ne_null rfl).elim
    | text hf' => cases hf'.symm.trans hf
    | number _ h' => exact h.unique h'

/-- An operand suits a field and makes a term of it, or is refused. -/
inductive Terms (f : MappedField) (v : Operand) : Prop
  | term (q : Query) : v.Suits f.semanticType → f.termQuery v = .ok q → Terms f v
  | refused {err : Error} : f.RefusedTerm v err → f.termQuery v = .error err → Terms f v

theorem terms (f : MappedField) (v : Operand) : f.Terms v := by
  cases hf : f.semanticType.isNumeric with
  | true =>
    have hne := isNumeric_iff.1 hf
    cases compares hf v with
    | null hnull hbound =>
      subst hnull
      exact .refused .null ((if_neg hne).trans (by rw [hbound]))
    | bound b hsuits hbound => exact .term _ hsuits ((if_neg hne).trans (by rw [hbound]))
    | refused hrefused hbound =>
      exact .refused (.number hf hrefused) ((if_neg hne).trans (by rw [hbound]))
  | false =>
    have hstring : f.semanticType = .string :=
      Decidable.of_not_not fun hne => by simp [isNumeric_iff.2 hne] at hf
    cases v with
    | string text => exact .term _ (hstring ▸ .string text) (if_pos hstring)
    | null => exact .refused .null (if_pos hstring)
    | _ => exact .refused (.text hf (by rintro ⟨⟩) (hstring ▸ by rintro ⟨⟩)) (if_pos hstring)

lemma exists_termQuery_iff : (∃ q, f.termQuery v = .ok q) ↔ v.Suits f.semanticType := by
  cases terms f v with
  | term q hsuits hterm => simp [hterm, hsuits]
  | refused hrefused hterm => simp [hterm, hrefused.not_suits]

lemma termQuery_eq_error_iff : f.termQuery v = .error err ↔ f.RefusedTerm v err := by
  cases terms f v with
  | term q hsuits hterm =>
    simp only [hterm, reduceCtorEq, false_iff]
    exact fun h => h.not_suits hsuits
  | refused hrefused hterm =>
    rw [hterm, Except.error.injEq]
    constructor
    · rintro rfl
      exact hrefused
    · exact hrefused.unique

end MappedField

namespace Expr

variable {ω : Type} {e field value : Expr ω} {min max side : Option (Expr ω)} {s s' : ω}
  {f : MappedField} {v : Operand} {err : Error}

/-! ## Operands and sides of ranges -/

/-- An operand is a constant, or captured and read from the surroundings. -/
inductive Reads : Expr ω → ω → Operand → ω → Prop
  | constant (v : Operand) (s : ω) : Reads (.constant v) s v s
  | captured (read : ω → Operand × ω) (s : ω) : Reads (.captured read) s (read s).1 (read s).2

/-- A side of a range is open, explicitly or by a null operand, or an operand that suits the
field. -/
inductive IsSide (family : SemanticType) : Option (Expr ω) → ω → ω → Prop
  | absent (s : ω) : IsSide family none s s
  | null {e : Expr ω} {s s' : ω} : e.Reads s .null s' → IsSide family (some e) s s'
  | value {e : Expr ω} {s s' : ω} {v : Operand} :
      e.Reads s v s' → v.Suits family → IsSide family (some e) s s'

/-- How a side of a range is refused. -/
inductive RefusedSide (f : MappedField) : Option (Expr ω) → ω → Error → Prop
  | operand {e : Expr ω} {s : ω} :
      (∀ v s', ¬ e.Reads s v s') → RefusedSide f (some e) s (.notOperand e.display)
  | value {e : Expr ω} {s s' : ω} {v : Operand} {err : Error} :
      e.Reads s v s' → f.Incomparable v err → RefusedSide f (some e) s err

lemma operand_eq_ok_iff : e.operand s = (.ok v, s') ↔ e.Reads s v s' := by
  constructor
  · intro h
    cases e with
    | constant w =>
      obtain ⟨rfl, rfl⟩ := Translation.pure_eq_ok.1 h
      exact .constant _ _
    | captured read =>
      obtain ⟨hv, rfl⟩ := Prod.mk.inj h
      obtain rfl := Except.ok.inj hv
      exact .captured _ _
    | _ => exact absurd h Translation.throw_ne_ok
  · rintro ⟨⟩
    · rfl
    · rfl

lemma exists_operand_eq_error_iff :
    (∃ s', e.operand s = (.error err, s')) ↔
      (∀ v s', ¬ e.Reads s v s') ∧ err = .notOperand e.display := by
  simp only [← operand_eq_ok_iff]
  cases e with
  | constant w => simp [operand, Translation.pure_ne_error, Translation.pure_eq_ok]
  | captured read =>
    constructor
    · rintro ⟨s', ⟨⟩⟩
    · rintro ⟨h, -⟩
      exact absurd rfl (h _ _)
  | _ => simp [operand, Translation.throw_ne_ok, Translation.throw_eq_error]

lemma exists_side_iff (hf : f.semanticType.isNumeric = true) :
    (∃ b, Expr.side f side s = (.ok b, s')) ↔ IsSide f.semanticType side s s' := by
  constructor
  · rintro ⟨b, h⟩
    cases side with
    | none =>
      obtain ⟨-, rfl⟩ := Translation.pure_eq_ok.1 h
      exact .absent s'
    | some e =>
      obtain ⟨v, s₁, hv, h⟩ := Translation.bind_eq_ok.1 h
      obtain ⟨hb, rfl⟩ := Translation.ofExcept_eq_ok.1 h
      have hreads := operand_eq_ok_iff.1 hv
      cases b with
      | none =>
        obtain rfl := (MappedField.bound_eq_none_iff hf).1 hb
        exact .null hreads
      | some b => exact .value hreads ((MappedField.exists_bound_iff hf).1 ⟨b, hb⟩)
  · rintro (_ | hreads | ⟨hreads, hsuits⟩)
    · exact ⟨none, Translation.pure_eq_ok.2 ⟨rfl, rfl⟩⟩
    · have hb : f.bound .null = .ok none := (MappedField.bound_eq_none_iff hf).2 rfl
      exact ⟨none, Translation.bind_eq_ok.2
        ⟨_, _, operand_eq_ok_iff.2 hreads, Translation.ofExcept_eq_ok.2 ⟨hb, rfl⟩⟩⟩
    · obtain ⟨b, hb⟩ := (MappedField.exists_bound_iff hf).2 hsuits
      exact ⟨some b, Translation.bind_eq_ok.2
        ⟨_, _, operand_eq_ok_iff.2 hreads, Translation.ofExcept_eq_ok.2 ⟨hb, rfl⟩⟩⟩

lemma exists_side_eq_error_iff (hf : f.semanticType.isNumeric = true) :
    (∃ s', Expr.side f side s = (.error err, s')) ↔ RefusedSide f side s err := by
  constructor
  · rintro ⟨s', h⟩
    cases side with
    | none => exact absurd h Translation.pure_ne_error
    | some e =>
      obtain h | ⟨v, s₁, hv, h⟩ := Translation.bind_eq_error.1 h
      · obtain ⟨hreads, rfl⟩ := exists_operand_eq_error_iff.1 ⟨s', h⟩
        exact .operand hreads
      · obtain ⟨hb, rfl⟩ := Translation.ofExcept_eq_error.1 h
        exact .value (operand_eq_ok_iff.1 hv) ((MappedField.bound_eq_error_iff hf).1 hb)
  · rintro (hreads | ⟨hreads, hrefused⟩)
    · obtain ⟨s', h⟩ := exists_operand_eq_error_iff.2 ⟨hreads, rfl⟩
      exact ⟨s', Translation.bind_eq_error.2 (.inl h)⟩
    · have hb := (MappedField.bound_eq_error_iff hf).2 hrefused
      exact ⟨_, Translation.bind_eq_error.2 (.inr
        ⟨_, _, operand_eq_ok_iff.2 hreads, Translation.ofExcept_eq_error.2 ⟨hb, rfl⟩⟩)⟩

/-! ## The grammar -/

mutual

/-- The predicates that translate, with the surroundings before and after. -/
inductive Derives : Expr ω → ω → ω → Prop
  | range {field : Expr ω} {min max : Option (Expr ω)} {minInclusive maxInclusive : Bool}
      {f : MappedField} {s s₁ s' : ω} :
      field.IsField f → f.semanticType.isNumeric = true →
      IsSide f.semanticType min s s₁ → IsSide f.semanticType max s₁ s' →
      Derives (.range field min max minInclusive maxInclusive) s s'
  | term {field value : Expr ω} {f : MappedField} {v : Operand} {s s' : ω} :
      field.IsField f → value.Reads s v s' → v.Suits f.semanticType →
      Derives (.term field value) s s'
  | and {es : List (Expr ω)} {s s' : ω} : DerivesAll es s s' → Derives (.and es) s s'

/-- Predicates that translate one after the other. -/
inductive DerivesAll : List (Expr ω) → ω → ω → Prop
  | nil (s : ω) : DerivesAll [] s s
  | cons {e : Expr ω} {es : List (Expr ω)} {s s₁ s' : ω} :
      e.Derives s s₁ → DerivesAll es s₁ s' → DerivesAll (e :: es) s s'

end

/-- How an expression that is no conjunction is refused. -/
inductive Refused : Expr ω → ω → Error → Prop
  | rangeField {field : Expr ω} {min max : Option (Expr ω)} {minInclusive maxInclusive : Bool}
      {s : ω} {err : Error} : field.Fieldless err →
      Refused (.range field min max minInclusive maxInclusive) s err
  | textRange {field : Expr ω} {min max : Option (Expr ω)} {minInclusive maxInclusive : Bool}
      {s : ω} {f : MappedField} : field.IsField f → f.semanticType.isNumeric = false →
      Refused (.range field min max minInclusive maxInclusive) s (.textRange f.name)
  | lower {field : Expr ω} {min max : Option (Expr ω)} {minInclusive maxInclusive : Bool}
      {s : ω} {f : MappedField} {err : Error} :
      field.IsField f → f.semanticType.isNumeric = true → RefusedSide f min s err →
      Refused (.range field min max minInclusive maxInclusive) s err
  | upper {field : Expr ω} {min max : Option (Expr ω)} {minInclusive maxInclusive : Bool}
      {s s₁ : ω} {f : MappedField} {err : Error} :
      field.IsField f → f.semanticType.isNumeric = true →
      IsSide f.semanticType min s s₁ → RefusedSide f max s₁ err →
      Refused (.range field min max minInclusive maxInclusive) s err
  | termField {field value : Expr ω} {s : ω} {err : Error} : field.Fieldless err →
      Refused (.term field value) s err
  | operand {field value : Expr ω} {s : ω} {f : MappedField} :
      field.IsField f → (∀ v s', ¬ value.Reads s v s') →
      Refused (.term field value) s (.notOperand value.display)
  | value {field value : Expr ω} {s s' : ω} {f : MappedField} {v : Operand} {err : Error} :
      field.IsField f → value.Reads s v s' → f.RefusedTerm v err →
      Refused (.term field value) s err
  | other {e : Expr ω} {s : ω} :
      e.IsClause → ¬ e.IsComparison → Refused e s (.notPredicate e.display)

/-! ## Single clauses -/

lemma rangeQuery_of_numeric {minInclusive maxInclusive : Bool} (hf : field.IsField f)
    (hnumeric : f.semanticType.isNumeric = true) :
    rangeQuery field min max minInclusive maxInclusive s =
      (do
        let lo ← Expr.side f min
        let hi ← Expr.side f max
        return .range ⟨f.name, f.semanticType, lo, hi, minInclusive, maxInclusive⟩ :
          Translation ω Query) s := by
  rw [rangeQuery, field_eq_ok_iff.2 hf, Translation.ofExcept_ok_bind, if_pos hnumeric]

lemma termQuery_of_reads (hf : field.IsField f) (hreads : value.Reads s v s') :
    termQuery field value s = (f.termQuery v, s') := by
  rw [termQuery, field_eq_ok_iff.2 hf, Translation.ofExcept_ok_bind,
    Translation.bind_of_ok (operand_eq_ok_iff.2 hreads), Translation.ofExcept]

lemma exists_rangeQuery_iff {minInclusive maxInclusive : Bool} :
    (∃ q, rangeQuery field min max minInclusive maxInclusive s = (.ok q, s')) ↔
      Derives (.range field min max minInclusive maxInclusive) s s' := by
  constructor
  · rintro ⟨q, h⟩
    obtain ⟨f, s₀, hfield, hsides⟩ := Translation.bind_eq_ok.1 h
    obtain ⟨hf, rfl⟩ := Translation.ofExcept_eq_ok.1 hfield
    split at hsides
    · rename_i hnumeric
      obtain ⟨lo, s₁, hlo, hupper⟩ := Translation.bind_eq_ok.1 hsides
      obtain ⟨hi, s₂, hhi, hq⟩ := Translation.bind_eq_ok.1 hupper
      obtain ⟨-, rfl⟩ := Translation.pure_eq_ok.1 hq
      exact .range (field_eq_ok_iff.1 hf) hnumeric ((exists_side_iff hnumeric).1 ⟨lo, hlo⟩)
        ((exists_side_iff hnumeric).1 ⟨hi, hhi⟩)
    · exact absurd hsides Translation.throw_ne_ok
  · rintro ⟨hf, hnumeric, hmin, hmax⟩
    obtain ⟨lo, hlo⟩ := (exists_side_iff hnumeric).2 hmin
    obtain ⟨hi, hhi⟩ := (exists_side_iff hnumeric).2 hmax
    rw [rangeQuery_of_numeric hf hnumeric, Translation.bind_of_ok hlo, Translation.bind_of_ok hhi]
    exact ⟨_, rfl⟩

lemma exists_rangeQuery_eq_error_iff {minInclusive maxInclusive : Bool} :
    (∃ s', rangeQuery field min max minInclusive maxInclusive s = (.error err, s')) ↔
      Refused (.range field min max minInclusive maxInclusive) s err := by
  constructor
  · rintro ⟨s', h⟩
    obtain hfield | ⟨f, s₀, hfield, hsides⟩ := Translation.bind_eq_error.1 h
    · exact .rangeField (field_eq_error_iff.1 (Translation.ofExcept_eq_error.1 hfield).1)
    obtain ⟨hf, rfl⟩ := Translation.ofExcept_eq_ok.1 hfield
    have hf := field_eq_ok_iff.1 hf
    split at hsides
    · rename_i hnumeric
      obtain hlo | ⟨lo, s₁, hlo, hupper⟩ := Translation.bind_eq_error.1 hsides
      · exact .lower hf hnumeric ((exists_side_eq_error_iff hnumeric).1 ⟨s', hlo⟩)
      obtain hhi | ⟨hi, s₂, -, hq⟩ := Translation.bind_eq_error.1 hupper
      · exact .upper hf hnumeric ((exists_side_iff hnumeric).1 ⟨lo, hlo⟩)
          ((exists_side_eq_error_iff hnumeric).1 ⟨s', hhi⟩)
      · exact absurd hq Translation.pure_ne_error
    · rename_i hnumeric
      obtain ⟨rfl, -⟩ := Translation.throw_eq_error.1 hsides
      exact .textRange hf (by simpa using hnumeric)
  · intro h
    cases h with
    | rangeField hfield =>
      rw [rangeQuery, field_eq_error_iff.2 hfield]
      exact ⟨s, rfl⟩
    | textRange hf hnumeric =>
      rw [rangeQuery, field_eq_ok_iff.2 hf, Translation.ofExcept_ok_bind, hnumeric]
      exact ⟨s, rfl⟩
    | lower hf hnumeric hmin =>
      obtain ⟨s', hlo⟩ := (exists_side_eq_error_iff hnumeric).2 hmin
      rw [rangeQuery_of_numeric hf hnumeric, Translation.bind_of_error hlo]
      exact ⟨s', rfl⟩
    | upper hf hnumeric hmin hmax =>
      obtain ⟨lo, hlo⟩ := (exists_side_iff hnumeric).2 hmin
      obtain ⟨s', hhi⟩ := (exists_side_eq_error_iff hnumeric).2 hmax
      rw [rangeQuery_of_numeric hf hnumeric, Translation.bind_of_ok hlo,
        Translation.bind_of_error hhi]
      exact ⟨s', rfl⟩
    | other _ hcomparison => exact absurd (.range ..) hcomparison

lemma exists_termQuery_iff :
    (∃ q, termQuery field value s = (.ok q, s')) ↔ Derives (.term field value) s s' := by
  constructor
  · rintro ⟨q, h⟩
    obtain ⟨f, v, hf, hv, hq⟩ := termQuery_eq_ok h
    exact .term (field_eq_ok_iff.1 hf) (operand_eq_ok_iff.1 hv)
      (MappedField.exists_termQuery_iff.1 ⟨q, hq⟩)
  · intro h
    cases h with
    | term hf hreads hsuits =>
      obtain ⟨q, hq⟩ := MappedField.exists_termQuery_iff.2 hsuits
      exact ⟨q, by rw [termQuery_of_reads hf hreads, hq]⟩

lemma exists_termQuery_eq_error_iff :
    (∃ s', termQuery field value s = (.error err, s')) ↔
      Refused (.term field value) s err := by
  constructor
  · rintro ⟨s', h⟩
    obtain hfield | ⟨f, s₀, hfield, hvalue⟩ := Translation.bind_eq_error.1 h
    · exact .termField (field_eq_error_iff.1 (Translation.ofExcept_eq_error.1 hfield).1)
    obtain ⟨hf, rfl⟩ := Translation.ofExcept_eq_ok.1 hfield
    have hf := field_eq_ok_iff.1 hf
    obtain hoperand | ⟨v, s₁, hv, hq⟩ := Translation.bind_eq_error.1 hvalue
    · obtain ⟨hreads, rfl⟩ := exists_operand_eq_error_iff.1 ⟨s', hoperand⟩
      exact .operand hf hreads
    exact .value hf (operand_eq_ok_iff.1 hv)
      (MappedField.termQuery_eq_error_iff.1 (Translation.ofExcept_eq_error.1 hq).1)
  · intro h
    cases h with
    | termField hfield =>
      rw [termQuery, field_eq_error_iff.2 hfield]
      exact ⟨s, rfl⟩
    | operand hf hreads =>
      obtain ⟨s', h⟩ := exists_operand_eq_error_iff.2 ⟨hreads, rfl⟩
      rw [termQuery, field_eq_ok_iff.2 hf, Translation.ofExcept_ok_bind,
        Translation.bind_of_error h]
      exact ⟨s', rfl⟩
    | value hf hreads hrefused =>
      rw [termQuery_of_reads hf hreads, MappedField.termQuery_eq_error_iff.2 hrefused]
      exact ⟨_, rfl⟩
    | other _ hcomparison => exact absurd (.term ..) hcomparison

lemma exists_translate_eq_error_iff (h : e.IsClause) :
    (∃ s', e.translate s = (.error err, s')) ↔ e.Refused s err := by
  cases e with
  | and es => exact absurd rfl (h es)
  | range field min max minInclusive maxInclusive =>
    rw [translate]
    exact exists_rangeQuery_eq_error_iff
  | term field value =>
    rw [translate]
    exact exists_termQuery_eq_error_iff
  | _ =>
    simp only [translate, Translation.throw_eq_error]
    constructor
    · rintro ⟨s', rfl, -⟩
      exact .other h (by rintro ⟨⟩)
    · rintro ⟨⟩
      exact ⟨s, rfl, rfl⟩

/-! ## Whole predicates -/

/-- The fold over the clauses of a conjunction goes through all of them, or as far as they
translate. -/
lemma translateAll_eq_mapM (q : Query) (es : List (Expr ω)) :
    translateAll q es = (fun qs => qs.foldl Query.intersect q) <$> es.mapM translate := by
  induction es generalizing q with
  | nil => simp [translateAll]
  | cons e es ih => simp [translateAll, ih]

mutual

lemma exists_translate_iff {e : Expr ω} {s s' : ω} :
    (∃ q, e.translate s = (.ok q, s')) ↔ e.Derives s s' := by
  cases e with
  | range field min max minInclusive maxInclusive =>
    rw [translate]
    exact exists_rangeQuery_iff
  | term field value =>
    rw [translate]
    exact exists_termQuery_iff
  | and es =>
    simp only [translate, translateAll_eq_mapM, Translation.map_eq_ok]
    constructor
    · rintro ⟨q, qs, h, -⟩
      exact .and (exists_mapM_iff.1 ⟨qs, h⟩)
    · rintro (_ | _ | h)
      obtain ⟨qs, h⟩ := exists_mapM_iff.2 h
      exact ⟨_, qs, h, rfl⟩
  | _ =>
    simp only [translate, Translation.throw_ne_ok, exists_false, false_iff]
    rintro ⟨⟩

lemma exists_mapM_iff {es : List (Expr ω)} {s s' : ω} :
    (∃ qs, es.mapM translate s = (.ok qs, s')) ↔ DerivesAll es s s' := by
  cases es with
  | nil =>
    simp only [List.mapM_nil, Translation.pure_eq_ok, exists_eq_left]
    constructor
    · rintro rfl
      exact .nil s'
    · rintro ⟨⟩
      rfl
  | cons e es =>
    simp only [List.mapM_cons, Translation.bind_eq_ok, Translation.pure_eq_ok]
    constructor
    · rintro ⟨qs, q, s₁, he, ps, s₂, hes, -, rfl⟩
      exact .cons (exists_translate_iff.1 ⟨q, he⟩) (exists_mapM_iff.1 ⟨ps, hes⟩)
    · rintro (_ | ⟨he, hes⟩)
      obtain ⟨q, he⟩ := exists_translate_iff.2 he
      obtain ⟨ps, hes⟩ := exists_mapM_iff.2 hes
      exact ⟨q :: ps, q, _, he, ps, _, hes, rfl, rfl⟩

end

/-- A predicate translates exactly if it is derived. Otherwise its leaves begin with some that are
derived, and one that is not ends the translation with its own error, in this predicate and in
every other one whose leaves begin with the same. -/
theorem translate_iff_derives (e : Expr ω) (s : ω) :
    (∀ s', (∃ q, e.translate s = (.ok q, s')) ↔ e.Derives s s') ∧
      ((¬ ∃ s', e.Derives s s') → ∃ good bad rest s₁ err s₂,
        e.leaves = good ++ bad :: rest ∧ DerivesAll good s s₁ ∧ (¬ ∃ s', bad.Derives s₁ s') ∧
        bad.Refused s₁ err ∧ bad.translate s₁ = (.error err, s₂) ∧
        e.translate s = (.error err, s₂) ∧
        ∀ (e' : Expr ω) (rest' : List (Expr ω)), e'.leaves = good ++ bad :: rest' →
          e'.translate s = (.error err, s₂)) := by
  refine ⟨fun s' => exists_translate_iff, fun hnot => ?_⟩
  obtain ⟨err, s₂, herror⟩ : ∃ err s₂, e.translate s = (.error err, s₂) := by
    cases h : e.translate s with
    | mk r s₂ =>
      cases r with
      | error err => exact ⟨err, s₂, rfl⟩
      | ok q => exact absurd ⟨s₂, exists_translate_iff.1 ⟨q, h⟩⟩ hnot
  -- Translation goes through the leaves alone, and from left to right.
  obtain ⟨good, bad, rest, qs, s₁, hleaves, hgood, hbad⟩ :=
    Translation.exists_of_mapM_eq_error (translate_eq_error.1 herror)
  have hclause := isClause_of_mem_leaves e bad (by simp [hleaves])
  refine ⟨good, bad, rest, s₁, err, s₂, hleaves, exists_mapM_iff.1 ⟨qs, hgood⟩, ?_,
    (exists_translate_eq_error_iff hclause).1 ⟨s₂, hbad⟩, hbad, herror, ?_⟩
  · rintro ⟨s', hderives⟩
    obtain ⟨q, hok⟩ := exists_translate_iff.2 hderives
    rw [hbad] at hok
    cases hok
  · intro e' rest' hleaves'
    rw [translate_eq_error, hleaves']
    exact Translation.mapM_eq_error hgood hbad rest'

/-- The note with a word in a tag, and from a tag on, which is no range. -/
def rangedTag : Expr Unit :=
  and [(Property.ofName "tags" (.sequence (.leaf .string))).term (.constant (.string "fox")),
    and [(Property.ofName "tags" (.leaf .string)).atLeast (.constant (.long 5))], .parameter]

theorem translate_iff_derives_note :
    (∃ q, groupedNote.translate () = (.ok q, ())) ∧ groupedNote.Derives () () ∧
      (¬ ∃ s', rangedTag.Derives () s') ∧ ∃ good bad rest s₁ err s₂,
        rangedTag.leaves = good ++ bad :: rest ∧ DerivesAll good () s₁ ∧ bad.Refused s₁ err ∧
        rangedTag.translate () = (.error err, s₂) ∧ err = .textRange "tags" := by
  have hok : ∃ q, groupedNote.translate () = (.ok q, ()) := ⟨groupedNoteQuery, rfl⟩
  have herror : rangedTag.translate () = (.error (.textRange "tags"), ()) := rfl
  obtain ⟨hiff, hfail⟩ := translate_iff_derives rangedTag ()
  have hnot : ¬ ∃ s', rangedTag.Derives () s' := by
    rintro ⟨s', h⟩
    obtain ⟨q, hq⟩ := (hiff s').2 h
    rw [herror] at hq
    cases hq
  obtain ⟨good, bad, rest, s₁, err, s₂, hleaves, hgood, -, hrefused, -, htranslate, -⟩ := hfail hnot
  refine ⟨hok, ((translate_iff_derives groupedNote ()).1 ()).1 hok, hnot, good, bad, rest, s₁, err,
    s₂, hleaves, hgood, hrefused, htranslate, ?_⟩
  rw [herror] at htranslate
  cases htranslate
  rfl

end Expr

end FieldSearch
