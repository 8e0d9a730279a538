import FieldSearch.Query.Translate
import Mathlib.Tactic.Lemma

/-!
# Translations that do not fail

What is known of the parts of an expression once a query came of it: its paths name fields, its
operands are constants or were read from the surroundings, and the surroundings went through the
parts from left to right.

`Expr.settle` puts the values read in the place of captured operands. `settle_of_translate` says
that it reads as the translation does, so the settled expression is the one the query came of.
-/

namespace FieldSearch

variable {ω α β : Type} {s s' : ω}

/-! ## Steps of a translation -/

namespace Translation

lemma bind_eq_ok {x : Translation ω α} {f : α → Translation ω β} {b : β} :
    (x >>= f) s = (.ok b, s') ↔ ∃ a s₁, x s = (.ok a, s₁) ∧ f a s₁ = (.ok b, s') := by
  simp only [bind, ExceptT.bind, ExceptT.mk, StateT.bind]
  obtain ⟨r, s₁⟩ := x s
  cases r with
  | error e =>
    constructor
    · rintro ⟨⟩
    · rintro ⟨a, s₂, ⟨⟩, -⟩
  | ok a =>
    constructor
    · intro h
      exact ⟨a, s₁, rfl, h⟩
    · rintro ⟨a', s₂, ⟨⟩, h⟩
      exact h

lemma pure_eq_ok {a b : α} :
    (pure a : Translation ω α) s = (.ok b, s') ↔ b = a ∧ s' = s := by
  constructor
  · rintro ⟨⟩
    exact ⟨rfl, rfl⟩
  · rintro ⟨rfl, rfl⟩
    rfl

lemma throw_ne_ok {e : Error} {b : α} : (throw e : Translation ω α) s ≠ (.ok b, s') := by
  rintro ⟨⟩

lemma ofExcept_eq_ok {r : Except Error α} {b : α} :
    (ofExcept r : Translation ω α) s = (.ok b, s') ↔ r = .ok b ∧ s' = s := by
  rw [ofExcept, Prod.mk.injEq, eq_comm (a := s)]

lemma bind_of_ok {x : Translation ω α} {f : α → Translation ω β} {a : α}
    (h : x s = (.ok a, s')) : (x >>= f) s = f a s' := by
  simp only [bind, ExceptT.bind, ExceptT.mk, StateT.bind, h]
  rfl

lemma bind_of_error {x : Translation ω α} {f : α → Translation ω β} {e : Error}
    (h : x s = (.error e, s')) : (x >>= f) s = (.error e, s') := by
  simp only [bind, ExceptT.bind, ExceptT.mk, StateT.bind, h]
  rfl

lemma ofExcept_ok_bind {a : α} {f : α → Translation ω β} :
    ((ofExcept (.ok a) : Translation ω α) >>= f) = f a := rfl

lemma bind_eq_error {x : Translation ω α} {f : α → Translation ω β} {e : Error} :
    (x >>= f) s = (.error e, s') ↔
      x s = (.error e, s') ∨ ∃ a s₁, x s = (.ok a, s₁) ∧ f a s₁ = (.error e, s') := by
  simp only [bind, ExceptT.bind, ExceptT.mk, StateT.bind]
  obtain ⟨r, s₁⟩ := x s
  cases r with
  | error e' =>
    constructor
    · rintro ⟨⟩
      exact .inl rfl
    · rintro (⟨⟨⟩⟩ | ⟨a, s₂, ⟨⟩, -⟩)
      rfl
  | ok a =>
    constructor
    · intro h
      exact .inr ⟨a, s₁, rfl, h⟩
    · rintro (⟨⟨⟩⟩ | ⟨a', s₂, ⟨⟩, h⟩)
      exact h

lemma pure_ne_error {a : α} {e : Error} : (pure a : Translation ω α) s ≠ (.error e, s') := by
  rintro ⟨⟩

lemma map_eq_ok {x : Translation ω α} {f : α → β} {b : β} :
    (f <$> x) s = (.ok b, s') ↔ ∃ a, x s = (.ok a, s') ∧ b = f a := by
  rw [map_eq_pure_bind, bind_eq_ok]
  simp only [pure_eq_ok]
  constructor
  · rintro ⟨a, s₁, h, rfl, rfl⟩
    exact ⟨a, h, rfl⟩
  · rintro ⟨a, h, rfl⟩
    exact ⟨a, s', h, rfl, rfl⟩

lemma map_eq_error {x : Translation ω α} {f : α → β} {e : Error} :
    (f <$> x) s = (.error e, s') ↔ x s = (.error e, s') := by
  rw [map_eq_pure_bind, bind_eq_error]
  simp only [pure_ne_error, and_false, exists_false, or_false]

lemma throw_eq_error {e e' : Error} :
    (throw e : Translation ω α) s = (.error e', s') ↔ e' = e ∧ s' = s := by
  constructor
  · rintro ⟨⟩
    exact ⟨rfl, rfl⟩
  · rintro ⟨rfl, rfl⟩
    rfl

lemma ofExcept_eq_error {r : Except Error α} {e : Error} :
    (ofExcept r : Translation ω α) s = (.error e, s') ↔ r = .error e ∧ s' = s := by
  rw [ofExcept, Prod.mk.injEq, eq_comm (a := s)]

end Translation

namespace Expr

/-! ## Paths -/

/-- The path of a chain of members, with dots between the names. -/
def dotted : Expr ω → String
  | member target name _ => Path.join target.dotted name
  | _ => ""

/-- The family that the declared type of a property puts its field in. -/
def family? : Expr ω → Option SemanticType
  | member _ _ type => type.classify.toOption.map LeafKind.semanticType
  | _ => none

lemma dotted_of_names {e : Expr ω} {ns : List String} (h : e.names = .ok (some ns)) :
    "" ∉ ns ∧ e.dotted = Path.ofNames ns := by
  fun_induction names e generalizing ns with
  | case1 =>
    obtain rfl : [] = ns := Option.some.inj (Except.ok.inj h)
    exact ⟨List.not_mem_nil, rfl⟩
  | case2 => cases h
  | case3 target name type hname ih =>
    cases htarget : target.names with
    | error e =>
      rw [htarget] at h
      cases h
    | ok found =>
      rw [htarget] at h
      cases found with
      | none => cases h
      | some ms =>
        obtain rfl : ms ++ [name] = ns := Option.some.inj (Except.ok.inj h)
        obtain ⟨hms, hdotted⟩ := ih htarget
        refine ⟨?_, ?_⟩
        · simpa [hms] using Ne.symm hname
        · rw [dotted, hdotted, Path.join_ofNames hms]
  | case4 => cases h

/-- The field of a property is named by its path and is of the family of its declared type. -/
lemma field_eq_ok {e : Expr ω} {f : MappedField} (h : e.field = .ok f) :
    f.name = e.dotted ∧ e.family? = some f.semanticType := by
  cases e with
  | member target name type =>
    simp only [field, resolve] at h
    cases hnames : (member target name type).names with
    | error e =>
      rw [hnames] at h
      cases h
    | ok found =>
      rw [hnames] at h
      cases found with
      | none => cases h
      | some ns =>
        cases hkind : type.classify with
        | error e =>
          simp only [hkind] at h
          cases h
        | ok kind =>
          simp only [hkind] at h
          obtain rfl := Except.ok.inj h
          refine ⟨(dotted_of_names hnames).2.symm, ?_⟩
          rw [family?, hkind]
          rfl
  | _ => simp [field, resolve] at h

/-! ## Operands -/

/-- An operand with the value read in the place of a captured one, and the surroundings after
it. -/
def settleOperand : Expr ω → ω → Expr ω × ω
  | captured read, s => (constant (read s).1, (read s).2)
  | e, s => (e, s)

/-- A side of a range with the value read in the place of a captured operand. -/
def settleSide : Option (Expr ω) → ω → Option (Expr ω) × ω
  | none, s => (none, s)
  | some e, s => (some (e.settleOperand s).1, (e.settleOperand s).2)

lemma settleOperand_of_operand {e : Expr ω} {v : Operand} (h : e.operand s = (.ok v, s')) :
    e.settleOperand s = (constant v, s') := by
  cases e with
  | constant w =>
    obtain ⟨rfl, rfl⟩ := Translation.pure_eq_ok.1 h
    rfl
  | captured read =>
    obtain ⟨hv, rfl⟩ := Prod.mk.inj h
    obtain rfl := Except.ok.inj hv
    rfl
  | _ => exact absurd h Translation.throw_ne_ok

/-- A side is open, or its bound is that of the value read. -/
lemma settleSide_of_side {f : MappedField} {e : Option (Expr ω)} {b : Option NumericValue}
    (h : side f e s = (.ok b, s')) :
    (settleSide e s = (none, s') ∧ b = none) ∨
      ∃ v, settleSide e s = (some (constant v), s') ∧ f.bound v = .ok b := by
  cases e with
  | none =>
    obtain ⟨rfl, rfl⟩ := Translation.pure_eq_ok.1 h
    exact .inl ⟨rfl, rfl⟩
  | some e =>
    obtain ⟨v, s₁, hv, h⟩ := Translation.bind_eq_ok.1 h
    obtain ⟨hb, rfl⟩ := Translation.ofExcept_eq_ok.1 h
    refine .inr ⟨v, ?_, hb⟩
    rw [settleSide, settleOperand_of_operand hv]

lemma settleSide_snd {f : MappedField} {e : Option (Expr ω)} {b : Option NumericValue}
    (h : side f e s = (.ok b, s')) : (settleSide e s).2 = s' := by
  obtain ⟨he, -⟩ | ⟨v, he, -⟩ := settleSide_of_side h <;> rw [he]

/-! ## Predicates -/

variable {q : Query}

lemma rangeQuery_eq_ok {field : Expr ω} {min max : Option (Expr ω)}
    {minInclusive maxInclusive : Bool}
    (h : rangeQuery field min max minInclusive maxInclusive s = (.ok q, s')) :
    ∃ f lo hi s₁, field.field = .ok f ∧ side f min s = (.ok lo, s₁) ∧
      side f max s₁ = (.ok hi, s') ∧
      q = .range ⟨f.name, f.semanticType, lo, hi, minInclusive, maxInclusive⟩ := by
  rw [rangeQuery] at h
  obtain ⟨f, s₀, hfield, hsides⟩ := Translation.bind_eq_ok.1 h
  obtain ⟨hf, rfl⟩ := Translation.ofExcept_eq_ok.1 hfield
  split at hsides
  · obtain ⟨lo, s₁, hlo, hupper⟩ := Translation.bind_eq_ok.1 hsides
    obtain ⟨hi, s₂, hhi, hq⟩ := Translation.bind_eq_ok.1 hupper
    obtain ⟨rfl, rfl⟩ := Translation.pure_eq_ok.1 hq
    exact ⟨f, lo, hi, s₁, hf, hlo, hhi, rfl⟩
  · exact absurd hsides Translation.throw_ne_ok

lemma termQuery_eq_ok {field value : Expr ω} (h : termQuery field value s = (.ok q, s')) :
    ∃ f v, field.field = .ok f ∧ value.operand s = (.ok v, s') ∧ f.termQuery v = .ok q := by
  rw [termQuery] at h
  obtain ⟨f, s₀, hfield, hvalue⟩ := Translation.bind_eq_ok.1 h
  obtain ⟨hf, rfl⟩ := Translation.ofExcept_eq_ok.1 hfield
  obtain ⟨v, s₁, hv, hterm⟩ := Translation.bind_eq_ok.1 hvalue
  obtain ⟨hq, rfl⟩ := Translation.ofExcept_eq_ok.1 hterm
  exact ⟨f, v, hf, hv, hq⟩

mutual

/-- A predicate with the values read in the place of its captured operands, and the surroundings
after it. -/
def settle : Expr ω → ω → Expr ω × ω
  | range field min max minInclusive maxInclusive, s =>
    let (min, s) := settleSide min s
    let (max, s) := settleSide max s
    (range field min max minInclusive maxInclusive, s)
  | term field value, s =>
    let (value, s) := value.settleOperand s
    (term field value, s)
  | and es, s =>
    let (es, s) := settleAll es s
    (and es, s)
  | e, s => (e, s)

/-- Predicates settled one after the other. -/
def settleAll : List (Expr ω) → ω → List (Expr ω) × ω
  | [], s => ([], s)
  | e :: es, s =>
    let (e, s) := e.settle s
    let (es, s) := settleAll es s
    (e :: es, s)

end

mutual

theorem settle_of_translate {e : Expr ω} {s s' : ω} {q : Query}
    (h : e.translate s = (.ok q, s')) : (e.settle s).2 = s' := by
  cases e with
  | range field min max minInclusive maxInclusive =>
    rw [translate] at h
    obtain ⟨f, lo, hi, s₁, -, hlo, hhi, -⟩ := rangeQuery_eq_ok h
    simp only [settle, settleSide_snd hlo, settleSide_snd hhi]
  | term field value =>
    rw [translate] at h
    obtain ⟨f, v, -, hv, -⟩ := termQuery_eq_ok h
    simp only [settle, settleOperand_of_operand hv]
  | and es =>
    rw [translate] at h
    simp only [settle]
    exact settleAll_of_translateAll h
  | _ =>
    simp only [translate] at h
    exact absurd h Translation.throw_ne_ok

theorem settleAll_of_translateAll {es : List (Expr ω)} {s s' : ω} {q r : Query}
    (h : translateAll q es s = (.ok r, s')) : (settleAll es s).2 = s' := by
  cases es with
  | nil =>
    obtain ⟨-, rfl⟩ := Translation.pure_eq_ok.1 h
    simp only [settleAll]
  | cons e es =>
    rw [translateAll] at h
    obtain ⟨p, s₁, he, hes⟩ := Translation.bind_eq_ok.1 h
    simp only [settleAll, settle_of_translate he]
    exact settleAll_of_translateAll hes

end

end Expr

end FieldSearch
