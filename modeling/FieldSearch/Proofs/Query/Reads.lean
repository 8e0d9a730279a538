import FieldSearch.Proofs.Query.Grammar

/-!
# Captured operands in their places

A node of an expression has a place, the numbers of the children on the way down to it, and places
are ordered as the tree is gone through depth first, from left to right. `Expr.reads` lists the
captured operands of the clauses in this order (`Expr.reads_pairwise`, `Expr.mem_reads_iff`).

`Expr.StopsAt` is the first node at which a predicate is not derived: the complement of
`Expr.Derives`, rule by rule, with the place at which the rule cannot go on. There is no such node
in a predicate that is derived, and never more than one (`Expr.StopsAt.not_derives`,
`Expr.StopsAt.unique`). The field of a clause comes before its operands, so a clause without a field
has no operand up to that node (`Expr.ClauseAt.before_of_lacksField`).
-/

namespace FieldSearch

/-! ## Places -/

/-- Where a node stands in an expression: the numbers of the children on the way down to it. -/
abbrev Place := List Nat

/-- Whether a node comes before another one, depth first and from left to right: above it, or
further to the left. -/
def Place.before : Place → Place → Bool
  | _, [] => false
  | [], _ :: _ => true
  | i :: p, j :: q => i < j || i = j && before p q

namespace Place

variable {i j : Nat} {p q : Place}

lemma before_cons_self : before (i :: p) (i :: q) = before p q := by
  simp [before]

lemma before_self (p : Place) : before p p = false := by
  induction p with
  | nil => rfl
  | cons i p ih => rw [before_cons_self, ih]

lemma before_cons_of_lt (h : i < j) : before (i :: p) (j :: q) = true := by
  simp [before, h]

lemma not_before_cons_of_lt (h : i < j) : before (j :: p) (i :: q) = false := by
  simp only [before, Bool.or_eq_false_iff, Bool.and_eq_false_iff, decide_eq_false_iff_not]
  omega

end Place

namespace Expr

variable {ω : Type}

/-! ## Clauses and what they read -/

/-- An operand that is captured, at its own place. -/
def operandReads : Expr ω → List Place
  | captured _ => [[]]
  | _ => []

/-- A side of a range that is captured, at its own place. -/
def sideReads : Option (Expr ω) → List Place
  | none => []
  | some e => e.operandReads

mutual

/-- The captured operands of the clauses of an expression, from left to right. -/
def reads : Expr ω → List Place
  | range _ min max _ _ => (sideReads min).map (1 :: ·) ++ (sideReads max).map (2 :: ·)
  | term _ value => value.operandReads.map (1 :: ·)
  | and es => readsAll 0 es
  | _ => []

/-- The captured operands of the clauses of children from the given number on. -/
def readsAll (i : Nat) : List (Expr ω) → List Place
  | [] => []
  | e :: es => e.reads.map (i :: ·) ++ readsAll (i + 1) es

end

/-- The clauses of an expression with their places. -/
inductive ClauseAt : Expr ω → Place → Expr ω → Prop
  | here {e : Expr ω} : e.IsClause → ClauseAt e [] e
  | within {es : List (Expr ω)} {i : Nat} {e c : Expr ω} {p : Place} :
      es[i]? = some e → e.ClauseAt p c → ClauseAt (.and es) (i :: p) c

/-- The children of a clause that are captured operands. -/
inductive Captures : Expr ω → Nat → Prop
  | lower {field : Expr ω} {read : ω → Operand × ω} {max : Option (Expr ω)}
      {minInclusive maxInclusive : Bool} :
      Captures (.range field (some (.captured read)) max minInclusive maxInclusive) 1
  | upper {field : Expr ω} {min : Option (Expr ω)} {read : ω → Operand × ω}
      {minInclusive maxInclusive : Bool} :
      Captures (.range field min (some (.captured read)) minInclusive maxInclusive) 2
  | value {field : Expr ω} {read : ω → Operand × ω} : Captures (.term field (.captured read)) 1

/-- A clause that compares no field: what it names is no property, or has no leaves, or has text
in a range. -/
inductive LacksField : Expr ω → Prop
  | range {field : Expr ω} {min max : Option (Expr ω)} {minInclusive maxInclusive : Bool} :
      (∀ f, field.IsField f → f.semanticType.isNumeric = false) →
      LacksField (.range field min max minInclusive maxInclusive)
  | term {field value : Expr ω} : (∀ f, ¬ field.IsField f) → LacksField (.term field value)

/-- The first node, depth first and from left to right, at which a predicate is not derived. -/
inductive StopsAt : Expr ω → ω → Place → Prop
  | field {e : Expr ω} {s : ω} : e.LacksField → StopsAt e s [0]
  | lower {field : Expr ω} {min max : Option (Expr ω)} {minInclusive maxInclusive : Bool}
      {f : MappedField} {s : ω} :
      field.IsField f → f.semanticType.isNumeric = true →
      (∀ s', ¬ IsSide f.semanticType min s s') →
      StopsAt (.range field min max minInclusive maxInclusive) s [1]
  | upper {field : Expr ω} {min max : Option (Expr ω)} {minInclusive maxInclusive : Bool}
      {f : MappedField} {s s₁ : ω} :
      field.IsField f → f.semanticType.isNumeric = true →
      IsSide f.semanticType min s s₁ → (∀ s', ¬ IsSide f.semanticType max s₁ s') →
      StopsAt (.range field min max minInclusive maxInclusive) s [2]
  | value {field value : Expr ω} {f : MappedField} {s : ω} :
      field.IsField f → (∀ v s', value.Reads s v s' → ¬ v.Suits f.semanticType) →
      StopsAt (.term field value) s [1]
  | other {e : Expr ω} {s : ω} : e.IsClause → ¬ e.IsComparison → StopsAt e s []
  | within {good rest : List (Expr ω)} {bad : Expr ω} {s s₁ : ω} {p : Place} :
      DerivesAll good s s₁ → bad.StopsAt s₁ p →
      StopsAt (.and (good ++ bad :: rest)) s (good.length :: p)

/-! ## The reads in order -/

variable {e c : Expr ω} {es : List (Expr ω)} {side : Option (Expr ω)} {i : Nat}
  {p q : Place} {s s' : ω}

lemma mem_operandReads : p ∈ e.operandReads ↔ p = [] ∧ ∃ read, e = captured read := by
  cases e with
  | captured read => simp [operandReads]
  | _ => simp [operandReads]

lemma mem_sideReads : p ∈ sideReads side ↔ p = [] ∧ ∃ read, side = some (captured read) := by
  cases side with
  | none => simp [sideReads]
  | some e => simp [sideReads, mem_operandReads]

lemma sideReads_cases (side : Option (Expr ω)) : sideReads side = [] ∨ sideReads side = [[]] := by
  cases side with
  | none => exact .inl rfl
  | some e => cases e <;> simp [sideReads, operandReads]

/-- A clause reads its children that are captured operands. -/
lemma IsClause.mem_reads_iff (h : c.IsClause) : p ∈ c.reads ↔ ∃ i, c.Captures i ∧ p = [i] := by
  cases c with
  | and es => exact absurd rfl (h es)
  | range field min max minInclusive maxInclusive =>
    simp only [reads, List.mem_append, List.mem_map, mem_sideReads]
    constructor
    · rintro (⟨_, ⟨rfl, read, rfl⟩, rfl⟩ | ⟨_, ⟨rfl, read, rfl⟩, rfl⟩)
      · exact ⟨1, .lower, rfl⟩
      · exact ⟨2, .upper, rfl⟩
    · rintro ⟨_, ⟨⟩, rfl⟩
      · exact .inl ⟨[], ⟨rfl, _, rfl⟩, rfl⟩
      · exact .inr ⟨[], ⟨rfl, _, rfl⟩, rfl⟩
  | term field value =>
    simp only [reads, List.mem_map, mem_operandReads]
    constructor
    · rintro ⟨_, ⟨rfl, read, rfl⟩, rfl⟩
      exact ⟨1, .value, rfl⟩
    · rintro ⟨_, ⟨⟩, rfl⟩
      exact ⟨[], ⟨rfl, _, rfl⟩, rfl⟩
  | _ =>
    simp only [reads, List.not_mem_nil, false_iff]
    rintro ⟨_, ⟨⟩, -⟩

lemma mem_readsAll_iff :
    p ∈ readsAll i es ↔ ∃ j e q, es[j]? = some e ∧ q ∈ e.reads ∧ p = (i + j) :: q := by
  induction es generalizing i with
  | nil => simp [readsAll]
  | cons e es ih =>
    simp only [readsAll, List.mem_append, List.mem_map, ih]
    constructor
    · rintro (⟨q, hq, rfl⟩ | ⟨j, d, q, hd, hq, rfl⟩)
      · exact ⟨0, e, q, rfl, hq, rfl⟩
      · exact ⟨j + 1, d, q, hd, hq, by rw [Nat.add_right_comm, Nat.add_assoc]⟩
    · rintro ⟨j, d, q, hd, hq, rfl⟩
      cases j with
      | zero =>
        obtain rfl := Option.some.inj hd
        exact .inl ⟨q, hq, rfl⟩
      | succ j => exact .inr ⟨j, d, q, hd, hq, by rw [Nat.add_right_comm, Nat.add_assoc]⟩

mutual

lemma exists_clauseAt_of_mem_reads (e : Expr ω) {p : Place} (h : p ∈ e.reads) :
    ∃ q c i, e.ClauseAt q c ∧ c.Captures i ∧ p = q ++ [i] := by
  cases e with
  | and es =>
    obtain ⟨j, e, q, c, i, hj, hc, hi, rfl⟩ := exists_clauseAt_of_mem_readsAll es 0 h
    exact ⟨j :: q, c, i, .within hj hc, hi, by simp⟩
  | _ =>
    obtain ⟨i, hi, rfl⟩ := (IsClause.mem_reads_iff (by rintro es ⟨⟩)).1 h
    exact ⟨[], _, i, .here (by rintro es ⟨⟩), hi, rfl⟩

lemma exists_clauseAt_of_mem_readsAll (es : List (Expr ω)) (i : Nat) {p : Place}
    (h : p ∈ readsAll i es) :
    ∃ j e q c k, es[j]? = some e ∧ e.ClauseAt q c ∧ c.Captures k ∧ p = (i + j) :: (q ++ [k]) := by
  cases es with
  | nil => simp [readsAll] at h
  | cons e es =>
    rw [readsAll, List.mem_append, List.mem_map] at h
    obtain ⟨_, hp, rfl⟩ | h := h
    · obtain ⟨q, c, k, hc, hk, rfl⟩ := exists_clauseAt_of_mem_reads e hp
      exact ⟨0, e, q, c, k, rfl, hc, hk, rfl⟩
    · obtain ⟨j, d, q, c, k, hj, hc, hk, rfl⟩ := exists_clauseAt_of_mem_readsAll es (i + 1) h
      exact ⟨j + 1, d, q, c, k, hj, hc, hk, by rw [Nat.add_right_comm, Nat.add_assoc]⟩

end

lemma ClauseAt.mem_reads (h : e.ClauseAt q c) (hi : c.Captures i) : q ++ [i] ∈ e.reads := by
  induction h with
  | here hclause => exact hclause.mem_reads_iff.2 ⟨i, hi, rfl⟩
  | within hj _ ih =>
    rw [reads, mem_readsAll_iff]
    exact ⟨_, _, _, hj, ih hi, by simp⟩

/-- The reads are the captured operands of the clauses. -/
lemma mem_reads_iff : p ∈ e.reads ↔ ∃ q c i, e.ClauseAt q c ∧ c.Captures i ∧ p = q ++ [i] := by
  constructor
  · exact exists_clauseAt_of_mem_reads e
  · rintro ⟨q, c, i, hc, hi, rfl⟩
    exact hc.mem_reads hi

mutual

lemma reads_pairwise (e : Expr ω) : e.reads.Pairwise (Place.before · · = true) := by
  cases e with
  | and es => exact readsAll_pairwise es 0
  | range field min max minInclusive maxInclusive =>
    obtain hmin | hmin := sideReads_cases min <;> obtain hmax | hmax := sideReads_cases max <;>
      simp [reads, hmin, hmax, Place.before]
  | term field value => cases value <;> simp [reads, operandReads]
  | _ => exact .nil

lemma readsAll_pairwise (es : List (Expr ω)) (i : Nat) :
    (readsAll i es).Pairwise (Place.before · · = true) := by
  cases es with
  | nil => exact .nil
  | cons e es =>
    rw [readsAll, List.pairwise_append]
    refine ⟨?_, readsAll_pairwise es (i + 1), ?_⟩
    · simpa only [List.pairwise_map, Place.before_cons_self] using reads_pairwise e
    · intro p hp q hq
      obtain ⟨_, -, rfl⟩ := List.mem_map.1 hp
      obtain ⟨j, _, _, -, -, rfl⟩ := mem_readsAll_iff.1 hq
      exact Place.before_cons_of_lt (by omega)

end

lemma reads_nodup (e : Expr ω) : e.reads.Nodup := by
  refine (reads_pairwise e).imp fun hbefore heq => ?_
  subst heq
  rw [Place.before_self] at hbefore
  cases hbefore

/-! ## Derivations are unique -/

lemma IsField.unique {f f' : MappedField} (h : e.IsField f) (h' : e.IsField f') : f = f' :=
  Except.ok.inj ((field_eq_ok_iff.2 h).symm.trans (field_eq_ok_iff.2 h'))

lemma Reads.unique {v v' : Operand} {s₁ s₂ : ω} (h : e.Reads s v s₁) (h' : e.Reads s v' s₂) :
    s₁ = s₂ := by
  have hsame := (operand_eq_ok_iff.2 h).symm.trans (operand_eq_ok_iff.2 h')
  exact (Prod.mk.inj hsame).2

lemma IsSide.unique {family : SemanticType} {s₁ s₂ : ω} (h : IsSide family side s s₁)
    (h' : IsSide family side s s₂) : s₁ = s₂ := by
  cases h with
  | absent => cases h' with
    | absent => rfl
  | null h | value h => cases h' with
    | null h' | value h' => exact h.unique h'

lemma DerivesAll.unique {s₁ s₂ : ω} (h : DerivesAll es s s₁) (h' : DerivesAll es s s₂) :
    s₁ = s₂ := by
  obtain ⟨qs, hqs⟩ := exists_mapM_iff.2 h
  obtain ⟨qs', hqs'⟩ := exists_mapM_iff.2 h'
  exact (Prod.mk.inj (hqs.symm.trans hqs')).2

/-- What stands in the middle is derived from what is left by all before it. -/
lemma DerivesAll.split {good rest : List (Expr ω)} (h : DerivesAll (good ++ e :: rest) s s') :
    ∃ s₁ s₂, DerivesAll good s s₁ ∧ e.Derives s₁ s₂ := by
  induction good generalizing s with
  | nil =>
    cases h with
    | cons he _ => exact ⟨s, _, .nil s, he⟩
  | cons d good ih =>
    cases h with
    | cons hd hrest =>
      obtain ⟨s₁, s₂, hgood, he⟩ := ih hrest
      exact ⟨s₁, s₂, .cons hd hgood, he⟩

lemma DerivesAll.exists_derives (h : DerivesAll es s s') (he : e ∈ es) :
    ∃ s₁ s₂, e.Derives s₁ s₂ := by
  obtain ⟨good, rest, rfl⟩ := List.append_of_mem he
  obtain ⟨s₁, s₂, -, he⟩ := h.split
  exact ⟨s₁, s₂, he⟩

/-- Nothing is derived through a clause that is not. -/
lemma DerivesAll.not_append {good rest : List (Expr ω)} {s₁ : ω} (h : DerivesAll good s s₁)
    (he : ∀ s', ¬ e.Derives s₁ s') : ¬ DerivesAll (good ++ e :: rest) s s' := by
  intro hall
  obtain ⟨s₂, s₃, hgood, hderives⟩ := hall.split
  obtain rfl := h.unique hgood
  exact he s₃ hderives

/-! ## Clauses without a field -/

lemma LacksField.isClause (h : c.LacksField) : c.IsClause := by
  cases h with
  | range => nofun
  | term => nofun

lemma LacksField.isComparison (h : c.LacksField) : c.IsComparison := by
  cases h with
  | range => exact .range ..
  | term => exact .term ..

lemma LacksField.not_derives (h : c.LacksField) : ¬ c.Derives s s' := by
  intro hderives
  cases h with
  | range h =>
    cases hderives with
    | range hm hnumeric =>
      rw [h _ hm] at hnumeric
      cases hnumeric
  | term h =>
    cases hderives with
    | term hm => exact h _ hm

/-- A clause without a field stops at the field. -/
lemma LacksField.stopsAt (h : e.LacksField) (hstops : e.StopsAt s p) : p = [0] := by
  cases hstops with
  | field => rfl
  | lower hm hnumeric | upper hm hnumeric =>
    cases h with
    | range h =>
      rw [h _ hm] at hnumeric
      cases hnumeric
  | value hm =>
    cases h with
    | term h => exact absurd hm (h _)
  | other _ hcomparison => exact absurd h.isComparison hcomparison
  | within => cases h

/-! ## The node at which a translation stops -/

lemma StopsAt.exists_within (h : (Expr.and es).StopsAt s p) :
    ∃ good bad rest s₁ q, es = good ++ bad :: rest ∧ DerivesAll good s s₁ ∧ bad.StopsAt s₁ q ∧
      p = good.length :: q := by
  cases h with
  | field h => cases h
  | other h => exact absurd rfl (h _)
  | within hgood hbad => exact ⟨_, _, _, _, _, rfl, hgood, hbad, rfl⟩

/-- A predicate with such a node is not derived. -/
lemma StopsAt.not_derives (h : e.StopsAt s p) : ¬ e.Derives s s' := by
  induction h generalizing s' with
  | field h => exact h.not_derives
  | lower hm _ hno =>
    rintro (⟨hm', -, hlower, -⟩)
    obtain rfl := hm.unique hm'
    exact hno _ hlower
  | upper hm _ hlower hno =>
    rintro (⟨hm', -, hlower', hupper⟩)
    obtain rfl := hm.unique hm'
    obtain rfl := hlower.unique hlower'
    exact hno _ hupper
  | value hm hno =>
    rintro (_ | ⟨hm', hreads, hsuits⟩)
    obtain rfl := hm.unique hm'
    exact hno _ _ hreads hsuits
  | other hclause hcomparison =>
    rintro (_ | _ | _)
    · exact hcomparison (.range ..)
    · exact hcomparison (.term ..)
    · exact hclause _ rfl
  | within hgood _ ih =>
    rintro (_ | _ | hall)
    exact hgood.not_append (fun _ => ih) hall

/-- There is one such node at most. -/
theorem StopsAt.unique (h : e.StopsAt s p) (h' : e.StopsAt s q) : p = q := by
  induction h generalizing q with
  | field h => exact (h.stopsAt h').symm
  | lower hm hnumeric hno =>
    cases h' with
    | field h => exact h.stopsAt (.lower hm hnumeric hno)
    | lower => rfl
    | upper hm' _ hlower =>
      obtain rfl := hm.unique hm'
      exact absurd hlower (hno _)
    | other _ hcomparison => exact absurd (.range ..) hcomparison
  | upper hm hnumeric hlower hno =>
    cases h' with
    | field h => exact h.stopsAt (.upper hm hnumeric hlower hno)
    | lower hm' _ hno' =>
      obtain rfl := hm.unique hm'
      exact absurd hlower (hno' _)
    | upper => rfl
    | other _ hcomparison => exact absurd (.range ..) hcomparison
  | value hm hno =>
    cases h' with
    | field h => exact h.stopsAt (.value hm hno)
    | value => rfl
    | other _ hcomparison => exact absurd (.term ..) hcomparison
  | other hclause hcomparison =>
    cases h' with
    | field h => exact absurd h.isComparison hcomparison
    | lower | upper => exact absurd (.range ..) hcomparison
    | value => exact absurd (.term ..) hcomparison
    | other => rfl
    | within => exact absurd rfl (hclause _)
  | @within good rest bad s s₁ p hgood hbad ih =>
    obtain ⟨good', bad', rest', s₂, q, hes, hgood', hbad', rfl⟩ := h'.exists_within
    -- The shorter of the two lists that are derived cannot go on in the longer one.
    obtain ⟨more, rfl, hrest⟩ | ⟨more, rfl, hrest⟩ := List.append_eq_append_iff.1 hes
    · cases more with
      | nil =>
        obtain ⟨rfl, -⟩ := List.cons.inj hrest
        rw [List.append_nil] at hgood'
        obtain rfl := hgood.unique hgood'
        rw [List.append_nil, ih hbad']
      | cons d more =>
        obtain ⟨rfl, -⟩ := List.cons.inj hrest
        exact absurd hgood' (hgood.not_append fun _ => hbad.not_derives)
    · cases more with
      | nil =>
        obtain ⟨rfl, -⟩ := List.cons.inj hrest
        rw [List.append_nil] at hgood
        obtain rfl := hgood.unique hgood'
        rw [List.append_nil, ih hbad']
      | cons d more =>
        obtain ⟨rfl, -⟩ := List.cons.inj hrest
        exact absurd hgood (hgood'.not_append fun _ => hbad'.not_derives)

/-- The clauses of a derived predicate are derived. -/
lemma ClauseAt.exists_derives (hc : e.ClauseAt q c) (h : e.Derives s s') :
    ∃ s₁ s₂, c.Derives s₁ s₂ := by
  induction hc generalizing s s' with
  | here _ => exact ⟨s, s', h⟩
  | within hi _ ih =>
    cases h with
    | and hes =>
      obtain ⟨s₁, s₂, he⟩ := hes.exists_derives (List.mem_of_getElem? hi)
      exact ih he

/-- Translation stops at a clause without a field, or further to the left, and so before all that
this clause might read. -/
lemma ClauseAt.before_of_lacksField (hc : e.ClauseAt q c) (hlacks : c.LacksField)
    (hstops : e.StopsAt s p) {r : Place} (hr : r ∈ e.reads) (hq : q <+: r) :
    p.before r = true := by
  induction hc generalizing s p r with
  | here hclause =>
    obtain ⟨i, hi, rfl⟩ := hclause.mem_reads_iff.1 hr
    obtain rfl := hlacks.stopsAt hstops
    cases hi <;> rfl
  | @within es i e c q hi hc ih =>
    obtain ⟨r, rfl⟩ : ∃ r', r = i :: r' := by
      obtain ⟨t, rfl⟩ := hq
      exact ⟨q ++ t, rfl⟩
    obtain ⟨good, bad, rest, s₁, p, rfl, hgood, hbad, rfl⟩ := hstops.exists_within
    rcases Nat.lt_trichotomy i good.length with h | rfl | h
    · -- The clauses before the one that stops are derived, this one is not.
      rw [List.getElem?_append_left h] at hi
      obtain ⟨s₁, s₂, he⟩ := hgood.exists_derives (List.mem_of_getElem? hi)
      obtain ⟨s₃, s₄, hderives⟩ := hc.exists_derives he
      exact absurd hderives hlacks.not_derives
    · obtain rfl : bad = e := by simpa using hi
      rw [reads, mem_readsAll_iff] at hr
      obtain ⟨j, d, r', hd, hr', heq⟩ := hr
      obtain ⟨rfl, rfl⟩ : good.length = j ∧ r = r' := by simpa using heq
      obtain rfl : bad = d := by simpa using hd
      rw [Place.before_cons_self]
      exact ih hlacks hbad hr' (List.cons_prefix_cons.1 hq).2
    · exact Place.before_cons_of_lt h

end Expr

end FieldSearch
