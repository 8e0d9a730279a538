import FieldSearch.Proofs.Engine.Matching
import FieldSearch.Proofs.Query.Translation

/-!
# Normal form of conjunctions

However its conjunctions are nested, an expression is a list of clauses that are no conjunctions,
its leaves. `Expr.translate_eq` says that translation works through this list and sees nothing of
the nesting: the query is everything, one leaf's query, or one intersection of the queries of all
leaves in order.

The fold of `Expr.translateAll` keeps the query of the clauses so far in this form. That is an
invariant of queries, `Query.IsNormal`, and on such queries `Query.intersect` is the concatenation
of lists of clauses.
-/

namespace FieldSearch

/-! ## Queries in normal form -/

namespace Query

/-- A query without clauses of its own. -/
inductive IsLeaf : Query → Prop
  | term (field term : String) : IsLeaf (.term field term)
  | range (r : NumericRange) : IsLeaf (.range r)

/-- Everything, a leaf, or a flat intersection of two leaves at least. -/
inductive IsNormal : Query → Prop
  | all : IsNormal .all
  | leaf {q : Query} : q.IsLeaf → IsNormal q
  | intersection {qs : List Query} :
      2 ≤ qs.length → (∀ q ∈ qs, q.IsLeaf) → IsNormal (.intersection qs)

variable {p q r : Query} {ps qs : List Query}

lemma IsLeaf.clauses (h : q.IsLeaf) : q.clauses = [q] := by
  cases h <;> rfl

lemma ofClauses_eq_intersection (h : 2 ≤ qs.length) : ofClauses qs = intersection qs := by
  match qs, h with
  | _ :: _ :: _, _ => rfl

lemma clauses_ofClauses (h : ∀ q ∈ qs, q.IsLeaf) : (ofClauses qs).clauses = qs := by
  match qs with
  | [] => rfl
  | [q] => exact (h q (List.mem_singleton_self q)).clauses
  | _ :: _ :: _ => rfl

lemma isNormal_ofClauses (h : ∀ q ∈ qs, q.IsLeaf) : (ofClauses qs).IsNormal := by
  match qs with
  | [] => exact .all
  | [q] => exact .leaf (h q (List.mem_singleton_self q))
  | _ :: _ :: _ => exact .intersection (by simp) h

lemma IsNormal.exists_clauses (h : q.IsNormal) :
    ∃ qs, (∀ r ∈ qs, r.IsLeaf) ∧ q = ofClauses qs := by
  cases h with
  | all => exact ⟨[], by simp, rfl⟩
  | leaf h => exact ⟨[q], by simpa using h, rfl⟩
  | intersection hlength h => exact ⟨_, h, (ofClauses_eq_intersection hlength).symm⟩

/-- In normal form, queries intersect as the lists of their clauses concatenate. -/
lemma intersect_ofClauses (hps : ∀ p ∈ ps, p.IsLeaf) (hqs : ∀ q ∈ qs, q.IsLeaf) :
    (ofClauses ps).intersect (ofClauses qs) = ofClauses (ps ++ qs) := by
  rw [intersect, clauses_ofClauses hps, clauses_ofClauses hqs]

namespace IsNormal

lemma all_intersect (h : q.IsNormal) : Query.all.intersect q = q := by
  obtain ⟨qs, hqs, rfl⟩ := h.exists_clauses
  calc (ofClauses []).intersect (ofClauses qs)
    _ = ofClauses ([] ++ qs) := intersect_ofClauses (by simp) hqs
    _ = ofClauses qs := by rw [List.nil_append]

lemma intersect_all (h : q.IsNormal) : q.intersect .all = q := by
  obtain ⟨qs, hqs, rfl⟩ := h.exists_clauses
  calc (ofClauses qs).intersect (ofClauses [])
    _ = ofClauses (qs ++ []) := intersect_ofClauses hqs (by simp)
    _ = ofClauses qs := by rw [List.append_nil]

lemma intersect (hp : p.IsNormal) (hq : q.IsNormal) : (p.intersect q).IsNormal := by
  obtain ⟨ps, hps, rfl⟩ := hp.exists_clauses
  obtain ⟨qs, hqs, rfl⟩ := hq.exists_clauses
  rw [intersect_ofClauses hps hqs]
  exact isNormal_ofClauses (List.forall_mem_append.2 ⟨hps, hqs⟩)

lemma intersect_assoc (hp : p.IsNormal) (hq : q.IsNormal) (hr : r.IsNormal) :
    (p.intersect q).intersect r = p.intersect (q.intersect r) := by
  obtain ⟨ps, hps, rfl⟩ := hp.exists_clauses
  obtain ⟨qs, hqs, rfl⟩ := hq.exists_clauses
  obtain ⟨rs, hrs, rfl⟩ := hr.exists_clauses
  rw [intersect_ofClauses hps hqs, intersect_ofClauses hqs hrs,
    intersect_ofClauses (List.forall_mem_append.2 ⟨hps, hqs⟩) hrs,
    intersect_ofClauses hps (List.forall_mem_append.2 ⟨hqs, hrs⟩), List.append_assoc]

end IsNormal

end Query

/-! ## Steps of a translation, successful or not -/

namespace Translation

variable {ω α β : Type} {s s' : ω}

/-- What follows a step matters only for what the step can give. -/
lemma bind_congr_of_ok {x : Translation ω α} {f g : α → Translation ω β}
    (h : ∀ a s₁, x s = (.ok a, s₁) → f a s₁ = g a s₁) : (x >>= f) s = (x >>= g) s := by
  simp only [bind, ExceptT.bind, ExceptT.mk, StateT.bind]
  cases hx : x s with
  | mk r s₁ =>
    cases r with
    | error e => rfl
    | ok a => exact h a s₁ hx

/-- A list that is gone through without an error gives a result for each element. -/
lemma mapM_eq_ok {f : α → Translation ω β} {P : α → Prop} {Q : β → Prop} {as : List α}
    {bs : List β} (hf : ∀ a ∈ as, ∀ s b s', f a s = (.ok b, s') → P a ∧ Q b)
    (h : as.mapM f s = (.ok bs, s')) :
    bs.length = as.length ∧ (∀ a ∈ as, P a) ∧ ∀ b ∈ bs, Q b := by
  induction as generalizing bs s with
  | nil =>
    obtain ⟨rfl, -⟩ := pure_eq_ok.1 (List.mapM_nil (f := f) ▸ h)
    simp
  | cons a as ih =>
    rw [List.mapM_cons] at h
    obtain ⟨b, s₁, hb, h⟩ := bind_eq_ok.1 h
    obtain ⟨cs, s₂, hcs, h⟩ := bind_eq_ok.1 h
    obtain ⟨rfl, rfl⟩ := pure_eq_ok.1 h
    obtain ⟨hP, hQ⟩ := hf a List.mem_cons_self _ _ _ hb
    obtain ⟨hlength, hPs, hQs⟩ := ih (fun a ha => hf a (List.mem_cons_of_mem _ ha)) hcs
    exact ⟨congrArg Nat.succ hlength, List.forall_mem_cons.2 ⟨hP, hPs⟩,
      List.forall_mem_cons.2 ⟨hQ, hQs⟩⟩

/-- Going through a list ends at the first element with an error. -/
lemma exists_of_mapM_eq_error {f : α → Translation ω β} {as : List α} {err : Error}
    (h : as.mapM f s = (.error err, s')) :
    ∃ good bad rest bs s₁, as = good ++ bad :: rest ∧ good.mapM f s = (.ok bs, s₁) ∧
      f bad s₁ = (.error err, s') := by
  induction as generalizing s with
  | nil => exact absurd (List.mapM_nil (f := f) ▸ h) pure_ne_error
  | cons a as ih =>
    rw [List.mapM_cons] at h
    obtain ha | ⟨b, s₀, hb, h⟩ := bind_eq_error.1 h
    · exact ⟨[], a, as, [], s, rfl, rfl, ha⟩
    obtain htail | ⟨cs, s₁, -, h⟩ := bind_eq_error.1 h
    · obtain ⟨good, bad, rest, bs, s₁, rfl, hgood, hbad⟩ := ih htail
      refine ⟨a :: good, bad, rest, b :: bs, s₁, rfl, ?_, hbad⟩
      rw [List.mapM_cons, bind_of_ok hb, bind_of_ok hgood]
      rfl
    · exact absurd h pure_ne_error

/-- What comes behind the first element with an error does not matter. -/
lemma mapM_eq_error {f : α → Translation ω β} {good : List α} {bad : α} {bs : List β} {s₁ : ω}
    {err : Error} (hgood : good.mapM f s = (.ok bs, s₁)) (hbad : f bad s₁ = (.error err, s'))
    (rest : List α) : (good ++ bad :: rest).mapM f s = (.error err, s') := by
  rw [List.mapM_append, bind_of_ok hgood, List.mapM_cons]
  exact bind_of_error (bind_of_error hbad)

end Translation

/-! ## Leaves of an expression -/

namespace Expr

variable {ω : Type}

mutual

/-- The clauses of an expression that are no conjunctions, from left to right. -/
def leaves : Expr ω → List (Expr ω)
  | and es => leavesAll es
  | e => [e]

/-- The leaves of expressions one after the other. -/
def leavesAll : List (Expr ω) → List (Expr ω)
  | [] => []
  | e :: es => e.leaves ++ leavesAll es

end

/-- A predicate that compares a property: a range or a term. -/
inductive IsComparison : Expr ω → Prop
  | range (field : Expr ω) (min max : Option (Expr ω)) (minInclusive maxInclusive : Bool) :
      IsComparison (.range field min max minInclusive maxInclusive)
  | term (field value : Expr ω) : IsComparison (.term field value)

/-- Any other expression than a conjunction. -/
def IsClause (e : Expr ω) : Prop := ∀ es, e ≠ and es

variable {d e : Expr ω} {es : List (Expr ω)} {s s' : ω} {q : Query} {qs : List Query}

lemma IsClause.leaves (h : e.IsClause) : e.leaves = [e] := by
  rw [Expr.leaves]
  exact h

mutual

lemma isClause_of_mem_leaves (e : Expr ω) : ∀ l ∈ e.leaves, l.IsClause := by
  cases e with
  | and es =>
    rw [leaves]
    exact isClause_of_mem_leavesAll es
  | _ =>
    simp only [leaves, List.forall_mem_singleton]
    rintro es ⟨⟩

lemma isClause_of_mem_leavesAll (es : List (Expr ω)) : ∀ l ∈ leavesAll es, l.IsClause := by
  cases es with
  | nil => simp [leavesAll]
  | cons e es =>
    rw [leavesAll, List.forall_mem_append]
    exact ⟨isClause_of_mem_leaves e, isClause_of_mem_leavesAll es⟩

end

lemma leavesAll_append (es fs : List (Expr ω)) :
    leavesAll (es ++ fs) = leavesAll es ++ leavesAll fs := by
  induction es with
  | nil => rw [leavesAll, List.nil_append, List.nil_append]
  | cons e es ih => rw [List.cons_append, leavesAll, leavesAll, ih, List.append_assoc]

lemma leavesAll_singleton (e : Expr ω) : leavesAll [e] = e.leaves := by
  rw [leavesAll, leavesAll, List.append_nil]

lemma leaves_conj (d e : Expr ω) : (d.conj e).leaves = d.leaves ++ e.leaves := by
  cases d with
  | and es => rw [conj, leaves, leavesAll_append, leavesAll_singleton, leaves]
  | _ => simp only [conj, leaves, leavesAll, List.append_nil]

/-! ## Regrouping -/

/-- Two expressions that differ in how conjunctions group their clauses: a conjunction among the
clauses of another one may be opened, and one clause needs no conjunction. -/
inductive Regroups : Expr ω → Expr ω → Prop
  | splice (es fs gs : List (Expr ω)) : Regroups (and (es ++ and fs :: gs)) (and (es ++ fs ++ gs))
  | single (e : Expr ω) : Regroups (and [e]) e
  | clause {d e : Expr ω} (es gs : List (Expr ω)) :
      Regroups d e → Regroups (and (es ++ d :: gs)) (and (es ++ e :: gs))
  | refl (e : Expr ω) : Regroups e e
  | symm {d e : Expr ω} : Regroups d e → Regroups e d
  | trans {c d e : Expr ω} : Regroups c d → Regroups d e → Regroups c e

lemma Regroups.leaves_eq (h : d.Regroups e) : d.leaves = e.leaves := by
  induction h with
  | splice es fs gs => simp only [leaves, leavesAll_append, leavesAll, List.append_assoc]
  | single e => rw [leaves, leavesAll_singleton]
  | clause es gs _ ih => simp only [leaves, leavesAll_append, leavesAll, ih]
  | refl => rfl
  | symm _ ih => exact ih.symm
  | trans _ _ hcd hde => exact hcd.trans hde

mutual

/-- Every expression regroups to the one conjunction of its leaves. -/
lemma regroups_leaves (e : Expr ω) : e.Regroups (and e.leaves) := by
  cases e with
  | and es =>
    rw [leaves]
    exact regroups_leavesAll [] es
  | _ =>
    simp only [leaves]
    exact .symm (.single _)

lemma regroups_leavesAll (ds es : List (Expr ω)) :
    (and (ds ++ es)).Regroups (and (ds ++ leavesAll es)) := by
  cases es with
  | nil => exact .refl _
  | cons e es =>
    -- The first clause is regrouped where it stands and opened; what is before it only grows.
    have hhead : (and (ds ++ e :: es)).Regroups (and (ds ++ e.leaves ++ es)) :=
      .trans (.clause ds es (regroups_leaves e)) (.splice ds e.leaves es)
    have htail := regroups_leavesAll (ds ++ e.leaves) es
    rw [leavesAll, ← List.append_assoc]
    exact .trans hhead htail

end

/-- The leaves are all that regrouping keeps. -/
theorem regroups_iff : d.Regroups e ↔ d.leaves = e.leaves := by
  constructor
  · exact Regroups.leaves_eq
  · intro h
    have he := (regroups_leaves e).symm
    rw [← h] at he
    exact (regroups_leaves d).trans he

/-! ## The query of the leaves -/

/-- A clause that translates is a comparison, and its query has no clauses of its own. -/
lemma IsClause.comparison_of_translate (hclause : e.IsClause) (h : e.translate s = (.ok q, s')) :
    e.IsComparison ∧ q.IsLeaf := by
  cases e with
  | and es => exact absurd rfl (hclause es)
  | range field min max minInclusive maxInclusive =>
    rw [translate] at h
    obtain ⟨f, lo, hi, s₁, -, -, -, rfl⟩ := rangeQuery_eq_ok h
    exact ⟨.range .., .range _⟩
  | term field value =>
    rw [translate] at h
    obtain ⟨f, v, -, -, hq⟩ := termQuery_eq_ok h
    refine ⟨.term .., ?_⟩
    unfold MappedField.termQuery at hq
    split at hq
    · split at hq
      · obtain rfl := Except.ok.inj hq
        exact .term ..
      · cases hq
      · cases hq
    · split at hq
      · cases hq
      · obtain rfl := Except.ok.inj hq
        exact .range _
      · cases hq
  | _ =>
    simp only [translate] at h
    exact absurd h Translation.throw_ne_ok

/-- The leaves of an expression that translate are comparisons, each with a query that is a
leaf. -/
lemma leaves_mapM_eq_ok (h : e.leaves.mapM translate s = (.ok qs, s')) :
    qs.length = e.leaves.length ∧ (∀ l ∈ e.leaves, l.IsComparison) ∧ ∀ q ∈ qs, q.IsLeaf :=
  Translation.mapM_eq_ok
    (fun l hl _ _ _ hq => (isClause_of_mem_leaves e l hl).comparison_of_translate hq) h

lemma isLeaf_of_leaves (h : e.leaves.mapM translate s = (.ok qs, s')) : ∀ q ∈ qs, q.IsLeaf :=
  (leaves_mapM_eq_ok h).2.2

lemma IsClause.translate_eq (h : e.IsClause) :
    e.translate = Query.ofClauses <$> e.leaves.mapM translate := by
  simp [h.leaves, Query.ofClauses]

mutual

/-- Translation sees the leaves of an expression, and nothing of how conjunctions group them. -/
theorem translate_eq (e : Expr ω) : e.translate = Query.ofClauses <$> e.leaves.mapM translate := by
  cases e with
  | and es =>
    rw [translate, leaves]
    -- The fold starts from everything, which is the query of no clauses.
    exact translateAll_eq es [] (by simp)
  | _ => exact IsClause.translate_eq (by rintro es ⟨⟩)

/-- The clauses so far are leaves, and stay so as those of a further expression are added. -/
theorem translateAll_eq (es : List (Expr ω)) (qs : List Query) (hqs : ∀ q ∈ qs, q.IsLeaf) :
    translateAll (.ofClauses qs) es =
      (fun rs => Query.ofClauses (qs ++ rs)) <$> (leavesAll es).mapM translate := by
  cases es with
  | nil => simp [translateAll, leavesAll]
  | cons e es =>
    funext s
    calc translateAll (.ofClauses qs) (e :: es) s
      _ = (e.leaves.mapM translate >>= fun rs =>
            translateAll ((Query.ofClauses qs).intersect (.ofClauses rs)) es) s := by
          rw [translateAll, translate_eq e, bind_map_left]
      _ = (e.leaves.mapM translate >>= fun rs =>
            (fun ts => Query.ofClauses (qs ++ rs ++ ts)) <$> (leavesAll es).mapM translate) s := by
          refine Translation.bind_congr_of_ok fun rs s₁ hrs => ?_
          have hrs := isLeaf_of_leaves hrs
          rw [Query.intersect_ofClauses hqs hrs,
            translateAll_eq es (qs ++ rs) (List.forall_mem_append.2 ⟨hqs, hrs⟩)]
      _ = ((fun rs => Query.ofClauses (qs ++ rs)) <$>
            (leavesAll (e :: es)).mapM translate) s := by
          simp only [leavesAll, List.mapM_append, map_eq_pure_bind, bind_assoc, pure_bind,
            List.append_assoc]

end

lemma translate_eq_ok :
    e.translate s = (.ok q, s') ↔
      ∃ qs, e.leaves.mapM translate s = (.ok qs, s') ∧ q = .ofClauses qs := by
  rw [translate_eq, Translation.map_eq_ok]

lemma translate_eq_error {err : Error} :
    e.translate s = (.error err, s') ↔ e.leaves.mapM translate s = (.error err, s') := by
  rw [translate_eq, Translation.map_eq_error]

theorem translate_conj (d e : Expr ω) :
    (d.conj e).translate = do
      let p ← d.translate
      let q ← e.translate
      return p.intersect q := by
  funext s
  simp only [translate_eq, leaves_conj, List.mapM_append, map_eq_pure_bind, bind_assoc,
    pure_bind]
  refine Translation.bind_congr_of_ok fun ps s₁ hps => ?_
  refine Translation.bind_congr_of_ok fun qs s₂ hqs => ?_
  rw [Query.intersect_ofClauses (isLeaf_of_leaves hps) (isLeaf_of_leaves hqs)]

/-- The query of an expression is everything if the expression has no leaves, the query of its
leaf if it has one, and one flat intersection of the queries of its leaves otherwise. So it is the
same however the conjunctions are grouped, and the conjunction of two predicates has the
intersection of their queries, the second read after the first.

Among such queries intersection is associative and everything is its identity; for any two
queries it is what a document matches if it matches both. -/
theorem translate_conjunctions :
    (∀ (e : Expr ω) (s s' : ω) (q : Query), e.translate s = (.ok q, s') →
      (∀ l ∈ e.leaves, l.IsComparison) ∧ q.IsNormal ∧
      (e.leaves = [] → q = .all) ∧
      (∀ l, e.leaves = [l] → l.translate s = (.ok q, s')) ∧
      (2 ≤ e.leaves.length → ∃ qs, e.leaves.mapM translate s = (.ok qs, s') ∧
        qs.length = e.leaves.length ∧ (∀ r ∈ qs, r.IsLeaf) ∧ q = .intersection qs)) ∧
    (∀ d e : Expr ω, d.Regroups e → d.translate = e.translate) ∧
    (∀ d e : Expr ω, (d.conj e).translate = do
      let p ← d.translate
      let q ← e.translate
      return p.intersect q) ∧
    (∀ p q r : Query, p.IsNormal → q.IsNormal → r.IsNormal →
      (p.intersect q).IsNormal ∧
      (p.intersect q).intersect r = p.intersect (q.intersect r) ∧
      Query.all.intersect p = p ∧ p.intersect .all = p) ∧
    ∀ (p q : Query) (x : IndexedDocument),
      x.satisfies (p.intersect q) = true ↔ x.satisfies p = true ∧ x.satisfies q = true := by
  refine ⟨?_, ?_, translate_conj, ?_, fun p q x => IndexedDocument.satisfies_intersect⟩
  · intro e s s' q h
    obtain ⟨qs, hqs, rfl⟩ := translate_eq_ok.1 h
    obtain ⟨hlength, hcomparison, hleaf⟩ := leaves_mapM_eq_ok hqs
    refine ⟨hcomparison, Query.isNormal_ofClauses hleaf, ?_, ?_, ?_⟩
    · intro hnil
      rw [hnil, List.length_nil] at hlength
      rw [List.length_eq_zero_iff.1 hlength, Query.ofClauses]
    · intro l hl
      have hclause := isClause_of_mem_leaves e l (by simp [hl])
      rw [translate_eq_ok, hclause.leaves, ← hl]
      exact ⟨qs, hqs, rfl⟩
    · intro htwo
      exact ⟨qs, hqs, hlength, hleaf, Query.ofClauses_eq_intersection (hlength ▸ htwo)⟩
  · intro d e h
    rw [translate_eq, translate_eq, h.leaves_eq]
  · intro p q r hp hq hr
    exact ⟨hp.intersect hq, hp.intersect_assoc hq hr, hp.all_intersect, hp.intersect_all⟩

/-- Notes with a word in a tag and a number from five on, with more conjunctions than needed. -/
def groupedNote : Expr Unit :=
  and [and [],
    (Property.ofName "tags" (.sequence (.leaf .string))).term (.constant (.string "fox")),
    and [(Property.ofName "id" (.leaf .integer)).atLeast (.constant (.long 5))]]

/-- The query of the two clauses of `groupedNote`. -/
def groupedNoteQuery : Query :=
  .intersection [.term "tags" "fox", .range ⟨"id", .long, some (.long 5), none, true, false⟩]

theorem translate_conjunctions_note :
    groupedNote.translate () = (.ok groupedNoteQuery, ()) ∧ 2 ≤ groupedNote.leaves.length ∧
      (∃ qs, groupedNote.leaves.mapM translate () = (.ok qs, ()) ∧ qs.length = 2 ∧
        (∀ r ∈ qs, r.IsLeaf) ∧ groupedNoteQuery = .intersection qs) ∧
      groupedNote.Regroups (and groupedNote.leaves) ∧
      groupedNote.translate = (and groupedNote.leaves).translate ∧
      groupedNoteQuery.IsNormal ∧ Query.all.intersect groupedNoteQuery = groupedNoteQuery := by
  have htranslate : groupedNote.translate () = (.ok groupedNoteQuery, ()) := rfl
  have htwo : 2 ≤ groupedNote.leaves.length := Nat.le_refl 2
  have hregroups := regroups_leaves groupedNote
  obtain ⟨hquery, hgroup, -, hnormal, -⟩ := translate_conjunctions (ω := Unit)
  obtain ⟨-, hq, -, -, hmany⟩ := hquery _ _ _ _ htranslate
  obtain ⟨-, -, hall, -⟩ := hnormal _ _ _ hq hq hq
  exact ⟨htranslate, htwo, hmany htwo, hregroups, hgroup _ _ hregroups, hq, hall⟩

end Expr

end FieldSearch
