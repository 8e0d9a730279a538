import FieldSearch.Engine.Memory
import Mathlib.Tactic.Lemma

/-!
# Matching

What it means for a written document to match a query, read off the document itself. The terms of
an indexed document are collected when it is written; `satisfies_term_iff` says that a term query
finds the same fields without them. An intersection of queries is flattened when it is built, and
`satisfies_intersect` says that the flattening does not show.
-/

namespace FieldSearch

/-- A field that is matched by a term: as a whole, or by one of its words if it is analyzed. -/
def Field.HasTerm (f : Field) (term : String) : Prop :=
  f.option.indexed = true ∧ ∃ text, f.value = .string text ∧
    if f.option.analyzed then term ∈ analyze text else text = term

namespace IndexedDocument

variable {d : Document} {x : IndexedDocument}

/-! ## Leaves of a query -/

lemma mem_fieldTerms {f : Field} {name term : String} :
    (name, term) ∈ fieldTerms f ↔
      f.name = name ∧ f.option.analyzed = true ∧ f.HasTerm term := by
  obtain ⟨fname, value, indexed, stored, analyzed⟩ := f
  cases value with
  | string text =>
    have hmem : (name, term) ∈ (analyze text).map (fname, ·) ↔
        fname = name ∧ term ∈ analyze text := by
      simp only [List.mem_map, Prod.mk.injEq]
      constructor
      · rintro ⟨word, hword, hname, rfl⟩
        exact ⟨hname, hword⟩
      · rintro ⟨hname, hword⟩
        exact ⟨term, hword, hname, rfl⟩
    cases indexed <;> cases analyzed <;> simp [fieldTerms, Field.HasTerm, hmem]
  | long _ | float _ | double _ => simp [fieldTerms, Field.HasTerm]

lemma hasTerm_of_exact {f : Field} (h : f.option.analyzed = false) {term : String} :
    f.HasTerm term ↔ f.option.indexed = true ∧ f.value.string? = some term := by
  obtain ⟨name, value, option⟩ := f
  cases value <;> simp_all [Field.HasTerm, FieldValue.string?]

lemma satisfies_term_iff {name term : String} :
    (ofDocument d).satisfies (.term name term) = true ↔
      ∃ f ∈ d.fields, f.name = name ∧ f.HasTerm term := by
  simp only [satisfies, ofDocument, Document.fieldsOf, Bool.or_eq_true, List.any_eq_true,
    List.mem_filter, decide_eq_true_eq, Bool.and_eq_true, Bool.not_eq_true',
    List.contains_iff_mem, List.mem_flatMap, mem_fieldTerms]
  constructor
  · rintro (⟨f, ⟨hf, hname⟩, ⟨hindexed, hexact⟩, hterm⟩ | ⟨f, hf, hname, -, hterm⟩)
    · exact ⟨f, hf, hname, (hasTerm_of_exact hexact).2 ⟨hindexed, hterm⟩⟩
    · exact ⟨f, hf, hname, hterm⟩
  · rintro ⟨f, hf, hname, hterm⟩
    cases hanalyzed : f.option.analyzed with
    | false =>
      obtain ⟨hindexed, hvalue⟩ := (hasTerm_of_exact hanalyzed).1 hterm
      exact .inl ⟨f, ⟨hf, hname⟩, ⟨hindexed, hanalyzed⟩, hvalue⟩
    | true => exact .inr ⟨f, hf, hname, hanalyzed, hterm⟩

lemma satisfies_range_iff {r : NumericRange} :
    (ofDocument d).satisfies (.range r) = true ↔
      ∃ f ∈ d.fields, f.name = r.field ∧ f.option.indexed = true ∧ r.contains f.value = true := by
  simp only [satisfies, ofDocument, Document.fieldsOf, List.any_eq_true, List.mem_filter,
    decide_eq_true_eq, Bool.and_eq_true, and_assoc]

/-! ## Intersections -/

lemma satisfiesAll_iff {qs : List Query} :
    x.satisfiesAll qs = true ↔ ∀ q ∈ qs, x.satisfies q = true := by
  induction qs with
  | nil => simp [satisfiesAll]
  | cons q qs ih => simp [satisfiesAll, ih]

lemma satisfies_ofClauses {qs : List Query} :
    x.satisfies (.ofClauses qs) = true ↔ ∀ q ∈ qs, x.satisfies q = true := by
  match qs with
  | [] => simp [Query.ofClauses, satisfies]
  | [q] => simp [Query.ofClauses]
  | q :: r :: qs => simp only [Query.ofClauses, satisfies, satisfiesAll_iff]

lemma satisfies_iff_clauses {q : Query} :
    x.satisfies q = true ↔ ∀ r ∈ q.clauses, x.satisfies r = true := by
  cases q with
  | all => simp [Query.clauses, satisfies]
  | term name t => simp [Query.clauses]
  | range r => simp [Query.clauses]
  | intersection qs => simp only [Query.clauses, satisfies, satisfiesAll_iff]

lemma satisfies_intersect {p q : Query} :
    x.satisfies (p.intersect q) = true ↔ x.satisfies p = true ∧ x.satisfies q = true := by
  rw [Query.intersect, satisfies_ofClauses, List.forall_mem_append, ← satisfies_iff_clauses,
    ← satisfies_iff_clauses]

end IndexedDocument

end FieldSearch
