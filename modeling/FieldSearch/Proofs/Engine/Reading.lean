import FieldSearch.Proofs.Engine.Matching

/-!
# Reading a query off a document

When a document is written, the words of its analyzed fields are taken apart from it and kept under
the names of the fields. A term is looked up there, and besides in the fields that are matched as a
whole. `Document.Meets` reads a query off the document alone and knows nothing of that: a term asks
for one field that has it, in the way that the flags of this field say, a range for one field with
a number inside it, and an intersection for all of its clauses. A document that has fields of one
name with different flags and kinds of values is read field by field.

Main statement: `IndexedDocument.satisfies_iff_meets`.
-/

namespace FieldSearch

/-! ## Ranges -/

/-- A value is a number that lies in a range. It is on the inner side of the bounds that there are,
or equal to one that belongs to the range; NaN and text are on no side of a bound. -/
structure NumericRange.Spans (r : NumericRange) (v : FieldValue) : Prop where
  number : v.semanticType.isNumeric = true
  above : ∀ b ∈ r.min,
    b.compare? v = some .gt ∨ b.compare? v = some .eq ∧ r.minInclusive = true
  below : ∀ b ∈ r.max,
    b.compare? v = some .lt ∨ b.compare? v = some .eq ∧ r.maxInclusive = true

namespace NumericRange

variable {r : NumericRange} {v : FieldValue}

/-- Only numbers compare with a bound. -/
lemma isNumeric_of_compare {b : NumericValue} {o : Ordering} (h : b.compare? v = some o) :
    v.semanticType.isNumeric = true := by
  cases v with
  | string s => cases b <;> cases h
  | long _ | float _ | double _ => rfl

lemma aboveMin_iff : r.aboveMin v = true ↔ v.semanticType.isNumeric = true ∧ ∀ b ∈ r.min,
    b.compare? v = some .gt ∨ b.compare? v = some .eq ∧ r.minInclusive = true := by
  unfold aboveMin
  cases r.min with
  | none => simp
  | some b =>
    cases hb : b.compare? v with
    | none => simp [hb]
    | some o =>
      have hnumber := isNumeric_of_compare hb
      cases o <;> simp [hb, hnumber]

lemma belowMax_iff : r.belowMax v = true ↔ v.semanticType.isNumeric = true ∧ ∀ b ∈ r.max,
    b.compare? v = some .lt ∨ b.compare? v = some .eq ∧ r.maxInclusive = true := by
  unfold belowMax
  cases r.max with
  | none => simp
  | some b =>
    cases hb : b.compare? v with
    | none => simp [hb]
    | some o =>
      have hnumber := isNumeric_of_compare hb
      cases o <;> simp [hb, hnumber]

lemma contains_iff_spans : r.contains v = true ↔ r.Spans v := by
  rw [contains, Bool.and_eq_true, aboveMin_iff, belowMax_iff]
  constructor
  · rintro ⟨⟨hnumber, habove⟩, -, hbelow⟩
    exact ⟨hnumber, habove, hbelow⟩
  · rintro ⟨hnumber, habove, hbelow⟩
    exact ⟨⟨hnumber, habove⟩, hnumber, hbelow⟩

end NumericRange

/-! ## Queries -/

/-- A document meets a query, by the fields that it has. -/
inductive Document.Meets (d : Document) : Query → Prop
  | all : d.Meets .all
  | term {f : Field} {t : String} : f ∈ d.fields → f.HasTerm t → d.Meets (.term f.name t)
  | range {f : Field} {r : NumericRange} : f ∈ d.fields → f.name = r.field →
      f.option.indexed = true → r.Spans f.value → d.Meets (.range r)
  | intersection {qs : List Query} : (∀ q ∈ qs, d.Meets q) → d.Meets (.intersection qs)

namespace IndexedDocument

variable {d : Document} {q : Query}

/-- What a document meets is found with the words collected from all of its fields. -/
lemma satisfies_of_meets (h : d.Meets q) : (ofDocument d).satisfies q = true := by
  induction h with
  | all => simp only [satisfies]
  | @term f t hf hterm => exact satisfies_term_iff.2 ⟨f, hf, rfl, hterm⟩
  | @range f r hf hname hindexed hspans =>
    exact satisfies_range_iff.2
      ⟨f, hf, hname, hindexed, NumericRange.contains_iff_spans.2 hspans⟩
  | intersection _ ih =>
    rw [satisfies, satisfiesAll_iff]
    exact ih

/-- What is found goes back to fields of the document. -/
lemma meets_of_satisfies {q : Query} (h : (ofDocument d).satisfies q = true) : d.Meets q := by
  cases q with
  | all => exact .all
  | term name t =>
    obtain ⟨f, hf, rfl, hterm⟩ := satisfies_term_iff.1 h
    exact .term hf hterm
  | range r =>
    obtain ⟨f, hf, hname, hindexed, hcontains⟩ := satisfies_range_iff.1 h
    exact .range hf hname hindexed (NumericRange.contains_iff_spans.1 hcontains)
  | intersection qs =>
    rw [satisfies, satisfiesAll_iff] at h
    exact .intersection fun q hq => meets_of_satisfies (h q hq)

/-- **Matching is reading.** A document with its terms satisfies a query exactly if the document
alone meets it, whatever the names, flags and values of its fields are and however the query is
nested. -/
theorem satisfies_iff_meets (d : Document) (q : Query) :
    (ofDocument d).satisfies q = true ↔ d.Meets q :=
  ⟨meets_of_satisfies, satisfies_of_meets⟩

/-- Of three fields of one name the first is matched by its words, the second as a whole, and the
third by nothing: no term is found in a field that has other flags. -/
example :
    let d : Document := ((Document.empty.addText "tag" "Red Fox").addString "tag" "Grey Wolf")
      |>.addField "tag" (.string "owl") .storedOnly
    ["fox", "Red Fox", "Grey Wolf", "wolf", "owl"].map (fun t =>
      (ofDocument d).satisfies (.term "tag" t)) = [true, false, true, false, false] := by
  decide +kernel

end IndexedDocument

end FieldSearch
