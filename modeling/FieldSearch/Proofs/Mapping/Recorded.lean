import FieldSearch.Proofs.Engine.Matching
import FieldSearch.Proofs.Mapping.Envelope
import FieldSearch.Proofs.Mapping.Nesting

/-!
# Recorded types

A document records two identities, and a type filter asks for one of them. Whatever an object
holds, none of its fields has the name of an envelope field, so the only field a type filter can
match is the one that the envelope added: it is matched as a whole, and so by its own identity
alone.

`FieldMapper.Maps` relates an object to its documents under given identities, one for each time it
may be written; `FieldMapper.Writes` forgets the object.
-/

namespace FieldSearch

namespace Envelope

variable {types : RecordedTypes} {payload : Option String} {stamp : Int64} {P : Field → Prop}

lemma exists_added_actual_iff :
    (∃ f ∈ added types payload stamp, f.name = actualTypeField ∧ P f) ↔
      P ⟨actualTypeField, .string types.actual.text, FieldOption.exact.withStored true⟩ := by
  simp [added, actualTypeField, declaredTypeField, sourceField, timestampField]

lemma exists_added_declared_iff :
    (∃ f ∈ added types payload stamp, f.name = declaredTypeField ∧ P f) ↔
      P ⟨declaredTypeField, .string types.declared.text, FieldOption.exact.withStored true⟩ := by
  simp [added, actualTypeField, declaredTypeField, sourceField, timestampField]

/-- The field of an identity is matched by that identity and by no other text. -/
lemma hasTerm_identity {name : String} {s t : TypeIdentity} :
    (Field.mk name (.string s.text) (FieldOption.exact.withStored true)).HasTerm t.text ↔
      s = t := by
  have hexact : (FieldOption.exact.withStored true).analyzed = false := rfl
  have hindexed : (FieldOption.exact.withStored true).indexed = true := rfl
  have htext : s.text = t.text ↔ s = t := by
    cases s
    cases t
    simp
  rw [IndexedDocument.hasTerm_of_exact hexact, ← htext]
  simp only [hindexed, FieldValue.string?, true_and, Option.some.injEq]

end Envelope

/-- The document of an object under recorded types, at some time. -/
def FieldMapper.Maps (m : FieldMapper) (types : RecordedTypes) (v : Value) (d : Document) : Prop :=
  ∃ clock, (m.toDocument v types clock).1 = .ok d

/-- The document of some object under recorded types. -/
def FieldMapper.Writes (m : FieldMapper) (types : RecordedTypes) (d : Document) : Prop :=
  ∃ v, m.Maps types v d

namespace FieldMapper.Writes

variable {m : FieldMapper} {types : RecordedTypes} {d : Document}

/-- The fields of a reserved name are those that the envelope added. -/
lemma exists_reserved_iff (h : m.Writes types d) :
    ∃ payload stamp, ∀ {name : String} {P : Field → Prop}, isReserved name = true →
      ((∃ f ∈ d.fields, f.name = name ∧ P f) ↔
        ∃ f ∈ Envelope.added types payload stamp, f.name = name ∧ P f) := by
  obtain ⟨v, clock, hdocument⟩ := h
  obtain ⟨p, payload, hproject, -, hfields⟩ := toDocument_eq_ok hdocument
  refine ⟨payload, clock.stamp, fun {name P} hname => ?_⟩
  rw [hfields]
  constructor
  · rintro ⟨f, hf, rfl, hP⟩
    rcases List.mem_append.1 hf with hf | hf
    · obtain ⟨-, -, hnot⟩ := isFieldPath_of_project hproject f hf
      rw [hname] at hnot
      cases hnot
    · exact ⟨f, hf, rfl, hP⟩
  · rintro ⟨f, hf, hP⟩
    exact ⟨f, List.mem_append_right _ hf, hP⟩

/-- The filter for an actual type matches the documents recorded under it. -/
lemma satisfies_ofActualType (h : m.Writes types d) (t : TypeIdentity) :
    (IndexedDocument.ofDocument d).satisfies (.ofActualType t) = true ↔ types.actual = t := by
  obtain ⟨payload, stamp, hreserved⟩ := h.exists_reserved_iff
  have hname : isReserved actualTypeField = true := by decide
  rw [Query.ofActualType, IndexedDocument.satisfies_term_iff, hreserved hname,
    Envelope.exists_added_actual_iff, Envelope.hasTerm_identity]

/-- The filter for a declared type matches the documents written through it. -/
lemma satisfies_ofDeclaredType (h : m.Writes types d) (t : TypeIdentity) :
    (IndexedDocument.ofDocument d).satisfies (.ofDeclaredType t) = true ↔ types.declared = t := by
  obtain ⟨payload, stamp, hreserved⟩ := h.exists_reserved_iff
  have hname : isReserved declaredTypeField = true := by decide
  rw [Query.ofDeclaredType, IndexedDocument.satisfies_term_iff, hreserved hname,
    Envelope.exists_added_declared_iff, Envelope.hasTerm_identity]

/-- A document of an object has its envelope, so it is not empty. -/
lemma isEmpty_eq_false (h : m.Writes types d) : d.isEmpty = false := by
  obtain ⟨v, clock, hdocument⟩ := h
  obtain ⟨p, payload, -, -, hfields⟩ := toDocument_eq_ok hdocument
  simp [Document.isEmpty, hfields, Envelope.added]

end FieldMapper.Writes

end FieldSearch
