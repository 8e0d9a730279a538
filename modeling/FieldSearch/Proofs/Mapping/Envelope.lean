import FieldSearch.Proofs.Mapping.Walk

/-!
# Documents of objects

The document of an object is its fields followed by those of the envelope. `Envelope.added` writes
the envelope down as a list, and `FieldMapper.toDocument_eq_ok` takes a document apart. The two
parts do not share a name: a projected field is never reserved, and an added one always is.
-/

namespace FieldSearch

/-- The fields of an envelope, in order. -/
def Envelope.added (types : RecordedTypes) (payload : Option String) (stamp : Int64) :
    List Field :=
  [⟨actualTypeField, .string types.actual.text, FieldOption.exact.withStored true⟩,
      ⟨declaredTypeField, .string types.declared.text, FieldOption.exact.withStored true⟩]
    ++ payload.toList.map (⟨sourceField, .string ·, .storedOnly⟩)
    ++ [⟨timestampField, .long stamp, .storedOnly⟩]

lemma Envelope.isReserved_added {types : RecordedTypes} {payload : Option String}
    {stamp : Int64} : ∀ f ∈ Envelope.added types payload stamp, isReserved f.name = true := by
  intro f hf
  simp only [added, List.mem_append, List.mem_cons, List.mem_map, List.not_mem_nil, or_false] at hf
  obtain ((rfl | rfl) | ⟨text, -, rfl⟩) | rfl := hf <;> simp [isReserved, reservedFields]

/-- The envelope is stored as a whole. -/
lemma Envelope.stored_added {types : RecordedTypes} {payload : Option String} {stamp : Int64}
    {d : Document} {fields : List Field} (h : d.fields = fields ++ added types payload stamp) :
    d.stored.fields = fields.filter (·.option.stored) ++ added types payload stamp := by
  have hadded : (added types payload stamp).filter (·.option.stored) =
      added types payload stamp := by
    cases payload <;> rfl
  rw [Document.stored, h, List.filter_append, hadded]

namespace FieldMapper

variable {m : FieldMapper} {v : Value} {d : Document}

lemma toDocument_eq_ok {types : RecordedTypes} {clock : WriteClock}
    (h : (m.toDocument v types clock).1 = .ok d) :
    ∃ p payload, m.project v = .ok p ∧
      payload = (if m.config.storeSource then Envelope.payload? types.actual v else none) ∧
      d.fields = p.fields ++ Envelope.added types payload clock.stamp := by
  cases hproject : m.project v with
  | error e =>
    simp only [toDocument, hproject] at h
    cases h
  | ok p =>
    refine ⟨p, _, rfl, rfl, ?_⟩
    cases hstore : m.config.storeSource with
    | false =>
      simp only [toDocument, hproject, Envelope.wrap, hstore, Bool.false_eq_true, if_false] at h
      rw [← Except.ok.inj h]
      simp [Envelope.identify, Envelope.addTimestamp, Envelope.added, Document.addField,
        Document.add]
    | true =>
      cases hpayload : Envelope.payload? types.actual v with
      | none =>
        simp only [toDocument, hproject, Envelope.wrap, hstore, if_true, hpayload] at h
        cases h
      | some text =>
        simp only [toDocument, hproject, Envelope.wrap, hstore, if_true, hpayload] at h
        rw [← Except.ok.inj h]
        simp [Envelope.identify, Envelope.addSource, Envelope.addTimestamp, Envelope.added,
          Document.addField, Document.add]

/-- Projected fields are indexed. -/
lemma indexed_of_project (h : m.project v = .ok d) : ∀ f ∈ d.fields, f.option.indexed = true := by
  obtain ⟨ls, -, hfields⟩ := project_eq_ok.1 h
  rw [hfields]
  intro f hf
  obtain ⟨l, -, rfl⟩ := List.mem_map.1 hf
  rfl

end FieldMapper

end FieldSearch
