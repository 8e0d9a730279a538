import FieldSearch.Proofs.Mapping.Envelope
import FieldSearch.Proofs.Mapping.Trees

/-!
# Objects that can be written

An object that is walked to the end has a tree (`Projection.exists_nests_walk`), so an object that
is projected has a payload, and with it a document.

The clock has no part in that. It gives the document its write time, and all else is the same at
any time (`FieldMapper.exists_untimed`).
-/

namespace FieldSearch

/-! ## Documents at any time -/

namespace FieldMapper

variable {m : FieldMapper} {v : Value}

/-- An object that is projected has a payload. -/
lemma exists_payload_of_project {p : Document} (h : m.project v = .ok p) (actual : TypeIdentity) :
    ∃ text, Envelope.payload? actual v = some text := by
  obtain ⟨ls, hwalk, -⟩ := project_eq_ok.1 h
  obtain ⟨j, hj, -⟩ := Projection.exists_nests_walk hwalk
  exact ⟨_, by rw [Envelope.payload?, hj]; rfl⟩

/-- An object that is projected has a document at any time, which is the same at all times but for
the write time. -/
theorem exists_untimed {p : Document} (h : m.project v = .ok p) (types : RecordedTypes) :
    ∃ d, ∀ clock, m.toDocument v types clock =
      (.ok (Envelope.addTimestamp clock.stamp d), clock.advance) := by
  obtain ⟨text, hpayload⟩ := exists_payload_of_project h types.actual
  cases hstore : m.config.storeSource with
  | true =>
    refine ⟨Envelope.addSource text (Envelope.identify types p), fun clock => ?_⟩
    simp only [toDocument, h, Envelope.wrap, hstore, hpayload]
    rfl
  | false =>
    refine ⟨Envelope.identify types p, fun clock => ?_⟩
    simp only [toDocument, h, Envelope.wrap, hstore]
    rfl

lemma exists_toDocument {p : Document} (h : m.project v = .ok p) (types : RecordedTypes)
    (clock : WriteClock) : ∃ d, (m.toDocument v types clock).1 = .ok d := by
  obtain ⟨d, hd⟩ := exists_untimed h types
  exact ⟨_, congrArg Prod.fst (hd clock)⟩

end FieldMapper

end FieldSearch
