import FieldSearch.Proofs.Mapping.Obstacles
import FieldSearch.Proofs.Mapping.Payload
import FieldSearch.Proofs.Mapping.Written

/-!
# Objects that are refused

A document is made in two passes over an object: the projection looks for its leaves, and then the
payload is written. The second pass has failures of its own, keys that are no member names and
values that refuse to be written, and it takes more than the first one does: keys that are floats or
integers of 128 bits, byte buffers, a value without a key. So it has nothing to refuse once the
first pass is through (`FieldMapper.exists_untimed`), and every failure of a document is the one of
its projection.

Main statement: `FieldMapper.toDocument_eq_error_iff`.
-/

namespace FieldSearch

namespace FieldMapper

variable {m : FieldMapper} {v : Value} {types : RecordedTypes} {clock : WriteClock} {e : Error}

/-- A projection that fails leaves no document and takes no stamp. -/
lemma toDocument_of_project_error (h : m.project v = .error e) :
    m.toDocument v types clock = (.error e, clock) := by
  rw [toDocument, h]

/-- The document of an object that is projected, and its payload if one is asked for. -/
lemma exists_source_of_project {p : Document} (h : m.project v = .ok p) (types : RecordedTypes)
    (clock : WriteClock) :
    ∃ d, (m.toDocument v types clock).1 = .ok d ∧
      (m.config.storeSource = true → ∃ text, Envelope.payload? types.actual v = some text ∧
        Envelope.source d = .ok text) := by
  obtain ⟨d, hd⟩ := exists_toDocument h types clock
  refine ⟨d, hd, fun hstore => ?_⟩
  obtain ⟨text, htext⟩ := exists_payload_of_project h types.actual
  exact ⟨text, htext, (Maps.source_eq ⟨clock, hd⟩ hstore htext).1⟩

lemma project_of_toDocument_error (h : (m.toDocument v types clock).1 = .error e) :
    m.project v = .error e := by
  cases hproject : m.project v with
  | ok p =>
    obtain ⟨d, hd⟩ := exists_toDocument hproject types clock
    rw [hd] at h
    cases h
  | error e' =>
    rw [toDocument_of_project_error hproject] at h
    exact h

/-- **What is projected is written.** A document fails exactly as its projection does, so never in
writing the payload, and then takes no stamp from the clock. Where the projection succeeds there is
a document, which carries the payload if it is to be stored. -/
theorem toDocument_eq_error_iff (m : FieldMapper) (v : Value) (types : RecordedTypes)
    (clock : WriteClock) :
    (∀ e, (m.toDocument v types clock).1 = .error e ↔ m.project v = .error e) ∧
    (∀ e, (m.toDocument v types clock).1 = .error e →
      e.kind ≠ .json ∧ (m.toDocument v types clock).2 = clock) ∧
    ∀ p, m.project v = .ok p → ∃ d, (m.toDocument v types clock).1 = .ok d ∧
      (m.config.storeSource = true → ∃ text, Envelope.payload? types.actual v = some text ∧
        Envelope.source d = .ok text) := by
  refine ⟨fun e => ⟨project_of_toDocument_error, fun h => ?_⟩, fun e h => ?_,
    fun p h => exists_source_of_project h types clock⟩
  · rw [toDocument_of_project_error h]
  · have hproject := project_of_toDocument_error h
    refine ⟨kind_ne_json_of_project hproject, ?_⟩
    rw [toDocument_of_project_error hproject]

/-- A map whose key would be a member name of a tree, but is no path segment, and a map whose key is
a text inside an option and a wrapping type. -/
theorem toDocument_eq_error_iff_map :
    let v (k : Value) : Value := .record "Note" [("scores", .map [(k, .int 1)])]
    let wide : Value := .wide true 1
    let text : Value := .present (.wrapped "Name" (.text "a"))
    let types : RecordedTypes := .of ⟨"Note"⟩
    let clock : WriteClock := ⟨fun _ => 0, 0, 0⟩
    let m : FieldMapper := {}
    (wide.keyText?.isSome = true ∧ m.project (v wide) = .error (.wideKey "i128") ∧
        (m.toDocument (v wide) types clock).1 = .error (.wideKey "i128") ∧
        (m.toDocument (v wide) types clock).2 = clock) ∧
      ∃ p d text', m.project (v text) = .ok p ∧ m.config.storeSource = true ∧
        (m.toDocument (v text) types clock).1 = .ok d ∧ Envelope.source d = .ok text' := by
  intro v wide text types clock m
  have hwide : m.project (v wide) = .error (.wideKey "i128") := rfl
  obtain ⟨hiff, herror, -⟩ := toDocument_eq_error_iff m (v wide) types clock
  have hdocument := (hiff _).2 hwide
  obtain ⟨d, hd, hsource⟩ := (toDocument_eq_error_iff m (v text) types clock).2.2 _ rfl
  obtain ⟨text', -, htext'⟩ := hsource rfl
  exact ⟨⟨rfl, hwide, hdocument, (herror _ hdocument).2⟩, _, d, text', rfl, rfl, hd, htext'⟩

end FieldMapper

end FieldSearch
