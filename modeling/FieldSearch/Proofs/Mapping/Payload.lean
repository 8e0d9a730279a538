import FieldSearch.Proofs.Mapping.Recorded
import FieldSearch.Proofs.Object.Described

/-!
# Payloads

The payload of an object is the text of a record of two fields, the actual type and the object, and
it is found in the document of the object and in its stored part, whatever fields the object has.
An object that its schema describes is read back from both
(`FieldMapper.Maps.reconstruct_eq`).
-/

namespace FieldSearch

namespace Envelope

variable {t : ObjectType} {actual : TypeIdentity} {v : Value} {d : Document} {text : String}

/-- A document is read from its payload, or not at all. -/
lemma decode_eq (hsource : source d = .ok text) :
    decode t d = match readPayload? t text with
      | some v => .ok v
      | none => .error (.undecodable t.name) := by
  unfold decode
  exact congrArg (Bind.bind · _) hsource

/-- The first field with the name of the payload is the one that the envelope added. -/
lemma source_added {types : RecordedTypes} {stamp : Int64} {fields : List Field}
    (hfields : d.fields = fields ++ added types (some text) stamp)
    (hreserved : ∀ f ∈ fields, isReserved f.name = false) : source d = .ok text := by
  have hnone : fields.find? (·.name = sourceField) = none := by
    rw [List.find?_eq_none]
    intro f hf hname
    have hsource : isReserved sourceField = true := by decide
    rw [← of_decide_eq_true hname, hreserved f hf] at hsource
    cases hsource
  have hfield : d.field? sourceField = some ⟨sourceField, .string text, .storedOnly⟩ := by
    rw [Document.field?, hfields, List.find?_append, hnone]
    rfl
  rw [source, hfield]
  rfl

lemma source_stored_added {types : RecordedTypes} {stamp : Int64} {fields : List Field}
    (hfields : d.fields = fields ++ added types (some text) stamp)
    (hreserved : ∀ f ∈ fields, isReserved f.name = false) : source d.stored = .ok text :=
  source_added (stored_added hfields) fun f hf => hreserved f (List.mem_of_mem_filter hf)

/-- The tree of a payload. -/
def payloadTree (actual : TypeIdentity) (j : Json) : Json :=
  .ofMembers [("type", .ofString actual.text), ("value", j)]

/-- An object is read from its payload one level below the top. -/
lemma readPayload?_text (t : ObjectType) (actual : TypeIdentity) {j : Json} (hj : j.Legible) :
    readPayload? t (payloadTree actual j).text =
      Schema.readDeep t.catalog .written (deepest - 1) t.schema j := by
  have hlegible : (payloadTree actual j).Legible := ⟨trivial, hj, trivial⟩
  have hfields := Schema.readFields_named (Schema.readDeep t.catalog .written (deepest - 1))
    [("type", .text, none), ("value", t.schema, none)]
    [("type", .ofString actual.text), ("value", j)] (by simp) rfl
  have hread : Schema.read t.catalog .written (payloadSchema t) (payloadTree actual j) =
      (Schema.readDeep t.catalog .written (deepest - 1) t.schema j).map fun v =>
        .record "SourcePayload" [("type", .text actual.text), ("value", v)] := by
    refine (congrArg (Option.bind · fun fields => some (Value.record _ fields)) hfields).trans ?_
    simp only [List.zip_cons_cons, List.zip_nil_right, List.mapM_cons, List.mapM_nil]
    cases Schema.readDeep t.catalog .written (deepest - 1) t.schema j <;> rfl
  rw [readPayload?, Json.parse_text hlegible]
  simp only [Option.bind_eq_bind, Option.bind_some, hread]
  cases Schema.readDeep t.catalog .written (deepest - 1) t.schema j <;> rfl

/-- A described object is read back from its payload, if it does not nest too deep. -/
lemma exists_payload (actual : TypeIdentity) (h : t.schema.Describes t.catalog v)
    (hnest : v.nest < deepest) :
    ∃ text, payload? actual v = some text ∧ readPayload? t text = some v := by
  obtain ⟨j, hj⟩ : ∃ j, Schema.Keeps t.catalog .written t.schema v j := h.exists_keeps
  refine ⟨(payloadTree actual j).text, ?_, ?_⟩
  · rw [payload?, hj.json]
    rfl
  · rw [readPayload?_text t actual hj.legible, hj.read _ (Nat.le_sub_one_of_lt hnest)]

end Envelope

namespace FieldMapper

variable {m : FieldMapper} {t : ObjectType} {types : RecordedTypes} {v : Value} {d : Document}
  {text : String}

/-- The payload of an object is the text that its document and the stored part of it carry. -/
lemma Maps.source_eq (h : m.Maps types v d) (hstore : m.config.storeSource = true)
    (hpayload : Envelope.payload? types.actual v = some text) :
    Envelope.source d = .ok text ∧ Envelope.source d.stored = .ok text := by
  obtain ⟨clock, hdocument⟩ := h
  obtain ⟨p, payload, hproject, rfl, hfields⟩ := toDocument_eq_ok hdocument
  rw [hstore, if_pos rfl, hpayload] at hfields
  have hreserved : ∀ f ∈ p.fields, isReserved f.name = false :=
    fun f hf => (isFieldPath_of_project hproject f hf).2.2
  exact ⟨Envelope.source_added hfields hreserved, Envelope.source_stored_added hfields hreserved⟩

/-- A described object is read back from its document, and from the stored part of it. -/
lemma Maps.reconstruct_eq (h : m.Maps types v d) (hstore : m.config.storeSource = true)
    (hdepth : m.config.maxDepth < deepest) (hdescribes : t.schema.Describes t.catalog v) :
    reconstruct t d = .ok v ∧ reconstruct t d.stored = .ok v := by
  obtain ⟨clock, hdocument⟩ := h
  obtain ⟨p, payload, hproject, -, -⟩ := toDocument_eq_ok hdocument
  have hnest : v.nest < deepest := Nat.lt_of_le_of_lt (nest_le_of_project hproject) hdepth
  obtain ⟨text, hpayload, hread⟩ := Envelope.exists_payload types.actual hdescribes hnest
  obtain ⟨hsource, hstored⟩ := Maps.source_eq ⟨clock, hdocument⟩ hstore hpayload
  rw [reconstruct, reconstruct, Envelope.decode_eq hsource, Envelope.decode_eq hstored, hread]
  exact ⟨rfl, rfl⟩

end FieldMapper

end FieldSearch
