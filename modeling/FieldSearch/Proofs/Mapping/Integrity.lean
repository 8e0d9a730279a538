import FieldSearch.Proofs.Mapping.Recorded
import FieldSearch.Proofs.Mapping.Written

/-!
# Integrity of the envelope

The fields of the envelope stand behind those of the object and are read as the first ones of their
names, so an object that could give a field one of these names would say itself what type it is and
what it was made of. None can: names of map keys, variants and fields end up in paths, and a walk
refuses the paths of the envelope wherever they come from. What a document says of its object is
what the mapper put there, and so does the part of it that an engine gives back, whatever the
conventions leave out of it.

`Envelope.Seals` lists what holds of a document that was made this way, and
`Envelope.Seals.of_fields` is the argument. Names that are not of the envelope are names with dots
between them; `Path.exists_ofNames` says so in terms of the names.

Main statement: `FieldMapper.seals_toDocument`.
-/

namespace FieldSearch

/-! ## Names between dots -/

namespace Path

lemma split_ne_nil (cs : List Char) : split cs ≠ [] := by
  fun_cases split cs <;> simp_all

lemma split_cons {c : Char} (hc : c ≠ '.') (cs : List Char) :
    ∃ part parts, split cs = part :: parts ∧ split (c :: cs) = (c :: part) :: parts := by
  obtain ⟨part, parts, hsplit⟩ := List.exists_cons_of_ne_nil (split_ne_nil cs)
  refine ⟨part, parts, hsplit, ?_⟩
  rw [split.eq_3 _ _ hc, hsplit]

lemma dot_notMem_of_mem_split {cs part : List Char} (h : part ∈ split cs) : '.' ∉ part := by
  induction cs generalizing part with
  | nil => simp_all [split]
  | cons c cs ih =>
    by_cases hc : c = '.'
    · subst hc
      rw [split] at h
      rcases List.mem_cons.1 h with rfl | h
      · exact List.not_mem_nil
      · exact ih h
    · obtain ⟨first, parts, hsplit, hcons⟩ := split_cons hc cs
      rw [hcons] at h
      rw [hsplit] at ih
      rcases List.mem_cons.1 h with rfl | h
      · simpa [Ne.symm hc] using ih List.mem_cons_self
      · exact ih (List.mem_cons_of_mem _ h)

lemma intercalate_split (cs : List Char) : ['.'].intercalate (split cs) = cs := by
  induction cs with
  | nil => rfl
  | cons c cs ih =>
    by_cases hc : c = '.'
    · subst hc
      rw [split, List.intercalate_cons_of_ne_nil (split_ne_nil cs), ih]
      rfl
    · obtain ⟨first, parts, hsplit, hcons⟩ := split_cons hc cs
      rw [hsplit] at ih
      rw [hcons]
      cases parts with
      | nil => simpa using ih
      | cons second parts => simpa using ih

/-- A path without an empty segment is a list of names, each with at least one character and
without a dot. -/
lemma exists_ofNames {path : String} (h : hasEmptySegment path = false) :
    ∃ names : List String, names ≠ [] ∧ (∀ name ∈ names, name ≠ "" ∧ '.' ∉ name.toList) ∧
      path = ofNames names := by
  refine ⟨(split path.toList).map String.ofList, ?_, ?_, ?_⟩
  · exact fun hnil => split_ne_nil _ (List.map_eq_nil_iff.1 hnil)
  · intro name hname
    obtain ⟨part, hpart, rfl⟩ := List.mem_map.1 hname
    refine ⟨fun hempty => ?_, by simpa using dot_notMem_of_mem_split hpart⟩
    have hnot : ¬part.isEmpty = true := List.any_eq_false.1 h part hpart
    have hnil : part = [] := by simpa using hempty
    exact hnot (by rw [hnil]; rfl)
  · rw [← String.toList_inj, ofNames, String.toList_intercalate, List.map_map]
    have hid : String.toList ∘ String.ofList = id := by
      funext cs
      simp
    rw [hid, List.map_id]
    exact (intercalate_split _).symm

end Path

/-! ## Documents with an envelope -/

namespace Envelope

/-- What a document says of its object once it has an envelope. -/
structure Seals (types : RecordedTypes) (payload : Option String) (stamp : Int64) (d : Document) :
    Prop where
  /-- The envelope is there, and nothing else has the name of one of its fields. -/
  actual_once : d.values actualTypeField = [.string types.actual.text]
  declared_once : d.values declaredTypeField = [.string types.declared.text]
  source_once : d.values sourceField = payload.toList.map .string
  timestamp_once : d.values timestampField = [.long stamp]
  /-- It is read as it was written. -/
  actualType_eq : actualType? d = some types.actual
  declaredType_eq : declaredType? d = some types.declared
  timestamp_eq : timestamp? d = some stamp
  source_eq : source d = payload.elim (.error (.noSource (some types.actual.text))) .ok
  /-- All other fields have paths for names. -/
  others : ∀ f ∈ d.fields, f.name ∉ reservedFields → ∃ names : List String, names ≠ [] ∧
    (∀ name ∈ names, name ≠ "" ∧ '.' ∉ name.toList) ∧ f.name = Path.ofNames names
  /-- A type filter finds the document under its own identity and under no other one. -/
  satisfies_actual : ∀ t : TypeIdentity,
    (IndexedDocument.ofDocument d).satisfies (.ofActualType t) = true ↔ t = types.actual
  satisfies_declared : ∀ t : TypeIdentity,
    (IndexedDocument.ofDocument d).satisfies (.ofDeclaredType t) = true ↔ t = types.declared

variable {types : RecordedTypes} {payload : Option String} {stamp : Int64} {d : Document}
  {fields : List Field}

/-- The fields of a reserved name are those that the envelope added. -/
lemma fieldsOf_added (hfields : d.fields = fields ++ added types payload stamp)
    (hpaths : ∀ f ∈ fields, Path.IsFieldPath f.name) {name : String}
    (hname : isReserved name = true) :
    d.fieldsOf name = (added types payload stamp).filter (·.name = name) := by
  have hnone : fields.filter (·.name = name) = [] := by
    rw [List.filter_eq_nil_iff]
    intro f hf hsame
    have hnot : isReserved f.name = false := (hpaths f hf).2.2
    rw [of_decide_eq_true hsame, hname] at hnot
    cases hnot
  rw [Document.fieldsOf, hfields, List.filter_append, hnone, List.nil_append]

lemma satisfies_term_iff_fieldsOf {name term : String} :
    (IndexedDocument.ofDocument d).satisfies (.term name term) = true ↔
      ∃ f ∈ d.fieldsOf name, f.HasTerm term := by
  simp only [IndexedDocument.satisfies_term_iff, Document.fieldsOf, List.mem_filter,
    decide_eq_true_eq, and_assoc]

/-- All that is read or matched of an envelope is read off the fields of its names, and these are
the ones it added. -/
lemma Seals.of_fields (hfields : d.fields = fields ++ added types payload stamp)
    (hpaths : ∀ f ∈ fields, Path.IsFieldPath f.name) : Seals types payload stamp d := by
  have hactual : d.fieldsOf actualTypeField =
      [⟨actualTypeField, .string types.actual.text, FieldOption.exact.withStored true⟩] := by
    rw [fieldsOf_added hfields hpaths (by decide)]
    cases payload <;> rfl
  have hdeclared : d.fieldsOf declaredTypeField =
      [⟨declaredTypeField, .string types.declared.text, FieldOption.exact.withStored true⟩] := by
    rw [fieldsOf_added hfields hpaths (by decide)]
    cases payload <;> rfl
  have hsource : d.fieldsOf sourceField =
      payload.toList.map (⟨sourceField, .string ·, .storedOnly⟩) := by
    rw [fieldsOf_added hfields hpaths (by decide)]
    cases payload <;> rfl
  have htimestamp : d.fieldsOf timestampField = [⟨timestampField, .long stamp, .storedOnly⟩] := by
    rw [fieldsOf_added hfields hpaths (by decide)]
    cases payload <;> rfl
  have hfirst (name : String) : d.field? name = (d.fieldsOf name).head? :=
    (List.head?_filter ..).symm
  have hactualType : actualType? d = some types.actual := by
    rw [actualType?, Document.string?, hfirst, hactual]
    rfl
  exact {
    actual_once := by rw [Document.values, hactual]; rfl
    declared_once := by rw [Document.values, hdeclared]; rfl
    source_once := by rw [Document.values, hsource, List.map_map]; rfl
    timestamp_once := by rw [Document.values, htimestamp]; rfl
    actualType_eq := hactualType
    declaredType_eq := by rw [declaredType?, Document.string?, hfirst, hdeclared]; rfl
    timestamp_eq := by rw [timestamp?, hfirst, htimestamp]; rfl
    source_eq := by
      rw [source, hfirst, hsource, hactualType]
      cases payload <;> rfl
    others := by
      intro f hf hname
      rw [hfields] at hf
      rcases List.mem_append.1 hf with hf | hf
      · exact Path.exists_ofNames (hpaths f hf).2.1
      · exact absurd (List.contains_iff_mem.1 (isReserved_added f hf)) hname
    satisfies_actual := by
      intro t
      rw [Query.ofActualType, satisfies_term_iff_fieldsOf, hactual]
      simp only [List.mem_singleton, exists_eq_left, hasTerm_identity, eq_comm]
    satisfies_declared := by
      intro t
      rw [Query.ofDeclaredType, satisfies_term_iff_fieldsOf, hdeclared]
      simp only [List.mem_singleton, exists_eq_left, hasTerm_identity, eq_comm] }

end Envelope

namespace FieldMapper

/-- **An object does not forge its envelope.** Whatever the value tree, the conventions, the limits
and the identities, a document that is made of an object says of it what the mapper was told, and
so does its stored part. The payload is there if it was asked for. -/
theorem seals_toDocument {m : FieldMapper} {v : Value} {types : RecordedTypes} {clock : WriteClock}
    {d : Document} (h : (m.toDocument v types clock).1 = .ok d) :
    let payload := if m.config.storeSource then Envelope.payload? types.actual v else none
    payload.isSome = m.config.storeSource ∧ Envelope.Seals types payload clock.stamp d ∧
      Envelope.Seals types payload clock.stamp d.stored := by
  intro payload
  obtain ⟨p, _, hproject, rfl, hfields⟩ := toDocument_eq_ok h
  have hpaths : ∀ f ∈ p.fields, Path.IsFieldPath f.name := isFieldPath_of_project hproject
  have hstored : ∀ f ∈ p.fields.filter (·.option.stored), Path.IsFieldPath f.name :=
    fun f hf => hpaths f (List.mem_filter.1 hf).1
  refine ⟨?_, .of_fields hfields hpaths, .of_fields (Envelope.stored_added hfields) hstored⟩
  obtain ⟨text, htext⟩ := exists_payload_of_project hproject types.actual
  cases hstore : m.config.storeSource with
  | true => simp only [payload, hstore, if_true, htext, Option.isSome_some]
  | false => simp only [payload, hstore, Bool.false_eq_true, if_false, Option.isSome_none]

/-- A map key with the name of an envelope field stays behind the path of its map. -/
theorem seals_toDocument_mapped :
    let m : FieldMapper := {}
    let v : Value := .record "Note" [("meta", .map [(.text "$type", .text "Forged, app")])]
    let types : RecordedTypes := ⟨⟨"Note, app"⟩, ⟨"Page, app"⟩⟩
    let clock : WriteClock := ⟨fun _ => 100, 0, 0⟩
    let payload := if m.config.storeSource then Envelope.payload? types.actual v else none
    ∃ p d, m.project v = .ok p ∧ p.fields.map (·.name) = ["meta.$type"] ∧
      (m.toDocument v types clock).1 = .ok d ∧ payload.isSome = true ∧
      Envelope.Seals types payload 100 d ∧ Envelope.Seals types payload 100 d.stored := by
  intro m v types clock payload
  have hproject : m.project v = .ok ⟨[⟨"meta.$type", .string "Forged, app",
      FieldOption.exact.withAnalyzed true⟩]⟩ := rfl
  obtain ⟨d, hdocument⟩ := exists_toDocument hproject types clock
  have hstamp : clock.stamp = 100 := by decide
  exact ⟨_, d, hproject, rfl, hdocument, hstamp ▸ seals_toDocument hdocument⟩

end FieldMapper

end FieldSearch
