import FieldSearch.Proofs.Index.RoundTrip
import FieldSearch.Proofs.Mapping.Written

/-!
# Calls that fail

A call of an index maps its objects first and goes to the engine last, with a single call of it or
with documents that the engine does not refuse. So a call that fails has not changed the engine: it
failed before, or the engine refused its only document.

Adding many objects at once fails if one of them is not projected, and otherwise does what adding
them one after the other does. The documents may differ in their write times only
(`Envelope.SameButTime`).

Main statement: `ObjectIndex.failed_calls_change_nothing`.
-/

namespace FieldSearch

/-! ## Write times -/

/-- Two documents that are the same but for the write time at their end. -/
def Envelope.SameButTime (d d' : Document) : Prop :=
  ∃ (untimed : Document) (time time' : Int64),
    d = addTimestamp time untimed ∧ d' = addTimestamp time' untimed

namespace FieldMapper

variable {m : FieldMapper} {types : RecordedTypes} {v : Value} {vs : List Value}
  {d d' : Document} {ds ds' : List Document}

/-- An object has a document if and only if it is projected. -/
lemma exists_maps_iff : (∃ d, m.Maps types v d) ↔ ∃ p, m.project v = .ok p := by
  constructor
  · rintro ⟨d, clock, hdocument⟩
    obtain ⟨p, -, hproject, -⟩ := toDocument_eq_ok hdocument
    exact ⟨p, hproject⟩
  · rintro ⟨p, hproject⟩
    obtain ⟨d, hd⟩ := exists_toDocument hproject types ⟨fun _ => 0, 0, 0⟩
    exact ⟨d, _, hd⟩

/-- An object has one document, up to the write time. -/
lemma Maps.sameButTime (h : m.Maps types v d) (h' : m.Maps types v d') :
    Envelope.SameButTime d d' := by
  obtain ⟨p, hproject⟩ := exists_maps_iff.1 ⟨d, h⟩
  obtain ⟨untimed, huntimed⟩ := exists_untimed hproject types
  obtain ⟨clock, hd⟩ := h
  obtain ⟨clock', hd'⟩ := h'
  rw [huntimed] at hd hd'
  exact ⟨untimed, clock.stamp, clock'.stamp, (Except.ok.inj hd).symm, (Except.ok.inj hd').symm⟩

lemma sameButTime_of_maps (h : List.Forall₂ (m.Maps types) vs ds)
    (h' : List.Forall₂ (m.Maps types) vs ds') : List.Forall₂ Envelope.SameButTime ds ds' := by
  induction h generalizing ds' with
  | nil =>
    cases h'
    exact .nil
  | cons hd _ ih =>
    cases h' with
    | cons hd' hds' => exact .cons (hd.sameButTime hd') (ih hds')

end FieldMapper

namespace ObjectIndex

variable {ω : Type} {i : ObjectIndex MemoryEngine} {s s' : IndexState MemoryEngine ω}
  {m : FieldMapper} {t : ObjectType} {types : RecordedTypes} {vs : List Value} {e : Error}

/-! ## Failures -/

/-- Whatever mapper makes a document, the engine is as it was if adding it fails. -/
lemma engine_of_addRecorded_error (hi : i.engine = MemoryEngine.engine) {mapper : DocumentMapper}
    {v : Value} (h : i.addRecorded mapper types v s = (.error e, s')) :
    s'.engine = s.engine := by
  obtain ⟨e', hfail, -⟩ | ⟨d, s₁, hd, h⟩ := Answer.bind_cases h
  · rw [← (Prod.mk.inj hfail).2]
  obtain ⟨-, rfl⟩ := Prod.mk.inj hd
  rw [hi] at h
  cases hempty : d.isEmpty with
  | true =>
    -- The mapper is not bound to give a document that the engine takes.
    rw [ofAnswer_eq (MemoryEngine.write_empty hempty _)] at h
    rw [← (Prod.mk.inj h).2]
  | false =>
    rw [ofAnswer_eq (MemoryEngine.write_eq hempty _)] at h
    cases h

lemma engine_of_run_error (hi : i.engine = MemoryEngine.engine) {c : IndexCall ω}
    (h : c.run i s = (.error e, s')) : s'.engine = s.engine := by
  obtain ⟨e', -, hengine⟩ | ⟨gone, ds, ⟨⟩, -⟩ := IndexCall.run_cases hi h
  exact hengine

/-! ## Many objects at once -/

/-- Objects that are projected have documents, one after the other. -/
lemma documents_eq_ok (t : ObjectType) (types : RecordedTypes) (s : IndexState MemoryEngine ω)
    (h : ∀ v ∈ vs, ∃ p, m.project v = .ok p) :
    ∃ ds s', vs.mapM (document (m.documentMapper t) types) s = (.ok ds, s') := by
  induction vs generalizing s with
  | nil => exact ⟨[], s, rfl⟩
  | cons v vs ih =>
    rw [List.forall_mem_cons] at h
    obtain ⟨p, hproject⟩ := h.1
    obtain ⟨d, hd⟩ := FieldMapper.exists_untimed hproject types
    have hdocument : document (m.documentMapper t) types v s =
        (.ok (Envelope.addTimestamp s.clock.stamp d), { s with clock := s.clock.advance }) := by
      simp only [document, IndexAction.ofClock, FieldMapper.documentMapper, hd]
    obtain ⟨ds, s', hds⟩ := ih { s with clock := s.clock.advance } h.2
    rw [List.mapM_cons, Answer.bind_ok hdocument, Answer.bind_ok hds]
    exact ⟨_, s', rfl⟩

/-- Objects are added at once if and only if each of them is projected. -/
lemma addAll_ok_iff (hi : i.engine = MemoryEngine.engine) :
    (∃ n, (i.addAll t vs s).1 = .ok n) ↔ ∀ v ∈ vs, ∃ p, i.mapper.project v = .ok p := by
  constructor
  · rintro ⟨n, hn⟩
    obtain ⟨e, ⟨⟩, -⟩ | ⟨ds, hds, -⟩ :=
      addAll_cases hi (Prod.ext hn rfl : i.addAll t vs s = (.ok n, _))
    clear hn
    induction hds with
    | nil => exact fun v hv => absurd hv List.not_mem_nil
    | cons hd _ ih => exact List.forall_mem_cons.2 ⟨FieldMapper.exists_maps_iff.1 ⟨_, hd⟩, ih⟩
  · intro h
    obtain ⟨ds, s₁, hds⟩ := documents_eq_ok t (.of t.identity) s h
    have hmaps := (documents_cases hds).2 ds rfl
    have hempty : ∀ d ∈ ds, d.isEmpty = false :=
      fun d hd => (writes_of_maps hmaps d hd).isEmpty_eq_false
    refine ⟨ds.length, ?_⟩
    rw [addAll, Answer.bind_ok hds, Answer.bind_ok (writeAll_eq hi hempty)]
    rfl

/-! ## Calls -/

/-- **Calls that fail change nothing.** A call that writes to an index and fails leaves the engine
as it was, and so does adding an object by any mapper. Adding many objects at once fails if and only
if one of them is not projected, and otherwise leaves the documents that adding them one by one
leaves, whenever that is done, but for the write times. -/
theorem failed_calls_change_nothing (config : IndexConfig) (m : FieldMapper)
    (s : IndexState MemoryEngine ω) :
    let i : ObjectIndex MemoryEngine := .withMapper MemoryEngine.engine config m
    (∀ (c : IndexCall ω) (e : Error),
      (c.run i s).1 = .error e → (c.run i s).2.engine = s.engine) ∧
    (∀ (mapper : DocumentMapper) (t : ObjectType) (v : Value) (e : Error),
      (i.addWith mapper t v s).1 = .error e → (i.addWith mapper t v s).2.engine = s.engine) ∧
    ∀ (t : ObjectType) (vs : List Value),
      ((∃ n, (i.addAll t vs s).1 = .ok n) ↔ ∀ v ∈ vs, ∃ p, m.project v = .ok p) ∧
      ∀ n, (i.addAll t vs s).1 = .ok n → ∀ (clock : WriteClock) (surroundings : ω),
        let single := vs.forM (i.add t) ⟨s.engine, clock, surroundings⟩
        n = vs.length ∧ single.1 = .ok () ∧
          ∃ together apart, (i.addAll t vs s).2.engine = s.engine.pushAll together ∧
            single.2.engine = s.engine.pushAll apart ∧
            List.Forall₂ Envelope.SameButTime together apart := by
  intro i
  refine ⟨fun c e he => engine_of_run_error rfl (Prod.ext he rfl),
    fun mapper t v e he => engine_of_addRecorded_error rfl (Prod.ext he rfl),
    fun t vs => ⟨addAll_ok_iff rfl, fun n hn clock surroundings => ?_⟩⟩
  intro single
  have hproject : ∀ v ∈ vs, ∃ p, m.project v = .ok p := (addAll_ok_iff rfl).1 ⟨n, hn⟩
  have hsingle : single.1 = .ok () := by
    refine forM_add_eq_ok rfl fun v hv clock => ?_
    obtain ⟨p, hp⟩ := hproject v hv
    exact FieldMapper.exists_toDocument hp (.of t.identity) clock
  obtain ⟨apart, hapart, hengine⟩ := forM_add_cases (i := i) rfl (Prod.ext hsingle rfl)
  obtain ⟨e, ⟨⟩, -⟩ | ⟨together, htogether, hlength, hengine'⟩ :=
    addAll_cases (i := i) rfl (Prod.ext hn rfl : i.addAll t vs s = (.ok n, _))
  refine ⟨?_, hsingle, together, apart, hengine', hengine,
    FieldMapper.sameButTime_of_maps htogether hapart⟩
  rw [htogether.length_eq]
  exact Except.ok.inj hlength

/-- Two notes of which one has a number that no field holds, and a mapper that gives nothing; then
two notes that are added, at a later time too. -/
theorem failed_calls_change_nothing_notes :
    let note : ObjectType := { name := "app::Note", schema := .any }
    let i : ObjectIndex MemoryEngine := .withMapper MemoryEngine.engine {} {}
    let s : IndexState MemoryEngine Unit := ⟨{}, ⟨fun _ => 100, 0, 0⟩, ()⟩
    let later : WriteClock := ⟨fun _ => 200, 0, 0⟩
    let small (n : Int64) : Value := .record "Note" [("id", .int n)]
    let wide : Value := .record "Note" [("id", .wide true 7)]
    let blank : DocumentMapper := ⟨fun _ _ clock => (.ok .empty, clock), fun _ => .ok .unit⟩
    let mixed : IndexCall Unit := .addAll note [small 1, wide]
    (mixed.run i s).1 = .error (.unsupportedLeaf "128-bit integer" "id") ∧
      (mixed.run i s).2.engine = s.engine ∧
      (i.addWith blank note (small 1) s).1 = .error .emptyDocument ∧
      (i.addWith blank note (small 1) s).2.engine = s.engine ∧
      (i.addAll note [small 1, small 2] s).1 = .ok 2 ∧
      ∃ together apart, (i.addAll note [small 1, small 2] s).2.engine = s.engine.pushAll together ∧
        ([small 1, small 2].forM (i.add note) ⟨s.engine, later, ()⟩).2.engine =
          s.engine.pushAll apart ∧
        List.Forall₂ Envelope.SameButTime together apart := by
  intro note i s later small wide blank mixed
  obtain ⟨hcalls, hwith, hall⟩ := failed_calls_change_nothing {} {} s
  have hmixed : (mixed.run i s).1 = .error (.unsupportedLeaf "128-bit integer" "id") := rfl
  have hblank : (i.addWith blank note (small 1) s).1 = .error .emptyDocument := rfl
  have hadded : (i.addAll note [small 1, small 2] s).1 = .ok 2 := rfl
  obtain ⟨-, -, hsame⟩ := (hall note [small 1, small 2]).2 2 hadded later ()
  exact ⟨hmixed, hcalls mixed _ hmixed, hblank, hwith blank note (small 1) _ hblank, hadded, hsame⟩

end ObjectIndex

end FieldSearch
