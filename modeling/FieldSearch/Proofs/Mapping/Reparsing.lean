import FieldSearch.Proofs.Mapping.Payload
import FieldSearch.Proofs.Mapping.Written

/-!
# Payloads that are parsed again

Three limits say how deep an object may nest: that of the mapper, which its configuration sets;
the number of containers that the reader of a payload accepts; and the container that the payload
puts around the object. The tree of an object is read again exactly if it nests no more containers
than the reader has left for it (`Projection.exists_nests_walk`), whatever else is in the object.
The reader has one less than its limit left, while the mapper knows nothing of that limit:
`FieldMapper.parses_iff` says that every payload a mapper writes can be parsed exactly if the
mapper's limit is below the reader's.
-/

namespace FieldSearch

/-! ## A record as deep as one likes -/

/-- A number in so many sequences. -/
def Value.sequences : Nat → Value
  | 0 => int 1
  | k + 1 => sequence [sequences k]

lemma Value.nest_sequences (k : Nat) : (sequences k).nest = k := by
  induction k with
  | zero => rfl
  | succ k ih => rw [sequences, nest, nestItems, nestItems, ih, Nat.max_zero]

lemma Projection.walk_sequences {limit depth k : Nat} (h : depth + k ≤ limit) :
    walk limit "a" depth none (.sequences k) = ⟨[⟨"a", .integer, .long 1⟩], none⟩ := by
  induction k generalizing depth with
  | zero => rfl
  | succ k ih =>
    have hcheck : noSequence limit "a" depth = none := by
      rw [noSequence, if_neg (by decide), tooDeep, if_neg (by omega)]
    rw [Value.sequences, walk, hcheck, guarded, walkItems, walkItems, ih (by omega)]
    rfl

/-- A record of a number in sequences, which makes `k + 1` containers. -/
def Value.deepRecord (k : Nat) : Value := record "S" [("a", sequences k)]

lemma Value.nest_deepRecord (k : Nat) : (deepRecord k).nest = k + 1 := by
  rw [deepRecord, nest, nestFields, nestFields, nest_sequences, Nat.max_zero]

/-! ## Documents -/

namespace FieldMapper

variable {m : FieldMapper} {t : ObjectType} {types : RecordedTypes} {v : Value} {d : Document}

/-- The payload of a document is a tree again if the object leaves one container of the reader's
for the payload itself, and else it is refused. -/
lemma Maps.decode_any (h : m.Maps types v d) (hstore : m.config.storeSource = true)
    (hschema : t.schema = .any) {d' : Document} (hd : d' = d ∨ d' = d.stored) :
    (v.nest < deepest → ∃ w, Envelope.decode t d' = .ok w) ∧
      (deepest ≤ v.nest → Envelope.decode t d' = .error (.undecodable t.name)) := by
  obtain ⟨clock, hdocument⟩ := id h
  obtain ⟨p, payload, hproject, -, -⟩ := toDocument_eq_ok hdocument
  obtain ⟨ls, hwalk, -⟩ := project_eq_ok.1 hproject
  obtain ⟨j, hj, hnests⟩ := Projection.exists_nests_walk hwalk
  have hpayload : Envelope.payload? types.actual v =
      some (Envelope.payloadTree types.actual j).text := by
    rw [Envelope.payload?, hj]
    rfl
  obtain ⟨hsource, hstored⟩ := h.source_eq hstore hpayload
  have hdecode := Envelope.decode_eq (t := t) (hd.elim (· ▸ hsource) (· ▸ hstored))
  rw [Envelope.readPayload?_text t types.actual hnests.legible, hschema] at hdecode
  have hread := hnests.isSome_read t.catalog .written (deepest - 1)
  have hpos : 0 < deepest := by decide
  cases hw : Schema.readDeep t.catalog .written (deepest - 1) .any j with
  | none =>
    rw [hw] at hdecode hread
    refine ⟨fun hlt => ?_, fun _ => hdecode⟩
    cases hread.2 (by omega)
  | some w =>
    rw [hw] at hdecode hread
    refine ⟨fun _ => ⟨w, hdecode⟩, fun hle => ?_⟩
    have := hread.1 rfl
    omega

/-- A mapper takes a record that nests as deep as its limit. -/
lemma exists_maps_deepRecord (m : FieldMapper) {k : Nat} (h : k + 1 ≤ m.config.maxDepth)
    (types : RecordedTypes) : ∃ d, m.Maps types (.deepRecord k) d := by
  have hwalk : Projection.ofValue m.config.maxDepth (.deepRecord k) =
      ⟨[⟨"a", .integer, .long 1⟩], none⟩ := by
    have hcheck : Projection.tooDeep m.config.maxDepth "" 0 = none := by
      rw [Projection.tooDeep, if_neg (by omega)]
    have hname : Path.join "" "a" = "a" := rfl
    rw [Projection.ofValue, Value.deepRecord, Projection.walk, hcheck, Projection.guarded,
      Projection.walkFields, Projection.walkFields, hname, Projection.walk_sequences (by omega)]
    rfl
  have hproject : m.project (.deepRecord k) =
      .ok ⟨[m.conventions.field ⟨"a", .integer, .long 1⟩]⟩ :=
    project_eq_ok.2 ⟨_, hwalk, rfl⟩
  obtain ⟨d, hd⟩ := exists_toDocument hproject types ⟨fun _ => 0, 0, 0⟩
  exact ⟨d, _, hd⟩

/-- Of a document with a payload, the payload is read as a tree again if its object nests less
than the reader accepts, and is refused otherwise, in the document and in its stored part alike.
So all payloads a mapper writes can be parsed exactly if its limit is below the reader's. -/
theorem parses_iff (m : FieldMapper) (hstore : m.config.storeSource = true) (t : ObjectType)
    (hschema : t.schema = .any) :
    (∀ types v d, m.Maps types v d → ∀ d' ∈ [d, d.stored],
      (v.nest < deepest → ∃ w, Envelope.decode t d' = .ok w) ∧
      (deepest ≤ v.nest → Envelope.decode t d' = .error (.undecodable t.name))) ∧
    ((∀ types v d, m.Maps types v d → ∃ w, Envelope.decode t d = .ok w) ↔
      m.config.maxDepth < deepest) := by
  refine ⟨fun types v d h d' hd => h.decode_any hstore hschema (by simpa using hd), ?_, ?_⟩
  · intro hall
    by_contra hle
    -- The mapper takes a record of as many containers as the reader, and the payload adds one.
    have hpos : 0 < deepest := by decide
    obtain ⟨d, hd⟩ := m.exists_maps_deepRecord (k := deepest - 1) (by omega) (.of ⟨"S"⟩)
    have hnest := Value.nest_deepRecord (deepest - 1)
    obtain ⟨w, hw⟩ := hall _ _ d hd
    rw [(hd.decode_any hstore hschema (.inl rfl)).2 (by omega)] at hw
    cases hw
  · intro hlt types v d h
    obtain ⟨clock, hdocument⟩ := id h
    obtain ⟨p, payload, hproject, -, -⟩ := toDocument_eq_ok hdocument
    have hnest := nest_le_of_project hproject
    exact (h.decode_any hstore hschema (.inl rfl)).1 (by omega)

/-- A mapper with a limit of one container less than the reader's writes the deepest record that
it takes so that it is read. -/
theorem parses_iff_deepRecord :
    let m : FieldMapper := { config := { maxDepth := 126 } }
    let t : ObjectType := ⟨"Value", .any, fun _ => none⟩
    m.config.storeSource = true ∧ t.schema = .any ∧
      (∃ d w, m.Maps (.of ⟨"S"⟩) (.deepRecord 125) d ∧ Envelope.decode t d = .ok w) ∧
      ∀ types v d, m.Maps types v d → ∃ w, Envelope.decode t d = .ok w := by
  intro m t
  obtain ⟨hread, hall⟩ := parses_iff m rfl t rfl
  obtain ⟨d, hd⟩ := m.exists_maps_deepRecord (k := 125) (by decide) (.of ⟨"S"⟩)
  obtain ⟨w, hw⟩ := (hread _ _ d hd d (by simp)).1 (by rw [Value.nest_deepRecord]; decide)
  exact ⟨rfl, rfl, ⟨d, w, hd, hw⟩, hall.2 (by decide)⟩

/-- A mapper with the limit of the reader takes a record that nests as deep as it may, and the
payload that it writes cannot be parsed. -/
theorem undecodable_deepRecord :
    let m : FieldMapper := { config := { maxDepth := 127 } }
    let t : ObjectType := ⟨"Value", .any, fun _ => none⟩
    m.config.storeSource = true ∧ ∃ d, m.Maps (.of ⟨"S"⟩) (.deepRecord 126) d ∧
      Envelope.decode t d = .error (.undecodable "Value") := by
  intro m t
  obtain ⟨d, hd⟩ := m.exists_maps_deepRecord (k := 126) (by decide) (.of ⟨"S"⟩)
  exact ⟨rfl, d, hd,
    (hd.decode_any rfl rfl (.inl rfl)).2 (by rw [Value.nest_deepRecord]; decide)⟩

end FieldMapper

end FieldSearch
