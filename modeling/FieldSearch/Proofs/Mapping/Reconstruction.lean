import FieldSearch.Proofs.Mapping.Integrity
import FieldSearch.Proofs.Mapping.Payload
import FieldSearch.Proofs.Object.Hollow

/-!
# Two ways back to an object

Whoever knows the type of an object reads it straight from the text of its payload. Whoever does
not reads a tree first, settles it, and lets the registry choose the type that is recorded. The
recorded identity is the one the mapper was given (`Envelope.Seals`), so both read as the same type.
They make the same of it as long as the tree of the object is read alike before and after it was
settled. That is so for all objects but those with an empty variant in them
(`Schema.Holds.bind_readDeep_settle`): a variant of values without names that has none is written
and read from the text like any other, and the dynamic way finds its payload corrupt.

Main statement: `FieldMapper.reconstruct_agrees`. Neither way has to succeed. A float that is no
number is written as null, and then both fail alike. `FieldMapper.reconstructDynamic_blank` is an
object that only the typed way makes.
-/

namespace FieldSearch

lemma TypeRegistry.type?_register (registry : TypeRegistry) (t : ObjectType) :
    (registry.register t).type? t.identity = some t := by
  simp [type?, register, registerAs]

namespace Envelope

variable {d : Document} {j : Json}

/-- The tree of a payload is settled one level below the top. -/
lemma splitPayload?_text (actual : TypeIdentity) (hj : j.Legible) :
    splitPayload? (payloadTree actual j).text =
      (j.settle (deepest - 1)).map fun tree => (actual, tree) := by
  have hlegible : (payloadTree actual j).Legible := ⟨trivial, hj, trivial⟩
  have hfields : (payloadTree actual j).fields? ["type", "value"] =
      some (true, [some (.ofString actual.text), some j]) :=
    Schema.fields?_ofMembers (by simp) ["type", "value"]
  simp only [splitPayload?, Json.parse_text hlegible, Option.bind_eq_bind, Option.bind_some,
    hfields, Option.map_eq_bind]
  rfl

lemma decodeTree_eq {text : String} (hsource : source d = .ok text) :
    decodeTree d = match splitPayload? text with
      | some payload => .ok payload
      | none => .error .unparsable := by
  unfold decodeTree
  exact congrArg (Bind.bind · _) hsource

end Envelope

namespace FieldMapper

variable {m : FieldMapper} {t : ObjectType} {v : Value} {d : Document} {j : Json}

lemma exists_maps_of_isOk {types : RecordedTypes} {clock : WriteClock}
    (h : (m.toDocument v types clock).1.isOk = true) : ∃ d, m.Maps types v d := by
  cases hdocument : (m.toDocument v types clock).1 with
  | error e =>
    rw [hdocument] at h
    cases h
  | ok d => exact ⟨d, clock, hdocument⟩

/-- The document of an object, and the stored part of it, carry the tree of the object and the
identity that it was given. -/
lemma Maps.exists_tree {actual declared : TypeIdentity} (h : m.Maps ⟨actual, declared⟩ v d)
    (hstore : m.config.storeSource = true) :
    ∃ j, v.json? = some j ∧ ∀ d' ∈ [d, d.stored],
      Envelope.source d' = .ok (Envelope.payloadTree actual j).text ∧
        Envelope.actualType? d' = some actual := by
  obtain ⟨clock, hdocument⟩ := h
  obtain ⟨p, -, hproject, -, -⟩ := toDocument_eq_ok hdocument
  obtain ⟨text, htext⟩ := exists_payload_of_project hproject actual
  obtain ⟨j, hj, htree⟩ := Option.map_eq_some_iff.1 htext
  obtain ⟨-, hseals, hstored⟩ := seals_toDocument hdocument
  simp only [hstore, if_true, htext, ← htree] at hseals hstored
  refine ⟨j, hj, fun d' hd' => ?_⟩
  rcases List.mem_cons.1 hd' with rfl | hd'
  · exact ⟨hseals.source_eq, hseals.actualType_eq⟩
  · obtain rfl := List.mem_singleton.1 hd'
    exact ⟨hstored.source_eq, hstored.actualType_eq⟩

/-- Straight from the text: the tree is read as it was written. -/
lemma reconstruct_eq (hsource : Envelope.source d = .ok (Envelope.payloadTree t.identity j).text)
    (hj : j.Legible) :
    reconstruct t d =
      (Schema.readDeep t.catalog .written (deepest - 1) t.schema j).elim
        (.error (.undecodable t.name)) .ok := by
  rw [reconstruct, Envelope.decode_eq hsource, Envelope.readPayload?_text t t.identity hj]
  cases Schema.readDeep t.catalog .written (deepest - 1) t.schema j <;> rfl

/-- By way of the tree: it is settled first, and then the registry has to have the type. -/
lemma reconstructDynamic_eq
    (hsource : Envelope.source d = .ok (Envelope.payloadTree t.identity j).text)
    (hactual : Envelope.actualType? d = some t.identity) (hj : j.Legible)
    (registry : TypeRegistry) :
    reconstructDynamic registry d =
      (j.settle (deepest - 1)).elim (.error .unparsable) (registry.decode t.identity) := by
  have htree := Envelope.decodeTree_eq hsource
  rw [Envelope.splitPayload?_text t.identity hj] at htree
  rw [reconstructDynamic, htree]
  cases j.settle (deepest - 1) with
  | none => rfl
  | some tree =>
    have hidentity : (Envelope.actualType? d).getD t.identity = t.identity := by rw [hactual]; rfl
    exact congrArg (registry.decode · tree) hidentity

section Registered

variable (hsource : Envelope.source d = .ok (Envelope.payloadTree t.identity j).text)
  (hactual : Envelope.actualType? d = some t.identity) (hj : j.Legible) {registry : TypeRegistry}
  (hregistry : registry.type? t.identity = some t)
include hsource hactual hj hregistry

/-- What the dynamic way makes of a settled tree that is read. -/
lemma reconstructDynamic_eq_ok {w : Value}
    (hread : (j.settle (deepest - 1)).bind
      (Schema.readDeep t.catalog .settled deepest t.schema) = some w) :
    reconstructDynamic registry d = .ok (t, w) := by
  obtain ⟨tree, htree, hw⟩ := Option.bind_eq_some_iff.1 hread
  simp only [reconstructDynamic_eq hsource hactual hj, htree, Option.elim_some,
    TypeRegistry.decode, hregistry, Schema.read, hw]

/-- A tree that is not settled, or not read then, is a corrupt payload. -/
lemma reconstructDynamic_eq_error
    (hread : (j.settle (deepest - 1)).bind
      (Schema.readDeep t.catalog .settled deepest t.schema) = none) :
    ∃ e, reconstructDynamic registry d = .error e ∧ e.kind = .corruptSourcePayload := by
  rw [reconstructDynamic_eq hsource hactual hj]
  cases htree : j.settle (deepest - 1) with
  | none => exact ⟨_, rfl, rfl⟩
  | some tree =>
    rw [htree, Option.bind_some] at hread
    simp only [Option.elim_some, TypeRegistry.decode, hregistry, Schema.read, hread]
    exact ⟨_, rfl, rfl⟩

/-- The two ways agree over a tree that is read alike. -/
lemma reconstruct_cases
    (hread : (j.settle (deepest - 1)).bind (Schema.readDeep t.catalog .settled deepest t.schema) =
      Schema.readDeep t.catalog .written (deepest - 1) t.schema j) :
    (∃ w, reconstruct t d = .ok w ∧ reconstructDynamic registry d = .ok (t, w)) ∨
      ∃ e e', reconstruct t d = .error e ∧ reconstructDynamic registry d = .error e' ∧
        e.kind = .corruptSourcePayload ∧ e'.kind = .corruptSourcePayload := by
  rw [reconstruct_eq hsource hj]
  cases hwritten : Schema.readDeep t.catalog .written (deepest - 1) t.schema j with
  | none =>
    obtain ⟨e', herror, hkind⟩ :=
      reconstructDynamic_eq_error hsource hactual hj hregistry (hread.trans hwritten)
    exact .inr ⟨_, e', rfl, herror, rfl, hkind⟩
  | some w =>
    exact .inl ⟨w, rfl,
      reconstructDynamic_eq_ok hsource hactual hj hregistry (hread.trans hwritten)⟩

end Registered

/-- Without a type in the registry a payload that is a tree at all is refused. -/
lemma reconstructDynamic_of_none
    (hsource : Envelope.source d = .ok (Envelope.payloadTree t.identity j).text)
    (hactual : Envelope.actualType? d = some t.identity) (hj : j.Legible)
    {registry : TypeRegistry} (hregistry : registry.type? t.identity = none)
    {payload : TypeIdentity × Json} (hpayload : Envelope.decodeTree d = .ok payload) :
    reconstructDynamic registry d = .error (.noDecoder t.identity.text) := by
  rw [Envelope.decodeTree_eq hsource, Envelope.splitPayload?_text t.identity hj] at hpayload
  rw [reconstructDynamic_eq hsource hactual hj]
  cases hsettle : j.settle (deepest - 1) with
  | none =>
    rw [hsettle] at hpayload
    cases hpayload
  | some tree => simp only [Option.elim_some, TypeRegistry.decode, hregistry]

/-- **Both ways back agree but for empty variants.** An object of a type is written under the
identity of the type, with its payload. If the registry has the type for its identity, the typed and
the dynamic way make the same object from its document, and from the stored part of it, or both find
the payload corrupt. With an empty variant in the object the dynamic way always finds it corrupt,
whatever the typed one makes of it. If the registry has no type for the identity, the dynamic way
refuses every payload that is a tree. -/
theorem reconstruct_agrees (hstore : m.config.storeSource = true)
    (hv : t.schema.Holds t.catalog v) (declared : TypeIdentity)
    (h : m.Maps ⟨t.identity, declared⟩ v d) (registry : TypeRegistry) :
    ∀ d' ∈ [d, d.stored],
      (registry.type? t.identity = some t →
        (¬ t.schema.Hollow t.catalog v →
          (∃ w, reconstruct t d' = .ok w ∧ reconstructDynamic registry d' = .ok (t, w)) ∨
            ∃ e e', reconstruct t d' = .error e ∧ reconstructDynamic registry d' = .error e' ∧
              e.kind = .corruptSourcePayload ∧ e'.kind = .corruptSourcePayload) ∧
        (t.schema.Hollow t.catalog v →
          ∃ e, reconstructDynamic registry d' = .error e ∧ e.kind = .corruptSourcePayload)) ∧
      (registry.type? t.identity = none → (∃ payload, Envelope.decodeTree d' = .ok payload) →
        ∃ e, reconstructDynamic registry d' = .error e ∧ e.kind = .unmappableType) := by
  obtain ⟨j, hj, hdocuments⟩ := h.exists_tree hstore
  have hlegible : j.Legible := (hv.readsAlike hj (.inl rfl)).legible
  obtain ⟨hfull, hhollow⟩ := hv.bind_readDeep_settle hj (Nat.sub_le deepest 1)
  intro d' hd'
  obtain ⟨hsource, hactual⟩ := hdocuments d' hd'
  refine ⟨fun hregistry => ⟨fun h => ?_, fun h => ?_⟩, fun hregistry ⟨payload, hpayload⟩ => ?_⟩
  · exact reconstruct_cases hsource hactual hlegible hregistry (hfull h)
  · exact reconstructDynamic_eq_error hsource hactual hlegible hregistry (hhollow h)
  · exact ⟨_, reconstructDynamic_of_none hsource hactual hlegible hregistry hpayload, rfl⟩

/-- A drawing with a variant of every shape and a map, found by a registry that has its type and
refused by one that has none; with an empty variant in it the dynamic way refuses it. -/
theorem reconstruct_agrees_drawing :
    let shape : Schema := .choice "Shape" [("Dot", none), ("Blank", some (.inlineTuple [])),
      ("Line", some (.inlineTuple [.signed 32, .signed 32])),
      ("Box", some (.inline "Box" [("side", .option (.unsigned 8), none)]))]
    let t : ObjectType :=
      { name := "app::Drawing"
        schema := .record "Drawing" [("shapes", .sequence shape, none),
          ("layers", .table .bool, none)] }
    let drawing (shapes : List Value) : Value := .record "Drawing" [("shapes", .sequence shapes),
      ("layers", .map [(.text "b", .bool true), (.text "a", .bool false)])]
    let v : Value := drawing [.unitVariant "Shape" "Dot",
      .variant "Shape" "Line" (.tuple [.int 1, .int (-1)]),
      .variant "Shape" "Box" (.record "Box" [("side", .absent)])]
    let u : Value := drawing [.variant "Shape" "Blank" (.tuple [])]
    let m : FieldMapper := {}
    let registry := ({} : TypeRegistry).register t
    m.config.storeSource = true ∧ registry.type? t.identity = some t ∧
      (t.schema.Holds t.catalog v ∧ ¬ t.schema.Hollow t.catalog v ∧
        ∃ d, m.Maps ⟨t.identity, t.identity⟩ v d ∧
          (∃ w, reconstruct t d = .ok w ∧ reconstructDynamic registry d = .ok (t, w)) ∧
          ∃ e, reconstructDynamic {} d = .error e ∧ e.kind = .unmappableType) ∧
      t.schema.Holds t.catalog u ∧ t.schema.Hollow t.catalog u ∧
        ∃ d, m.Maps ⟨t.identity, t.identity⟩ u d ∧
          ∃ e, reconstructDynamic registry d = .error e ∧ e.kind = .corruptSourcePayload := by
  intro shape t drawing v u m registry
  have hregistered : registry.type? t.identity = some t := TypeRegistry.type?_register {} t
  have hlayers : Schema.Holds t.catalog (.table .bool)
      (Schema.tableOf [("b", .bool true), ("a", .bool false)]) :=
    .table (by simp) (by simpa using ⟨.bool true, .bool false⟩)
  have hdrawing {shapes : List Value} (h : ∀ v ∈ shapes, shape.Holds t.catalog v) :
      t.schema.Holds t.catalog (drawing shapes) := by
    refine .record "Drawing" (by simp) (by simp) ?_
    simpa using ⟨.sequence h, hlayers⟩
  have hdot : shape.Holds t.catalog (.unitVariant "Shape" "Dot") := .unitVariant "Shape" rfl
  have hblank : shape.Holds t.catalog (.variant "Shape" "Blank" (.tuple [])) :=
    .variant "Shape" rfl (.inlineTuple rfl (by simp))
  have hline : shape.Holds t.catalog (.variant "Shape" "Line" (.tuple [.int 1, .int (-1)])) :=
    .variant "Shape" rfl (.inlineTuple rfl (by simpa using ⟨.signed 32 1, .signed 32 (-1)⟩))
  have hbox : shape.Holds t.catalog (.variant "Shape" "Box" (.record "Box" [("side", .absent)])) :=
    .variant "Shape" rfl (.inline "Box" (by simp) (by simp) (by simpa using .absent _))
  have hv : t.schema.Holds t.catalog v := hdrawing (List.forall_mem_cons.2 ⟨hdot,
    List.forall_mem_cons.2 ⟨hline, List.forall_mem_singleton.2 hbox⟩⟩)
  have hu : t.schema.Holds t.catalog u := hdrawing (List.forall_mem_singleton.2 hblank)
  have hhollow : t.schema.Hollow t.catalog u :=
    .record "Drawing" List.mem_cons_self List.mem_cons_self rfl
      (.sequence List.mem_cons_self (.variant "Shape" rfl .empty))
  have hfull : ¬ t.schema.Hollow t.catalog v := by
    have hread :
        (Schema.readDeep t.catalog .settled 4 t.schema (v.json?.getD .null)).isSome = true := by
      decide +kernel
    exact hv.not_hollow rfl hread
  have hrun : (m.toDocument v ⟨t.identity, t.identity⟩ ⟨fun _ => 0, 0, 0⟩).1.toOption.any
      (fun d => (reconstruct t d).isOk && (Envelope.decodeTree d).isOk) = true := by
    decide +kernel
  have hwritten : (m.toDocument u ⟨t.identity, t.identity⟩ ⟨fun _ => 0, 0, 0⟩).1.isOk = true := by
    decide +kernel
  refine ⟨rfl, hregistered, ⟨hv, hfull, ?_⟩, hu, hhollow, ?_⟩
  · cases hdocument : (m.toDocument v ⟨t.identity, t.identity⟩ ⟨fun _ => 0, 0, 0⟩).1 with
    | error e =>
      rw [hdocument] at hrun
      cases hrun
    | ok d =>
      rw [hdocument] at hrun
      obtain ⟨hread, htree⟩ := (Bool.and_eq_true _ _).mp hrun
      have hd : m.Maps ⟨t.identity, t.identity⟩ v d := ⟨_, hdocument⟩
      have hknown := reconstruct_agrees rfl hv t.identity hd registry d List.mem_cons_self
      have hunknown := reconstruct_agrees rfl hv t.identity hd {} d List.mem_cons_self
      refine ⟨d, hd, ?_, hunknown.2 rfl ?_⟩
      · obtain hboth | ⟨e, -, herror, -⟩ := (hknown.1 hregistered).1 hfull
        · exact hboth
        · rw [herror] at hread
          cases hread
      · cases hpayload : Envelope.decodeTree d with
        | ok payload => exact ⟨payload, rfl⟩
        | error e =>
          rw [hpayload] at htree
          cases htree
  · obtain ⟨d, hd⟩ := exists_maps_of_isOk hwritten
    have hknown := reconstruct_agrees rfl hu t.identity hd registry d List.mem_cons_self
    exact ⟨d, hd, (hknown.1 hregistered).2 hhollow⟩

/-- A variant of values without names that has none is written, read back as itself by whoever knows
the type, and corrupt to the registry that has the type. -/
theorem reconstructDynamic_blank :
    let t : ObjectType :=
      { name := "app::Mark", schema := .choice "Mark" [("Blank", some (.inlineTuple []))] }
    let v : Value := .variant "Mark" "Blank" (.tuple [])
    let m : FieldMapper := {}
    let registry := ({} : TypeRegistry).register t
    m.config.storeSource = true ∧ t.schema.Holds t.catalog v ∧
      registry.type? t.identity = some t ∧
      ∃ d, m.Maps ⟨t.identity, t.identity⟩ v d ∧ reconstruct t d = .ok v ∧
        ∃ e, reconstructDynamic registry d = .error e ∧ e.kind = .corruptSourcePayload := by
  intro t v m registry
  have hregistered : registry.type? t.identity = some t := TypeRegistry.type?_register {} t
  have hv : t.schema.Holds t.catalog v := .variant "Mark" rfl (.inlineTuple rfl (by simp))
  have hhollow : t.schema.Hollow t.catalog v := .variant "Mark" rfl .empty
  have hwritten : (m.toDocument v ⟨t.identity, t.identity⟩ ⟨fun _ => 0, 0, 0⟩).1.isOk = true := by
    decide +kernel
  obtain ⟨d, hd⟩ := exists_maps_of_isOk hwritten
  obtain ⟨j, hj, hdocuments⟩ := hd.exists_tree rfl
  obtain ⟨hsource, hactual⟩ := hdocuments d List.mem_cons_self
  have hlegible : j.Legible := (hv.readsAlike hj (.inl rfl)).legible
  refine ⟨rfl, hv, hregistered, d, hd, ?_, ?_⟩
  · obtain rfl := Option.some.inj hj
    rw [reconstruct_eq hsource hlegible]
    rfl
  · exact reconstructDynamic_eq_error hsource hactual hlegible hregistered
      ((hv.bind_readDeep_settle hj (Nat.sub_le deepest 1)).2 hhollow)

end FieldMapper

end FieldSearch
