import FieldSearch.Proofs.Index.Calls
import FieldSearch.Proofs.Mapping.Payload
import FieldSearch.Proofs.Search.Objects

/-!
# Objects through an index

Objects that are added to an index one by one lie in its engine in that order, each as a document
of its own. A query for their type yields all of these documents, so what it collects is what the
documents are read back as, or the first failure to read one (`ObjectIndex.toList_of_written`).

Main statement: objects that the schema of their type describes come back as they were added
(`ObjectIndex.toList_query_added`).
-/

namespace FieldSearch

namespace MemoryEngine

variable {ds : List Document}

/-- The engine that documents were written to and nothing else. -/
abbrev ofDocuments (ds : List Document) : MemoryEngine := ({} : MemoryEngine).pushAll ds

lemma slots_ofDocuments :
    (ofDocuments ds).slots.toList = ds.map fun d => some (.ofDocument d) := slots_pushAll ds

lemma size_ofDocuments : (ofDocuments ds).slots.size = ds.length :=
  (size_pushAll {} ds).trans (Nat.zero_add _)

/-- Read by address, documents are in the order of their writes. -/
lemma liveDocuments_ofDocuments (ds : List Document) :
    (ofDocuments ds).liveDocuments.map (·.2) = ds := documents_pushAll ds

/-- A query that matches every document selects everything. -/
lemma selects_ofDocuments {q : Query}
    (h : ∀ d ∈ ds, (IndexedDocument.ofDocument d).satisfies q = true) :
    (ofDocuments ds).Selects q fun _ => true := by
  intro address x hslot
  rw [← Array.getElem?_toList, slots_ofDocuments, List.getElem?_map] at hslot
  obtain ⟨d, hd, hx⟩ := Option.map_eq_some_iff.1 hslot
  obtain rfl := Option.some.inj hx
  exact ⟨fun _ => h d (List.mem_of_getElem? hd), fun _ => rfl⟩

end MemoryEngine

namespace ObjectIndex

variable {ω : Type} {i : ObjectIndex MemoryEngine} {s s' : IndexState MemoryEngine ω}
  {t : ObjectType} {vs : List Value}

/-- Objects that were added one by one. -/
lemma forM_add_cases (hi : i.engine = MemoryEngine.engine)
    (h : (vs.forM (i.add t)) s = (.ok (), s')) :
    ∃ ds, List.Forall₂ (i.mapper.Maps (.of t.identity)) vs ds ∧
      s'.engine = s.engine.pushAll ds := by
  induction vs generalizing s with
  | nil =>
    obtain ⟨-, rfl⟩ := Prod.mk.inj h
    exact ⟨[], .nil, rfl⟩
  | cons v vs ih =>
    obtain ⟨e, -, ⟨⟩⟩ | ⟨u, s₁, hadd, h⟩ := Answer.bind_cases h
    obtain ⟨e, ⟨⟩, -⟩ | ⟨d, hd, -, hengine⟩ := addRecorded_cases hi hadd
    obtain ⟨ds, hds, hengine'⟩ := ih h
    rw [hengine] at hengine'
    exact ⟨d :: ds, .cons hd hds, hengine'⟩

/-- Objects that have a document at any time are added one by one without a failure. -/
lemma forM_add_eq_ok (hi : i.engine = MemoryEngine.engine)
    (h : ∀ v ∈ vs, ∀ clock, ∃ d, (i.mapper.toDocument v (.of t.identity) clock).1 = .ok d) :
    (vs.forM (i.add t) s).1 = .ok () := by
  induction vs generalizing s with
  | nil => rfl
  | cons v vs ih =>
    rw [List.forall_mem_cons] at h
    obtain ⟨d, hd⟩ := h.1 s.clock
    -- The engine refuses empty documents only, and the envelope is never empty.
    have hempty : d.isEmpty = false := FieldMapper.Writes.isEmpty_eq_false ⟨v, s.clock, hd⟩
    have hdocument : document (i.mapper.documentMapper t) (.of t.identity) v s =
        (.ok d, { s with clock := (i.mapper.toDocument v (.of t.identity) s.clock).2 }) :=
      Prod.ext hd rfl
    have hwrite (s₁ : IndexState MemoryEngine ω) : IndexAction.ofAnswer (i.engine.write d) s₁ =
        (.ok (), { s₁ with engine := s₁.engine.pushAll [d] }) := by
      rw [hi]
      exact ofAnswer_eq (MemoryEngine.write_eq hempty s₁.engine)
    have hadd : ∃ s₁, i.add t v s = (.ok (), s₁) :=
      ⟨_, (Answer.bind_ok hdocument).trans (hwrite _)⟩
    obtain ⟨s₁, hadd⟩ := hadd
    exact (congrArg Prod.fst (Answer.bind_ok hadd)).trans (ih h.2)

variable {config : IndexConfig} {m : FieldMapper} {ds : List Document}

/-- A query for the type of all objects collects what their documents are read back as. -/
lemma toList_of_written (hds : ∀ d ∈ ds, m.Writes (.of t.identity) d)
    (hlength : ds.length ≤ maxCount) :
    (((withMapper MemoryEngine.engine config m).query t).toList MemoryEngine.engine
      (.ofDocuments ds)).1 = ds.mapM fun d => FieldMapper.reconstruct t d.stored := by
  have hslots : (MemoryEngine.ofDocuments ds).slots.size ≤ maxCount := by
    rw [MemoryEngine.size_ofDocuments]
    exact hlength
  have hselects : (MemoryEngine.ofDocuments ds).Selects (.ofActualType t.identity) fun _ => true :=
    MemoryEngine.selects_ofDocuments fun d hd => ((hds d hd).satisfies_ofActualType _).2 rfl
  rw [TypedQuery.toList_eq_mapM rfl hslots hselects, List.filter_true]
  conv_rhs => rw [← MemoryEngine.liveDocuments_ofDocuments ds, List.mapM_map]
  rfl

/-- A loop over documents that depends on their objects only. -/
lemma mapM_eq_of_forall₂ {α : Type} {as : List α} {f : Document → Except Error Value}
    {g : α → Except Error Value} (h : List.Forall₂ (fun a d => f d = g a) as ds) :
    ds.mapM f = as.mapM g := by
  induction h with
  | nil => rfl
  | cons hd _ ih => rw [List.mapM_cons, List.mapM_cons, hd, ih]

/-- Objects that the schema of their type describes come back from an index as they were added, and
in that order; and each of them is read back from any document of it, and from the stored part of
the document. -/
theorem toList_query_added (config : IndexConfig) (conventions : FieldConventions)
    (t : ObjectType) (vs : List Value) (hdescribes : ∀ v ∈ vs, t.schema.Describes t.catalog v)
    (hlength : vs.length ≤ maxCount) (clock : WriteClock) (surroundings : ω)
    (s : IndexState MemoryEngine ω) :
    let m : FieldMapper := { conventions := conventions }
    let i : ObjectIndex MemoryEngine := .withMapper MemoryEngine.engine config m
    (vs.forM (i.add t) ⟨{}, clock, surroundings⟩ = (.ok (), s) →
      ((i.query t).toList MemoryEngine.engine s.engine).1 = .ok vs) ∧
    ∀ v ∈ vs, ∀ (types : RecordedTypes) (d : Document), m.Maps types v d →
      FieldMapper.reconstruct t d = .ok v ∧ FieldMapper.reconstruct t d.stored = .ok v := by
  intro m i
  have hdepth : ({} : MappingConfig).maxDepth < deepest := by decide
  have hread : ∀ v ∈ vs, ∀ (types : RecordedTypes) (d : Document), m.Maps types v d →
      FieldMapper.reconstruct t d = .ok v ∧ FieldMapper.reconstruct t d.stored = .ok v :=
    fun v hv types d hmaps => hmaps.reconstruct_eq rfl hdepth (hdescribes v hv)
  refine ⟨fun hadded => ?_, hread⟩
  obtain ⟨ds, hmaps, hengine⟩ := forM_add_cases rfl hadded
  have hobjects : List.Forall₂ (fun v d => FieldMapper.reconstruct t d.stored = .ok v) vs ds :=
    ((List.forall₂_and_left _ _).2 ⟨hread, hmaps⟩).imp fun v d ⟨hv, hd⟩ => (hv _ d hd).2
  rw [hmaps.length_eq] at hlength
  rw [hengine]
  refine (toList_of_written (writes_of_maps hmaps) hlength).trans ?_
  rw [mapM_eq_of_forall₂ hobjects]
  exact List.mapM_pure.trans (congrArg Except.ok (List.map_id vs))

/-- Two posts, one with a quote in its title and the other without a rating. -/
theorem toList_query_added_posts :
    let author : Schema := .record "Author" [("name", .text, none), ("age", .unsigned 8, none)]
    let post : ObjectType :=
      { name := "app::Post"
        schema := .record "Post" [("title", .text, none), ("author", .named "Author", none),
          ("tags", .sequence .text, none), ("rating", .option (.signed 64), none)]
        catalog := fun name => if name = "Author" then some author else none }
    let ann : Value := .record "Author" [("name", .text "Ann"), ("age", .nat 41)]
    let vs : List Value :=
      [.record "Post" [("title", .text "On \"quotes\""), ("author", ann),
          ("tags", .sequence [.text "a", .text "b"]), ("rating", .present (.int (-3)))],
        .record "Post" [("title", .text ""), ("author", ann), ("tags", .sequence []),
          ("rating", .absent)]]
    let i : ObjectIndex MemoryEngine := .withMapper MemoryEngine.engine { executor := ⟨1⟩ } {}
    let s₀ : IndexState MemoryEngine Unit := ⟨{}, ⟨fun _ => 100, 0, 0⟩, ()⟩
    (∀ v ∈ vs, post.schema.Describes post.catalog v) ∧ vs.length ≤ maxCount ∧
      (vs.forM (i.add post) s₀).1 = .ok () ∧
      ((i.query post).toList MemoryEngine.engine
        (vs.forM (i.add post) s₀).2.engine).1 = .ok vs := by
  intro author post ann vs i s₀
  have hann : Schema.Describes post.catalog (.named "Author") ann :=
    .named rfl (.record _ (by decide) (.cons _ none (.text _)
      (.cons _ none (.unsigned (by decide)) .nil)))
  have hpost : ∀ (title : String) (tags : List Value) (rating : Value),
      Schema.DescribesItems post.catalog .text tags →
      Schema.Describes post.catalog (.option (.signed 64)) rating →
      post.schema.Describes post.catalog (.record "Post" [("title", .text title), ("author", ann),
        ("tags", .sequence tags), ("rating", rating)]) := by
    intro title tags rating htags hrating
    exact .record _ (by decide) (.cons _ none (.text _) (.cons _ none hann
      (.cons _ none (.sequence htags) (.cons _ none hrating .nil))))
  have hdescribes : ∀ v ∈ vs, post.schema.Describes post.catalog v := by
    refine List.forall_mem_cons.2 ⟨?_, List.forall_mem_singleton.2 ?_⟩
    · exact hpost _ _ _ (.cons (.text _) (.cons (.text _) (.nil _)))
        (.present rfl (.signed (by decide) (by decide)))
    · exact hpost _ _ _ (.nil _) (.absent _)
  have hlength : vs.length ≤ maxCount := by decide
  have hadded : (vs.forM (i.add post) s₀).1 = .ok () := by decide +kernel
  have hquery := toList_query_added { executor := ⟨1⟩ } {} post vs hdescribes hlength
    ⟨fun _ => 100, 0, 0⟩ () (vs.forM (i.add post) s₀).2
  exact ⟨hdescribes, hlength, hadded, hquery.1 (Prod.ext hadded rfl)⟩

end ObjectIndex

end FieldSearch
