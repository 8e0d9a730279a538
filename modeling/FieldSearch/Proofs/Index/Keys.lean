import FieldSearch.Proofs.Index.Calls
import FieldSearch.Proofs.Mapping.Written
import FieldSearch.Proofs.Search.Counting
import FieldSearch.Proofs.Search.Objects

/-!
# Keys and queries

A key predicate singles out objects of a type in two ways. A query has it as its predicate and
hands the type to the engine as a filter beside it; deleting and updating make one query of both,
which is rewritten on the way. The engine finds the same documents for both
(`MemoryEngine.found_intersect`), so what is taken away is what the query shows.

Nothing is asked of the documents of the engine: they may come from an index or not.

Main statement: `ObjectIndex.delete_update_hit_query`.
-/

namespace FieldSearch

namespace MemoryEngine

variable {m : MemoryEngine} {p q f : Query} {filter : Option Query}

/-! ## Documents that are taken away -/

/-- An engine that has lost the documents of hits, and is the same at all other addresses. -/
def Clears (m m' : MemoryEngine) (hits : List Hit) : Prop :=
  ∀ address, m'.slots[address]? =
    if address ∈ hits.map (·.1) then some none else m.slots[address]?

/-- A filter beside a query finds the documents of the query of both. -/
lemma found_intersect : m.found (p.intersect f) none = m.found p (some f) := by
  refine isRanking_found.unique ⟨fun a => ?_, found_pairwise.imp .byAddress⟩
  rw [mem_found, IsMatch, IsMatch]
  constructor
  · rintro ⟨x, hslot, hdocument, hp, hf⟩
    have hmatch := IndexedDocument.satisfies_intersect.2 ⟨hp, hf f rfl⟩
    exact ⟨x, hslot, hdocument, hmatch, by rintro q ⟨⟩⟩
  · rintro ⟨x, hslot, hdocument, hmatch, -⟩
    obtain ⟨hp, hf⟩ := IndexedDocument.satisfies_intersect.1 hmatch
    exact ⟨x, hslot, hdocument, hp, by rintro q ⟨⟩; exact hf⟩

/-- Deleting takes away what a search finds, and nothing else. -/
lemma clears_erase (m : MemoryEngine) (q : Query) : m.Clears (m.erase q) (m.found q none) := by
  intro address
  have hmem : address ∈ (m.found q none).map (·.1) ↔
      ∃ x, m.slots[address]? = some (some x) ∧ x.satisfies q = true := by
    simp only [List.mem_map, mem_found, IsMatch]
    constructor
    · rintro ⟨a, ⟨x, hslot, -, hmatch, -⟩, rfl⟩
      exact ⟨x, hslot, hmatch⟩
    · rintro ⟨x, hslot, hmatch⟩
      exact ⟨(address, x.document), ⟨x, hslot, rfl, hmatch, by rintro q ⟨⟩⟩, rfl⟩
  by_cases hhit : address ∈ (m.found q none).map (·.1)
  · obtain ⟨x, hslot, hmatch⟩ := hmem.1 hhit
    rw [if_pos hhit, erase, Array.getElem?_map, hslot, Option.map_some, slotMatches,
      Option.map_some, hmatch]
    rfl
  · rw [if_neg hhit]
    exact getElem?_erase fun x hslot => Bool.of_not_eq_true fun h => hhit (hmem.2 ⟨x, hslot, h⟩)

end MemoryEngine

namespace ObjectIndex

open MemoryEngine

variable {ω : Type} {i : ObjectIndex MemoryEngine} {s : IndexState MemoryEngine ω}
  {t : ObjectType} {key : Expr ω} {p : Query}

/-! ## Two ways to a key -/

/-- The query of a type for the objects that a predicate is about. -/
def keyed (i : ObjectIndex MemoryEngine) (t : ObjectType) (p : Query) : TypedQuery :=
  { i.query t with context := { predicate := p } }

lemma filter_eq {w : ω} (h : (key.translate w).1 = .ok p) :
    ((i.query t).filter key w).1 = .ok (i.keyed t p) := by
  have htranslate : key.translate w = (.ok p, (key.translate w).2) := Prod.ext h rfl
  exact congrArg Prod.fst (Answer.bind_ok htranslate)

lemma keyQuery_eq {t : TypeIdentity} (h : (key.translate s.surroundings).1 = .ok p) :
    keyQuery t key s = (.ok (p.intersect (.ofActualType t)),
      { s with surroundings := (key.translate s.surroundings).2 }) := by
  have htranslate : IndexAction.ofTranslation key.translate s =
      ((key.translate s.surroundings).1,
        { s with surroundings := (key.translate s.surroundings).2 }) := rfl
  rw [h] at htranslate
  exact Answer.bind_ok htranslate

/-- The query counts and yields the documents that it finds. -/
lemma keyed_eq {m : MemoryEngine} (hslots : m.slots.size ≤ maxCount) :
    ((i.keyed t p).count MemoryEngine.engine m).1 =
        .ok (m.found p (some (.ofActualType t.identity))).length ∧
      (i.keyed t p).documents.Yields MemoryEngine.engine m
        ((m.found p (some (.ofActualType t.identity))).map fun a => .ok a.2.stored) := by
  have hmatching : (m.matching p (some (.ofActualType t.identity))).length ≤ maxCount :=
    Nat.le_trans (m.length_matching_le _ _) hslots
  refine ⟨?_, TypedQuery.yields_windowed hslots isRanking_found⟩
  have hcount := count_eq_share (m := m) { predicate := p } (some (.ofActualType t.identity))
    hmatching
  rw [length_found]
  exact congrArg Prod.fst hcount

/-! ## Calls -/

lemma delete_eq {t : TypeIdentity} (hi : i.engine = MemoryEngine.engine)
    (h : (key.translate s.surroundings).1 = .ok p) :
    i.delete t key s =
      (.ok (s.engine.found p (some (.ofActualType t))).length,
        { s with
          engine := s.engine.erase (p.intersect (.ofActualType t))
          surroundings := (key.translate s.surroundings).2 }) := by
  rw [delete, Answer.bind_ok (keyQuery_eq h), hi, ← found_intersect, ← countMatching_eq]
  rfl

/-- An object that is projected takes the place of the documents of a key. -/
lemma update_eq (hi : i.engine = MemoryEngine.engine) {v : Value} {d : Document}
    (h : (key.translate s.surroundings).1 = .ok p)
    (hd : (i.mapper.toDocument v (.of t.identity) s.clock).1 = .ok d) :
    i.update t key v s =
      (.ok (s.engine.found p (some (.ofActualType t.identity))).length,
        { engine := (s.engine.erase (p.intersect (.ofActualType t.identity))).pushAll [d]
          clock := (i.mapper.toDocument v (.of t.identity) s.clock).2
          surroundings := (key.translate s.surroundings).2 }) := by
  have hempty : d.isEmpty = false := FieldMapper.Writes.isEmpty_eq_false ⟨v, s.clock, hd⟩
  have hdocument : document (i.mapper.documentMapper t) (.of t.identity) v
      { s with surroundings := (key.translate s.surroundings).2 } =
        (.ok d, { s with
          clock := (i.mapper.toDocument v (.of t.identity) s.clock).2
          surroundings := (key.translate s.surroundings).2 }) := Prod.ext hd rfl
  rw [update, Answer.bind_ok (keyQuery_eq h), Answer.bind_ok hdocument, hi,
    ofAnswer_eq (MemoryEngine.replaceBy_eq hempty _ _), ← found_intersect, ← countMatching_eq]
  rfl

/-- **Deleting and updating hit what the query shows.** Take a key that is translated alike by the
query and by the call. The query of a type under that key counts its hits and yields them. Deleting
by the key gives the same number, takes the hits away and keeps all other documents in their slots,
after which the query counts none. Updating does the same and puts the document of its object
behind all others. -/
theorem delete_update_hit_query (config : IndexConfig) (m : FieldMapper) (t : ObjectType)
    (key : Expr ω) (p : Query) (s : IndexState MemoryEngine ω) (w : ω)
    (hquery : (key.translate w).1 = .ok p) (hcall : (key.translate s.surroundings).1 = .ok p)
    (hslots : s.engine.slots.size ≤ maxCount) :
    let i : ObjectIndex MemoryEngine := .withMapper MemoryEngine.engine config m
    ∃ (tq : TypedQuery) (hits : List Hit),
      ((i.query t).filter key w).1 = .ok tq ∧
      s.engine.IsRanking p (some (.ofActualType t.identity)) [] hits ∧
      (tq.count MemoryEngine.engine s.engine).1 = .ok hits.length ∧
      tq.documents.Yields MemoryEngine.engine s.engine (hits.map fun a => .ok a.2.stored) ∧
      ((i.delete t.identity key s).1 = .ok hits.length ∧
        s.engine.Clears (i.delete t.identity key s).2.engine hits ∧
        (tq.count MemoryEngine.engine (i.delete t.identity key s).2.engine).1 = .ok 0) ∧
      ∀ v, (∃ d, m.project v = .ok d) → ∃ left d,
        (m.toDocument v (.of t.identity) s.clock).1 = .ok d ∧
        (i.update t key v s).1 = .ok hits.length ∧ s.engine.Clears left hits ∧
        (i.update t key v s).2.engine = left.pushAll [d] := by
  intro i
  have hclears := clears_erase s.engine (p.intersect (.ofActualType t.identity))
  have hleft : ((s.engine.erase (p.intersect (.ofActualType t.identity))).found p
      (some (.ofActualType t.identity))) = [] := by
    rw [← found_intersect]
    exact found_without_self rfl
  rw [found_intersect] at hclears
  obtain ⟨hcount, hyields⟩ := keyed_eq (i := i) (t := t) (p := p) hslots
  refine ⟨i.keyed t p, s.engine.found p (some (.ofActualType t.identity)), filter_eq hquery,
    isRanking_found, hcount, hyields, ?_, fun v hv => ?_⟩
  · have hslots' : (s.engine.erase (p.intersect (.ofActualType t.identity))).slots.size ≤
        maxCount := by
      rw [size_erase]
      exact hslots
    have hnone := (keyed_eq (i := i) (t := t) (p := p) hslots').1
    rw [hleft] at hnone
    rw [delete_eq rfl hcall]
    exact ⟨rfl, hclears, hnone⟩
  · obtain ⟨p', hd⟩ := hv
    obtain ⟨d, hdocument⟩ := FieldMapper.exists_toDocument hd (.of t.identity) s.clock
    refine ⟨s.engine.erase (p.intersect (.ofActualType t.identity)), d, hdocument, ?_⟩
    rw [update_eq (i := i) rfl hcall hdocument]
    exact ⟨rfl, hclears, rfl⟩

/-- A key that reads its number anew each time, two notes that have it, another one, and a document
that has it and is no note. -/
theorem delete_update_hit_query_notes :
    let note : ObjectType := { name := "app::Note", schema := .any }
    let number (n : Int64) : Field := ⟨"id", .long n, .exact⟩
    let written (n : Int64) : Document :=
      ⟨[number n, ⟨"$type", .string "app::Note, app", ⟨true, true, false⟩⟩]⟩
    let key : Expr Nat := .and [.and [], (Property.ofName "id" (.leaf .integer)).term
      (.captured fun reads => (.long 1, reads + 1))]
    let p : Query := .range (.point "id" .long (.long 1))
    let m : MemoryEngine :=
      { slots := #[some (.ofDocument (written 1)), none, some (.ofDocument ⟨[number 1]⟩),
          some (.ofDocument (written 2)), some (.ofDocument (written 1))]
        live := 4 }
    let i : ObjectIndex MemoryEngine := .withMapper MemoryEngine.engine {} {}
    let s : IndexState MemoryEngine Nat := ⟨m, ⟨fun _ => 100, 0, 0⟩, 0⟩
    (key.translate 7).1 = .ok p ∧ (key.translate s.surroundings).1 = .ok p ∧
      s.engine.slots.size ≤ maxCount ∧
      (i.delete note.identity key s).1 = .ok 2 ∧
      m.Clears (i.delete note.identity key s).2.engine [(0, written 1), (4, written 1)] ∧
      ∃ left d, (i.update note key (.record "Note" [("id", .int 3)]) s).1 = .ok 2 ∧
        m.Clears left [(0, written 1), (4, written 1)] ∧
        (i.update note key (.record "Note" [("id", .int 3)]) s).2.engine = left.pushAll [d] := by
  intro note number written key p m i s
  have hquery : (key.translate 7).1 = .ok p := rfl
  have hcall : (key.translate s.surroundings).1 = .ok p := rfl
  have hslots : s.engine.slots.size ≤ maxCount := by decide
  obtain ⟨tq, hits, -, hranking, -, -, ⟨hdelete, hclears, -⟩, hupdate⟩ :=
    delete_update_hit_query {} {} note key p s 7 hquery hcall hslots
  have hfound : s.engine.found p (some (.ofActualType note.identity)) =
      [(0, written 1), (4, written 1)] := by decide +kernel
  obtain rfl : hits = [(0, written 1), (4, written 1)] :=
    hfound ▸ hranking.unique isRanking_found
  obtain ⟨left, d, -, hcount, hleft, hengine⟩ :=
    hupdate (.record "Note" [("id", .int 3)]) ⟨_, rfl⟩
  exact ⟨hquery, hcall, hslots, hdelete, hclears, left, d, hcount, hleft, hengine⟩

end ObjectIndex

end FieldSearch
