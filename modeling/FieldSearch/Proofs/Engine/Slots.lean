import FieldSearch.Proofs.Engine.Ranking
import Mathlib.Data.List.Forall2

/-!
# Slots of the memory engine

What writing and deleting do to the slots. A document that is written takes the next slot and
keeps it; deleting by a query empties the slots of the documents that match and touches no other
slot. `liveDocuments` is the content of the engine as a reader sees it: the documents in their
slots, by address.

Without an order the ranking of a filter is the list of the live documents that match it, which
may be described in any way (`isRanking_of_selects`). Deleting leaves a part of that list, in its
order (`found_without`), and writing goes on behind its end (`found_pushAll`).

A log that has a record for every slot is kept by both (`Logged`): deleting leaves it as it is and
writing goes on behind its end.
-/

namespace FieldSearch

namespace MemoryEngine

variable {m : MemoryEngine} {q : Query} {gone : Option Query}

/-- The live documents with their addresses, in order. -/
def liveDocuments (m : MemoryEngine) : List Hit :=
  m.slots.toList.zipIdx.filterMap fun (slot, address) => slot.map fun d => (address, d.document)

/-- The engine with documents in slots of their own. -/
def pushAll (m : MemoryEngine) (ds : List Document) : MemoryEngine :=
  ds.foldl (fun m d => m.push (.ofDocument d)) m

/-- The engine without the documents of a query, if there is one. -/
def without (m : MemoryEngine) : Option Query → MemoryEngine
  | none => m
  | some q => m.erase q

/-! ## Slots by address -/

lemma slots_pushAll (ds : List Document) :
    (m.pushAll ds).slots.toList = m.slots.toList ++ ds.map fun d => some (.ofDocument d) := by
  induction ds generalizing m with
  | nil => simp [pushAll]
  | cons d ds ih =>
    have hstep : m.pushAll (d :: ds) = (m.push (.ofDocument d)).pushAll ds := rfl
    rw [hstep, ih, push, Array.toList_push, List.append_assoc]
    rfl

lemma size_pushAll (m : MemoryEngine) (ds : List Document) :
    (m.pushAll ds).slots.size = m.slots.size + ds.length := by
  rw [← Array.length_toList, slots_pushAll, List.length_append, List.length_map,
    Array.length_toList]

/-- Writing leaves the slots before as they are. -/
lemma getElem?_pushAll {ds : List Document} {address : Nat} (h : address < m.slots.size) :
    (m.pushAll ds).slots[address]? = m.slots[address]? := by
  rw [← Array.getElem?_toList, slots_pushAll, List.getElem?_append_left h, Array.getElem?_toList]

lemma size_erase : (m.erase q).slots.size = m.slots.size := by
  simp only [erase, Array.size_map]

/-- Deleting keeps a document that does not match in its slot. -/
lemma getElem?_erase {address : Nat}
    (h : ∀ d, m.slots[address]? = some (some d) → d.satisfies q = false) :
    (m.erase q).slots[address]? = m.slots[address]? := by
  rw [erase, Array.getElem?_map]
  rcases hslot : m.slots[address]? with _ | _ | d
  · rfl
  · rfl
  · have hmatches : slotMatches q (some d) = false := h d hslot
    rw [Option.map_some, hmatches]
    rfl

lemma size_without : (m.without gone).slots.size = m.slots.size := by
  cases gone with
  | none => rfl
  | some q => exact size_erase

lemma getElem?_without {address : Nat}
    (h : ∀ q ∈ gone, ∀ d, m.slots[address]? = some (some d) → d.satisfies q = false) :
    (m.without gone).slots[address]? = m.slots[address]? := by
  cases gone with
  | none => rfl
  | some q => exact getElem?_erase (h q rfl)

lemma getElem?_without_eq_some {address : Nat} {x : IndexedDocument} :
    (m.without gone).slots[address]? = some (some x) ↔
      m.slots[address]? = some (some x) ∧ ∀ q ∈ gone, x.satisfies q = false := by
  cases gone with
  | none => simp [without]
  | some q =>
    simp only [without, erase, Array.getElem?_map, Option.map_eq_some_iff]
    constructor
    · rintro ⟨slot, hslot, h⟩
      split at h
      · cases h
      next hmatches =>
        subst h
        refine ⟨hslot, ?_⟩
        rintro q' ⟨⟩
        exact Bool.not_eq_true _ ▸ hmatches
    · rintro ⟨hslot, hspared⟩
      have hmatches : slotMatches q (some x) = false := hspared q rfl
      exact ⟨some x, hslot, by rw [hmatches]; rfl⟩

/-! ## Live documents -/

lemma mem_liveDocuments {a : Hit} :
    a ∈ m.liveDocuments ↔ ∃ d, m.slots[a.1]? = some (some d) ∧ d.document = a.2 := by
  obtain ⟨address, document⟩ := a
  simp only [liveDocuments, List.mem_filterMap, Prod.exists, List.mk_mem_zipIdx_iff_getElem?,
    Array.getElem?_toList]
  constructor
  · rintro ⟨slot, i, hslot, h⟩
    obtain ⟨d, rfl, hd⟩ := Option.map_eq_some_iff.1 h
    obtain ⟨rfl, rfl⟩ := Prod.mk.inj hd
    exact ⟨d, hslot, rfl⟩
  · rintro ⟨d, hslot, rfl⟩
    exact ⟨some d, address, hslot, rfl⟩

lemma liveDocuments_pairwise : m.liveDocuments.Pairwise fun a b => a.1 < b.1 := by
  refine pairwise_filterMap_zipIdx _ ?_
  rintro ⟨slot, address⟩ a ha
  obtain ⟨d, -, rfl⟩ := Option.map_eq_some_iff.1 ha
  rfl

/-- Documents that are written are live behind all others, at the next addresses. -/
lemma liveDocuments_pushAll (ds : List Document) :
    (m.pushAll ds).liveDocuments = m.liveDocuments ++ (ds.zipIdx m.slots.size).map Prod.swap := by
  rw [liveDocuments, slots_pushAll, List.zipIdx_append, List.filterMap_append, List.zipIdx_map,
    List.filterMap_map, ← List.filterMap_eq_map, Array.length_toList, Nat.zero_add]
  rfl

/-- The documents of the engine, in the order of their addresses. -/
def documents (m : MemoryEngine) : List Document := m.liveDocuments.map (·.2)

lemma documents_pushAll (ds : List Document) :
    (m.pushAll ds).documents = m.documents ++ ds := by
  have hnew : ((ds.zipIdx m.slots.size).map Prod.swap).map (·.2) = ds := by
    rw [List.map_map]
    exact List.zipIdx_map_fst _ _
  rw [documents, liveDocuments_pushAll, List.map_append, hnew, documents]

/-- Of the live documents, those that match a query are the ones to keep. -/
def Selects (m : MemoryEngine) (q : Query) (keep : Hit → Bool) : Prop :=
  ∀ (address : Nat) (d : IndexedDocument), m.slots[address]? = some (some d) →
    (keep (address, d.document) = true ↔ d.satisfies q = true)

/-- Without an order, the live documents that pass a filter are ranked by address. -/
lemma isRanking_of_selects {filter : Query} {keep : Hit → Bool} (h : m.Selects filter keep) :
    m.IsRanking .all (some filter) [] (m.liveDocuments.filter keep) := by
  constructor
  · rintro ⟨address, document⟩
    rw [List.mem_filter, mem_liveDocuments, IsMatch]
    constructor
    · rintro ⟨⟨d, hslot, rfl⟩, hkeep⟩
      have hfilter := (h address d hslot).1 hkeep
      exact ⟨d, hslot, rfl, rfl, fun p hp => Option.some.inj hp ▸ hfilter⟩
    · rintro ⟨d, hslot, rfl, -, hfilter⟩
      exact ⟨⟨d, hslot, rfl⟩, (h address d hslot).2 (hfilter filter rfl)⟩
  · have hsublist := List.filter_sublist (p := keep) (l := m.liveDocuments)
    exact (liveDocuments_pairwise.sublist hsublist).imp .byAddress

/-! ## Matches -/

section

variable {p : Query} {filter : Option Query}

lemma isRanking_found : m.IsRanking p filter [] (m.found p filter) :=
  ⟨fun _ => mem_found, found_pairwise.imp .byAddress⟩

lemma IsRanking.perm_found {keys : List SortKey} {ranking : List Hit}
    (h : m.IsRanking p filter keys ranking) : ranking.Perm (m.found p filter) :=
  h.perm isRanking_found

lemma IsRanking.length_le {keys : List SortKey} {ranking : List Hit}
    (h : m.IsRanking p filter keys ranking) : ranking.length ≤ m.slots.size := by
  rw [h.perm_found.length_eq, length_found]
  exact m.length_matching_le p filter

/-- All live documents match the query for everything. -/
lemma found_all : m.found .all none = m.liveDocuments := by
  refine isRanking_found.unique ⟨fun a => ?_, liveDocuments_pairwise.imp .byAddress⟩
  simp [mem_liveDocuments, IsMatch, IndexedDocument.satisfies]

/-- Whether a document stays while the documents of a query are deleted. -/
def spares (m : MemoryEngine) (gone : Option Query) (a : Hit) : Bool :=
  !gone.any fun q => slotMatches q m.slots[a.1]?.join

lemma spares_iff {a : Hit} {x : IndexedDocument} (hslot : m.slots[a.1]? = some (some x)) :
    m.spares gone a = true ↔ ∀ q ∈ gone, x.satisfies q = false := by
  cases gone <;> simp [spares, slotMatches, hslot]

/-- Deleting leaves a part of the matches, in their order. -/
lemma found_without :
    (m.without gone).found p filter = (m.found p filter).filter (m.spares gone) := by
  refine isRanking_found.unique ⟨fun a => ?_, ?_⟩
  · rw [List.mem_filter, mem_found, IsMatch, IsMatch]
    constructor
    · rintro ⟨⟨x, hslot, hmatch⟩, hspared⟩
      exact ⟨x, getElem?_without_eq_some.2 ⟨hslot, (spares_iff hslot).1 hspared⟩, hmatch⟩
    · rintro ⟨x, hleft, hmatch⟩
      obtain ⟨hslot, hspared⟩ := getElem?_without_eq_some.1 hleft
      exact ⟨⟨x, hslot, hmatch⟩, (spares_iff hslot).2 hspared⟩
  · exact (found_pairwise.sublist List.filter_sublist).imp .byAddress

/-- A query that deletes finds nothing behind it. -/
lemma found_without_self (hq : q ∈ gone) : (m.without gone).found q none = [] := by
  rw [found_without, List.filter_eq_nil_iff]
  intro a ha hspared
  obtain ⟨x, hslot, -, hmatch, -⟩ := mem_found.1 ha
  rw [(spares_iff hslot).1 hspared q hq] at hmatch
  cases hmatch

/-- Deleting by a query leaves the live documents that do not match it. -/
lemma liveDocuments_erase :
    (m.erase q).liveDocuments = m.liveDocuments.filter (· ∉ m.found q none) := by
  have hleft : (m.without (some q)).found .all none =
      (m.found .all none).filter (m.spares (some q)) := found_without
  rw [found_all, found_all, without] at hleft
  rw [hleft]
  refine List.filter_congr fun a ha => ?_
  obtain ⟨x, hslot, hdocument⟩ := mem_liveDocuments.1 ha
  rw [Bool.eq_iff_iff, decide_eq_true_iff, spares_iff hslot, mem_found, IsMatch]
  simp [hslot, hdocument]

/-- The matches, slot by slot. -/
lemma matching_eq_filterMap : m.matching p filter =
    m.slots.toList.zipIdx.filterMap fun e => (e.1.filter (·.passes p filter)).map (e.2, ·) := by
  rw [matching]
  congr 1
  funext e
  obtain ⟨slot, address⟩ := e
  cases slot with
  | none => rfl
  | some x => cases hx : x.passes p filter <;> simp [Option.filter_some, hx]

/-- Behind documents that are written, the matches are those of before and the new documents that
match, in the order in which they were written. -/
lemma found_pushAll_eq (m : MemoryEngine) (p : Query) (filter : Option Query)
    (ds : List Document) :
    (m.pushAll ds).found p filter = m.found p filter ++
      ((ds.zipIdx m.slots.size).map Prod.swap).filter fun a =>
        (IndexedDocument.ofDocument a.2).passes p filter := by
  rw [found, found, matching_eq_filterMap, matching_eq_filterMap, slots_pushAll, List.zipIdx_append,
    List.filterMap_append, List.map_append, Array.length_toList, Nat.zero_add, List.zipIdx_map,
    List.filterMap_map, List.filter_map, ← List.filterMap_eq_filter]
  congr 1
  rw [List.map_filterMap, List.map_filterMap]
  congr 1
  funext e
  cases hd : (IndexedDocument.ofDocument e.1).passes p filter with
  | true =>
    simp only [Function.comp, Prod.map, Option.filter_some, Option.guard, Prod.snd_swap, hd]
    rfl
  | false => simp [Option.filter_some, Option.guard, hd]

/-- Writing leaves the matches as they are, and new ones are behind them. -/
lemma found_pushAll (m : MemoryEngine) (p : Query) (filter : Option Query) (ds : List Document) :
    ∃ added, (m.pushAll ds).found p filter = m.found p filter ++ added ∧
      ∀ a ∈ added, m.slots.size ≤ a.1 := by
  refine ⟨_, found_pushAll_eq m p filter ds, fun a ha => ?_⟩
  obtain ⟨e, he, rfl⟩ := List.mem_map.1 (List.mem_of_mem_filter ha)
  exact List.le_snd_of_mem_zipIdx he

/-- The number of documents that a deletion takes away. -/
lemma countMatching_eq : m.countMatching q = (m.found q none).length := by
  have hcount : ∀ (slots : List (Option IndexedDocument)) (k : Nat),
      slots.countP (slotMatches q) = ((slots.zipIdx k).filterMap fun e =>
        (e.1.filter (·.passes q none)).map (e.2, ·)).length := by
    intro slots
    induction slots with
    | nil => exact fun k => rfl
    | cons slot slots ih =>
      intro k
      rw [List.countP_cons, List.zipIdx_cons, List.filterMap_cons, ih (k + 1)]
      cases slot with
      | none => rfl
      | some x =>
        cases hx : x.satisfies q <;>
          simp [slotMatches, IndexedDocument.passes, Option.filter_some, hx]
  rw [countMatching, ← Array.countP_toList, hcount _ 0, length_found, matching_eq_filterMap]

end

/-! ## Logs -/

/-- A log has a record for every slot, and a document that is in a slot is one of its record. -/
def Logged {α : Type} (R : α → Document → Prop) (log : List α) (m : MemoryEngine) : Prop :=
  List.Forall₂ (fun record slot => ∀ x ∈ slot, ∃ d, x = IndexedDocument.ofDocument d ∧ R record d)
    log m.slots.toList

namespace Logged

variable {α : Type} {R : α → Document → Prop} {log added : List α}

lemma length_eq (h : Logged R log m) : log.length = m.slots.size := List.Forall₂.length_eq h

/-- A live document is one of the record for its address. -/
lemma exists_record (h : Logged R log m) {address : Nat} {x : IndexedDocument}
    (hslot : m.slots[address]? = some (some x)) :
    ∃ record d, log[address]? = some record ∧ x = .ofDocument d ∧ R record d := by
  rw [← Array.getElem?_toList] at hslot
  obtain ⟨hlt, hget⟩ := List.getElem?_eq_some_iff.1 hslot
  have hlog : address < log.length := List.Forall₂.length_eq h ▸ hlt
  have hholds := List.Forall₂.get h hlog hlt
  rw [List.get_eq_getElem, List.get_eq_getElem, hget] at hholds
  obtain ⟨d, hx, hd⟩ := hholds x rfl
  exact ⟨log[address], d, List.getElem?_eq_getElem hlog, hx, hd⟩

lemma without (h : Logged R log m) (gone : Option Query) : Logged R log (m.without gone) := by
  cases gone with
  | none => exact h
  | some q =>
    rw [Logged, MemoryEngine.without, erase, Array.toList_map, List.forall₂_map_right_iff]
    refine h.imp fun record slot hslot => ?_
    split
    · exact fun x hx => absurd hx (Option.not_mem_none x)
    · exact hslot

lemma pushAll {ds : List Document} (h : Logged R log m) (hds : List.Forall₂ R added ds) :
    Logged R (log ++ added) (m.pushAll ds) := by
  rw [Logged, slots_pushAll]
  refine List.rel_append h (List.forall₂_map_right_iff.2 (hds.imp fun record d hd => ?_))
  rintro x ⟨⟩
  exact ⟨d, rfl, hd⟩

end Logged

/-! ## Calls -/

lemma write_empty {d : Document} (hd : d.isEmpty = true) (m : MemoryEngine) :
    engine.write d m = (.error .emptyDocument, m) := by
  simp only [engine, write, hd]
  rfl

lemma write_eq {d : Document} (hd : d.isEmpty = false) (m : MemoryEngine) :
    engine.write d m = (.ok (), m.pushAll [d]) := by
  simp only [engine, write, hd]
  rfl

lemma deleteBy_eq (q : Query) (m : MemoryEngine) :
    engine.deleteBy q m = (.ok (m.countMatching q), m.without (some q)) := rfl

lemma replaceBy_empty {d : Document} (hd : d.isEmpty = true) (q : Query) (m : MemoryEngine) :
    engine.replaceBy q d m = (.error .emptyDocument, m) := by
  simp only [engine, replaceBy, hd]
  rfl

lemma replaceBy_eq {d : Document} (hd : d.isEmpty = false) (q : Query) (m : MemoryEngine) :
    engine.replaceBy q d m = (.ok (m.countMatching q), (m.without (some q)).pushAll [d]) := by
  simp only [engine, replaceBy, hd]
  rfl

lemma doc_eq {address : Nat} {d : Document} (h : m.doc? address = some d) :
    engine.doc address m = (.ok d, m) := by
  simp only [engine, h]

lemma doc_eq_error {address : Nat} (h : m.doc? address = none) :
    engine.doc address m = (.error (.noDocument address), m) := by
  simp only [engine, h]

end MemoryEngine

end FieldSearch
