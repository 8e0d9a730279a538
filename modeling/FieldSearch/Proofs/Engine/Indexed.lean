import FieldSearch.Proofs.Engine.Matching
import FieldSearch.Proofs.Engine.Refinement

/-!
# What a search sees of a document

A document has fields that are indexed and fields that are not. Matching sees the indexed fields
alone: the terms are collected from them, and every leaf of a query asks for the flag
(`Query.finds_indexed`). So two engines that agree on them, address by address
(`MemoryEngine.indexedDocuments`), find documents at the same addresses.

Sorting does not ask for the flag. A key reads the first field of its name, indexed or not, and
what it reads is what it would read in the indexed fields alone if that first field is one of them
(`SortKey.value_indexed`). Where this holds of the keys and the matches, the hits are the same too.
Where it does not, documents that differ in nothing that is indexed may be ranked apart
(`MemoryEngine.hits_ne_of_value_ne`).

Main statement: `MemoryEngine.search_sees_indexed`.
-/

namespace FieldSearch

/-! ## Documents -/

/-- The part of a document that is indexed. -/
def Document.indexed (d : Document) : Document := ⟨d.fields.filter (·.option.indexed)⟩

variable {d : Document}

lemma Document.mem_indexed {f : Field} :
    f ∈ d.indexed.fields ↔ f ∈ d.fields ∧ f.option.indexed = true := List.mem_filter

namespace IndexedDocument

mutual

/-- A document is found by a query exactly if its indexed part is. -/
lemma satisfies_indexed (q : Query) :
    (ofDocument d.indexed).satisfies q = true ↔ (ofDocument d).satisfies q = true := by
  cases q with
  | all => simp only [satisfies]
  | term name term =>
    rw [satisfies_term_iff, satisfies_term_iff]
    constructor
    · rintro ⟨f, hf, hterm⟩
      exact ⟨f, (Document.mem_indexed.1 hf).1, hterm⟩
    · rintro ⟨f, hf, hname, hterm⟩
      exact ⟨f, Document.mem_indexed.2 ⟨hf, hterm.1⟩, hname, hterm⟩
  | range r =>
    rw [satisfies_range_iff, satisfies_range_iff]
    constructor
    · rintro ⟨f, hf, hrange⟩
      exact ⟨f, (Document.mem_indexed.1 hf).1, hrange⟩
    · rintro ⟨f, hf, hname, hindexed, hrange⟩
      exact ⟨f, Document.mem_indexed.2 ⟨hf, hindexed⟩, hname, hindexed, hrange⟩
  | intersection qs =>
    simp only [satisfies]
    exact satisfiesAll_indexed qs

lemma satisfiesAll_indexed (qs : List Query) :
    (ofDocument d.indexed).satisfiesAll qs = true ↔ (ofDocument d).satisfiesAll qs = true := by
  cases qs with
  | nil => simp only [satisfiesAll]
  | cons q qs =>
    simp only [satisfiesAll, Bool.and_eq_true, satisfies_indexed q, satisfiesAll_indexed qs]

end

end IndexedDocument

lemma Query.finds_indexed (q : Query) (d : Document) : q.finds d.indexed = q.finds d :=
  Bool.eq_iff_iff.2 (IndexedDocument.satisfies_indexed q)

namespace SortKey

variable {key : SortKey}

/-- A key whose field comes first as an indexed one reads nothing but indexed fields. -/
lemma value_indexed (h : ∀ f ∈ d.field? key.field, f.option.indexed = true) :
    key.value d.indexed = key.value d := by
  have hfield : d.indexed.field? key.field = d.field? key.field := by
    rw [Document.field?, Document.indexed, List.find?_filter]
    cases hfirst : d.field? key.field with
    | none =>
      rw [Document.field?, List.find?_eq_none] at hfirst
      refine List.find?_eq_none.2 fun f hf => ?_
      have hname := hfirst f hf
      simp_all
    | some f =>
      have hindexed := h f hfirst
      obtain ⟨hname, before, after, hfields, hbefore⟩ := List.find?_eq_some_iff_append.1 hfirst
      refine List.find?_eq_some_iff_append.2 ⟨by simp_all, before, after, hfields, fun g hg => ?_⟩
      have hother := hbefore g hg
      simp_all
  rw [value, value, hfield]

end SortKey

/-! ## Hits -/

/-- A hit with the indexed part of its document. -/
def Hit.indexed (a : Hit) : Hit := (a.1, a.2.indexed)

lemma map_fst_of_map_indexed {l l' : List Hit} (h : l.map Hit.indexed = l'.map Hit.indexed) :
    l.map (·.1) = l'.map (·.1) := by
  have haddress := congrArg (List.map Prod.fst) h
  rwa [List.map_map, List.map_map] at haddress

/-- The order of two hits depends on their addresses and on what the keys read. -/
lemma Precedes.indexed {keys : List SortKey} {a b : Hit}
    (ha : ∀ key ∈ keys, key.value a.2.indexed = key.value a.2)
    (hb : ∀ key ∈ keys, key.value b.2.indexed = key.value b.2) (h : Precedes keys a b) :
    Precedes keys a.indexed b.indexed := by
  induction h with
  | byAddress h => exact .byAddress h
  | @byKey key keys a b h =>
    have hputs : key.Puts a.2.indexed b.2.indexed :=
      (SortKey.puts_congr_left (ha key List.mem_cons_self)).2
        ((SortKey.puts_congr_right (hb key List.mem_cons_self)).2 h)
    exact .byKey hputs
  | @onTie key keys a b heq _ ih =>
    have htie : key.value a.2.indexed = key.value b.2.indexed := by
      rw [ha key List.mem_cons_self, hb key List.mem_cons_self, heq]
    exact .onTie htie (ih (fun k hk => ha k (List.mem_cons_of_mem _ hk))
      fun k hk => hb k (List.mem_cons_of_mem _ hk))

/-! ## Engines -/

namespace MemoryEngine

variable {m m' : MemoryEngine} {written written' : List Document} {q : Query}
  {filter : Option Query}

/-- The live documents by address, with their indexed fields alone. -/
def indexedDocuments (m : MemoryEngine) : List Hit := m.liveDocuments.map Hit.indexed

/-- The indexed parts of the matches are those of the live documents that are found by them. -/
lemma Tracks.map_indexed_found (h : m.Tracks written) :
    (m.found q filter).map Hit.indexed =
      m.indexedDocuments.filter fun a => q.finds a.2 && filter.all (·.finds a.2) := by
  have hfinds : (fun a : Hit => q.finds a.2 && filter.all (·.finds a.2)) ∘ Hit.indexed =
      fun a => q.finds a.2 && filter.all (·.finds a.2) := by
    funext a
    cases filter <;> simp [Hit.indexed, Query.finds_indexed]
  rw [h.found_eq_filter, indexedDocuments, List.filter_map, hfinds]

/-- Keys that read nothing but indexed fields rank the indexed parts as they rank the matches. -/
lemma IsRanking.sorted_indexed {keys : List SortKey} {ranking : List Hit}
    (h : m.IsRanking q filter keys ranking)
    (hkeys : ∀ key ∈ keys, ∀ a ∈ m.found q filter, key.value a.2.indexed = key.value a.2) :
    (ranking.map Hit.indexed).Pairwise (Precedes keys) := by
  have hreads {a : Hit} (ha : a ∈ ranking) :
      ∀ key ∈ keys, key.value a.2.indexed = key.value a.2 :=
    fun key hkey => hkeys key hkey a (h.perm_found.subset ha)
  exact List.pairwise_map.2 <| h.sorted.imp_of_mem fun ha hb hab =>
    hab.indexed (hreads ha) (hreads hb)

/-- Rankings by such keys are the same for engines that agree on the indexed parts. -/
lemma map_indexed_ranking {keys : List SortKey} {ranking ranking' : List Hit}
    (hindexed : (m.found q filter).map Hit.indexed = (m'.found q filter).map Hit.indexed)
    (h : m.IsRanking q filter keys ranking) (h' : m'.IsRanking q filter keys ranking')
    (hkeys : ∀ key ∈ keys, ∀ a ∈ m.found q filter, key.value a.2.indexed = key.value a.2)
    (hkeys' : ∀ key ∈ keys, ∀ a ∈ m'.found q filter, key.value a.2.indexed = key.value a.2) :
    ranking.map Hit.indexed = ranking'.map Hit.indexed := by
  have hperm : (ranking.map Hit.indexed).Perm (ranking'.map Hit.indexed) :=
    calc
      (ranking.map Hit.indexed).Perm ((m.found q filter).map Hit.indexed) := h.perm_found.map _
      _ = (m'.found q filter).map Hit.indexed := hindexed
      List.Perm _ (ranking'.map Hit.indexed) := (h'.perm_found.map _).symm
  exact hperm.eq_of_pairwise (fun _ _ _ _ hab hba => (hab.asymm hba).elim)
    (h.sorted_indexed hkeys) (h'.sorted_indexed hkeys')

/-- **A search sees what is indexed, and what its keys read.** Two engines that agree on the indexed
fields of their live documents, address by address, count the same matches, and a search that is
not cut off finds them at the same addresses. It has the same hits in the same order, cut off or
not, if each of its keys reads in each match what it reads in the indexed fields of the match alone,
as it does in any case without keys. -/
theorem search_sees_indexed (h : m.Tracks written) (h' : m'.Tracks written')
    (hindexed : m.indexedDocuments = m'.indexedDocuments) (q : Query) (filter : Option Query) :
    (engine.count q filter m).1 = (engine.count q filter m').1 ∧
    ∀ (sort : SortSpec) (limit : Nat),
      (m.top q filter sort limit).total = (m'.top q filter sort limit).total ∧
      ((m.top q filter sort limit).total ≤ limit →
        (m.top q filter sort limit).hits.Perm (m'.top q filter sort limit).hits) ∧
      ((∀ key ∈ sort.keys, ∀ a ∈ m.found q filter ++ m'.found q filter,
          key.value a.2.indexed = key.value a.2) →
        (engine.search q filter sort limit m).1 = (engine.search q filter sort limit m').1) := by
  have hfound : (m.found q filter).map Hit.indexed = (m'.found q filter).map Hit.indexed := by
    rw [h.map_indexed_found, h'.map_indexed_found, hindexed]
  have hlength : (m.found q filter).length = (m'.found q filter).length := by
    simpa only [List.length_map] using congrArg List.length hfound
  refine ⟨?_, fun sort limit => ?_⟩
  · change Except.ok (m.matching q filter).length = Except.ok (m'.matching q filter).length
    rw [← length_found, ← length_found, hlength]
  obtain ⟨ranking, hranking, -, htop⟩ := m.exists_ranking q filter sort
  obtain ⟨ranking', hranking', -, htop'⟩ := m'.exists_ranking q filter sort
  have htotal : ranking.length = ranking'.length := by
    rw [hranking.perm_found.length_eq, hranking'.perm_found.length_eq, hlength]
  rw [htop, htop']
  refine ⟨htotal, fun hle => ?_, fun hkeys => ?_⟩
  · change ranking.length ≤ limit at hle
    simp only [List.take_of_length_le hle, List.take_of_length_le (htotal ▸ hle)]
    calc
      (ranking.map (·.1)).Perm ((m.found q filter).map (·.1)) := hranking.perm_found.map _
      _ = (m'.found q filter).map (·.1) := map_fst_of_map_indexed hfound
      List.Perm _ (ranking'.map (·.1)) := (hranking'.perm_found.map _).symm
  · have hsame : ranking.map (·.1) = ranking'.map (·.1) :=
      map_fst_of_map_indexed <| map_indexed_ranking hfound hranking hranking'
        (fun key hkey a ha => hkeys key hkey a (List.mem_append_left _ ha))
        fun key hkey a ha => hkeys key hkey a (List.mem_append_right _ ha)
    change Except.ok (m.top q filter sort limit) = Except.ok (m'.top q filter sort limit)
    rw [htop, htop', htotal, List.map_take, List.map_take, hsame]

/-- Numbers that are indexed, with others behind them that are not. -/
theorem search_sees_indexed_numbers :
    let numbers (n k : Int64) : Document := ⟨[⟨"n", .long n, .exact⟩, ⟨"n", .long k, .storedOnly⟩]⟩
    let m := EngineCall.runAll [.write (numbers 2 7), .write (numbers 1 8)] {}
    let m' := EngineCall.runAll [.write (numbers 2 5), .write (numbers 1 3)] {}
    let sort : SortSpec := ⟨[⟨"n", .long, false⟩]⟩
    m.indexedDocuments = m'.indexedDocuments ∧
      (∀ key ∈ sort.keys, ∀ a ∈ m.found .all none ++ m'.found .all none,
        key.value a.2.indexed = key.value a.2) ∧
      (engine.search .all none sort 1 m).1 = (engine.search .all none sort 1 m').1 := by
  intro numbers m m' sort
  have hindexed : m.indexedDocuments = m'.indexedDocuments := by decide
  have hfirst : ∀ a ∈ m.found .all none ++ m'.found .all none,
      ∀ f ∈ a.2.field? "n", f.option.indexed = true := by decide
  have hkeys : ∀ key ∈ sort.keys, ∀ a ∈ m.found .all none ++ m'.found .all none,
      key.value a.2.indexed = key.value a.2 := by
    intro key hkey a ha
    obtain rfl := List.mem_singleton.1 hkey
    exact SortKey.value_indexed (hfirst a ha)
  have hsearch := (search_sees_indexed (EngineCall.tracks_runAll tracks_empty _)
    (EngineCall.tracks_runAll tracks_empty _) hindexed .all none).2 sort 1
  exact ⟨hindexed, hkeys, hsearch.2.2 hkeys⟩

/-! ### Where fields that are not indexed decide -/

/-- Two documents that a key tells apart are ranked by it, in whichever order they are written. -/
lemma hits_of_puts {key : SortKey} {d e : Document} (h : key.Puts d e) :
    (top (pushAll {} [d, e]) .all none ⟨[key]⟩ 2).hits = [0, 1] ∧
      (top (pushAll {} [e, d]) .all none ⟨[key]⟩ 2).hits = [1, 0] := by
  have hlive (a b : Document) : (pushAll {} [a, b]).found .all none = [(0, a), (1, b)] := by
    rw [found_all]
    rfl
  have hfirst : (pushAll {} [d, e]).IsRanking .all none [key] [(0, d), (1, e)] :=
    isRanking_of_perm (hlive d e ▸ .refl _) (List.pairwise_pair.2 (.byKey h))
  have hlast : (pushAll {} [e, d]).IsRanking .all none [key] [(1, d), (0, e)] :=
    isRanking_of_perm (hlive e d ▸ .swap _ _ _) (List.pairwise_pair.2 (.byKey h))
  constructor
  · rw [IsRanking.top_eq hfirst]
    rfl
  · rw [IsRanking.top_eq hlast]
    rfl

/-- The condition on the keys cannot be spared. Documents that agree on their indexed fields are
ranked by a key that does not read the same in them. -/
theorem hits_ne_of_value_ne {key : SortKey} {d e : Document} (hindexed : d.indexed = e.indexed)
    (h : key.value d ≠ key.value e) :
    (pushAll {} [d, e]).indexedDocuments = (pushAll {} [e, d]).indexedDocuments ∧
      (top (pushAll {} [d, e]) .all none ⟨[key]⟩ 2).hits ≠
        (top (pushAll {} [e, d]) .all none ⟨[key]⟩ 2).hits := by
  constructor
  · change [(0, d.indexed), (1, e.indexed)] = [(0, e.indexed), (1, d.indexed)]
    rw [hindexed]
  · rcases SortKey.puts_total h with hputs | hputs
    · rw [(hits_of_puts hputs).1, (hits_of_puts hputs).2]
      decide
    · rw [(hits_of_puts hputs).1, (hits_of_puts hputs).2]
      decide

/-- Two engines that differ in a field which is not indexed, and in nothing else, find the same
documents in different orders when they sort by it. -/
theorem unindexed_fields_rank :
    let numbers (n k : Int64) : Document := ⟨[⟨"n", .long n, .exact⟩, ⟨"k", .long k, .storedOnly⟩]⟩
    let m := EngineCall.runAll [.write (numbers 1 2), .write (numbers 1 1)] {}
    let m' := EngineCall.runAll [.write (numbers 1 1), .write (numbers 1 2)] {}
    let sort : SortSpec := ⟨[⟨"k", .long, false⟩]⟩
    m.indexedDocuments = m'.indexedDocuments ∧
      (engine.search .all none sort 2 m).1 = .ok ⟨2, [1, 0]⟩ ∧
      (engine.search .all none sort 2 m').1 = .ok ⟨2, [0, 1]⟩ := by
  intro numbers m m' sort
  exact ⟨by decide, by decide, by decide⟩

end MemoryEngine

end FieldSearch
