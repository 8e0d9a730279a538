import FieldSearch.Engine.Memory
import FieldSearch.Proofs.Engine.Order

/-!
# Ranked hits

Searching ranks all live documents that match and gives the first of them. The ranking is
described by what it holds and how it is ordered (`MemoryEngine.IsRanking`), and there is one for
every query, filter and order. A collector sees the matching documents by address and keeps no
more than its limit; after any number of them it keeps the first of a ranking of those it saw, so
the limit only cuts the ranking off and changes nothing before the cut.

Main statement: `MemoryEngine.search_eq_take_ranking`.
-/

namespace FieldSearch

/-! ## Keeping the best ranks -/

namespace BestCollector

lemma insert_perm (a : Ranked) (l : List Ranked) : (insert a l).Perm (a :: l) := by
  induction l with
  | nil => exact .refl _
  | cons b l ih =>
    rw [insert]
    split
    · exact .refl _
    · exact (ih.cons b).trans (.swap a b l)

/-- What is behind the first `k` ranks has no part in the first `k` ranks after inserting. -/
lemma take_insert (a : Ranked) (l : List Ranked) (k : Nat) :
    (insert a (l.take k)).take k = (insert a l).take k := by
  induction l generalizing k with
  | nil => rw [List.take_nil]
  | cons b l ih =>
    cases k with
    | zero => simp
    | succ k =>
      rw [List.take_succ_cons, insert, insert]
      split
      · cases k <;> simp [List.take_take]
      · rw [List.take_succ_cons, List.take_succ_cons, ih]

lemma insert_append_of_lt {a w : Ranked} (h : a.order w = .lt) (l : List Ranked) :
    insert a (l ++ [w]) = insert a l ++ [w] := by
  induction l with
  | nil => simp [insert, h]
  | cons b l ih =>
    rw [List.cons_append, insert, insert, ih]
    split <;> rfl

lemma insert_eq_append {a : Ranked} {l : List Ranked} (h : ∀ b ∈ l, a.order b ≠ .lt) :
    insert a l = l ++ [a] := by
  induction l with
  | nil => rfl
  | cons b l ih =>
    rw [insert, if_neg (h b List.mem_cons_self), ih fun c hc => h c (List.mem_cons_of_mem b hc)]
    rfl

variable {keys : List SortKey}

/-- A hit at a new address finds its place in a sorted list. -/
lemma exists_insert_rank {l : List Hit} (hl : l.Pairwise (Precedes keys)) {a : Hit}
    (ha : ∀ b ∈ l, a.1 ≠ b.1) :
    ∃ l' : List Hit, insert (a.rank keys) (l.map (Hit.rank keys)) = l'.map (Hit.rank keys) ∧
      l'.Perm (a :: l) ∧ l'.Pairwise (Precedes keys) := by
  induction l with
  | nil => exact ⟨[a], rfl, .refl _, List.pairwise_singleton _ _⟩
  | cons b l ih =>
    obtain ⟨hb, hl⟩ := List.pairwise_cons.1 hl
    by_cases hab : Precedes keys a b
    · refine ⟨a :: b :: l, ?_, .refl _, ?_⟩
      · rw [List.map_cons, insert, if_pos (rank_order_eq_lt_iff.2 hab)]
        rfl
      · refine List.pairwise_cons.2 ⟨?_, List.pairwise_cons.2 ⟨hb, hl⟩⟩
        intro c hc
        rcases List.mem_cons.1 hc with rfl | hc
        · exact hab
        · exact hab.trans (hb c hc)
    · have hba : Precedes keys b a :=
        (Precedes.total keys (ha b List.mem_cons_self)).resolve_left hab
      obtain ⟨l', hinsert, hperm, hsorted⟩ := ih hl fun c hc => ha c (List.mem_cons_of_mem b hc)
      refine ⟨b :: l', ?_, (hperm.cons b).trans (.swap a b l), ?_⟩
      · rw [List.map_cons, insert, if_neg (mt rank_order_eq_lt_iff.1 hab), hinsert]
        rfl
      · refine List.pairwise_cons.2 ⟨?_, hsorted⟩
        intro c hc
        rcases List.mem_cons.1 (hperm.mem_iff.1 hc) with rfl | hc
        · exact hba
        · exact hb c hc

/-- Keeping one more rank of the first `k` is inserting it among all of them and keeping the first
`k` again. -/
lemma keep_take {l : List Hit} (hl : l.Pairwise (Precedes keys)) (a : Hit) (k : Nat) :
    keep k (a.rank keys) ((l.take k).map (Hit.rank keys)) =
      (insert (a.rank keys) (l.map (Hit.rank keys))).take k := by
  rw [← take_insert, ← List.map_take]
  have hkept := List.Pairwise.sublist (List.take_sublist k l) hl
  have hlength := List.length_take_le k l
  generalize l.take k = kept at hkept hlength
  have hinsert := (insert_perm (a.rank keys) (kept.map (Hit.rank keys))).length_eq
  rw [List.length_cons, List.length_map] at hinsert
  by_cases hlt : kept.length < k
  · rw [keep, List.length_map, if_pos hlt, List.take_of_length_le (by omega)]
  rw [keep, List.length_map, if_neg hlt]
  rcases List.eq_nil_or_concat kept with rfl | ⟨best, worst, rfl⟩
  · obtain rfl : k = 0 := by simpa using hlt
    rfl
  rw [List.concat_eq_append] at *
  rw [List.length_append, List.length_singleton] at hlength hlt
  simp only [List.map_append, List.map_singleton, List.getLast?_concat, List.dropLast_concat]
  by_cases ha : Precedes keys a worst
  · -- The worst kept rank is the one that falls behind the first `k`.
    rw [if_pos (rank_order_eq_lt_iff.2 ha), insert_append_of_lt (rank_order_eq_lt_iff.2 ha)]
    have hbest := (insert_perm (a.rank keys) (best.map (Hit.rank keys))).length_eq
    rw [List.length_cons, List.length_map] at hbest
    rw [List.take_append_of_le_length (by omega), List.take_of_length_le (by omega)]
  · -- No kept rank is behind the new one, so the new one falls behind all of them.
    rw [if_neg (mt rank_order_eq_lt_iff.1 ha)]
    have hall : ∀ r ∈ (best ++ [worst]).map (Hit.rank keys), (a.rank keys).order r ≠ .lt := by
      intro r hr hlt
      obtain ⟨b, hb, rfl⟩ := List.mem_map.1 hr
      have hab := rank_order_eq_lt_iff.1 hlt
      rcases List.mem_append.1 hb with hb | hb
      · exact ha (hab.trans ((List.pairwise_append.1 hkept).2.2 b hb worst (by simp)))
      · rw [List.mem_singleton.1 hb] at hab
        exact ha hab
    rw [List.map_append, List.map_singleton] at hall
    rw [insert_eq_append hall, List.take_append_of_le_length (by simp; omega),
      List.take_of_length_le (by simp; omega)]

/-- After any number of hits, the kept ranks are the first ones of a ranking of all hits. The
ranking does not depend on how many are kept. -/
lemma exists_foldl_keep (found : List Hit) {l : List Hit} (hl : l.Pairwise (Precedes keys))
    (haddress : (found ++ l).Pairwise fun a b => a.1 ≠ b.1) :
    ∃ l' : List Hit, l'.Perm (found ++ l) ∧ l'.Pairwise (Precedes keys) ∧
      ∀ k, found.foldl (fun hits a => keep k (a.rank keys) hits)
        ((l.take k).map (Hit.rank keys)) = (l'.take k).map (Hit.rank keys) := by
  induction found generalizing l with
  | nil => exact ⟨l, .refl _, hl, fun _ => rfl⟩
  | cons a found ih =>
    obtain ⟨hfresh, haddress⟩ := List.pairwise_cons.1 haddress
    obtain ⟨l₁, hinsert, hperm₁, hsorted₁⟩ :=
      exists_insert_rank hl fun b hb => hfresh b (List.mem_append_right found hb)
    have hperm : (found ++ l₁).Perm (a :: (found ++ l)) :=
      (hperm₁.append_left found).trans List.perm_middle
    have haddress₁ : (found ++ l₁).Pairwise fun a b => a.1 ≠ b.1 :=
      (hperm.pairwise_iff fun h => h.symm).2 (List.pairwise_cons.2 ⟨hfresh, haddress⟩)
    obtain ⟨l', hperm', hsorted', hkeep⟩ := ih hsorted₁ haddress₁
    refine ⟨l', hperm'.trans hperm, hsorted', fun k => ?_⟩
    rw [List.foldl_cons, keep_take hl, hinsert, ← List.map_take]
    exact hkeep k

/-- Taking documents one by one keeps their ranks one by one. -/
lemma foldl_collect (c : BestCollector) (found : List (Nat × IndexedDocument)) :
    found.foldl (fun c (address, d) => c.collect address d.document) c =
      { c with
        hits := (found.map fun (address, d) => (address, d.document)).foldl
          (fun hits a => keep c.limit (Hit.rank c.keys a) hits) c.hits
        total := c.total + found.length } := by
  induction found generalizing c with
  | nil => rfl
  | cons e found ih =>
    rw [List.foldl_cons, ih]
    simp only [collect, Hit.rank, List.map_cons, List.foldl_cons, List.length_cons]
    congr 1
    omega

end BestCollector

namespace FirstCollector

/-- The first hits are kept, and all are counted. -/
lemma foldl_collect (c : FirstCollector) (h : c.hits.length ≤ c.limit)
    (found : List (Nat × IndexedDocument)) :
    found.foldl (fun c (address, _) => c.collect address) c =
      { c with
        hits := (c.hits ++ found.map (·.1)).take c.limit
        total := c.total + found.length } := by
  induction found generalizing c with
  | nil => simp [List.take_of_length_le h]
  | cons e found ih =>
    obtain ⟨address, d⟩ := e
    have hstep : (c.collect address).hits.length ≤ c.limit := by
      unfold collect
      split
      · rw [List.length_append, List.length_singleton]
        omega
      · exact h
    rw [List.foldl_cons, ih _ hstep]
    simp only [collect, List.map_cons, List.length_cons]
    congr 1
    · split
      · rw [List.append_assoc, List.singleton_append]
      · rw [List.take_append_of_le_length (by omega), List.take_append_of_le_length (by omega)]
    · omega

end FirstCollector

/-! ## The ranking of a query -/

namespace MemoryEngine

variable (m : MemoryEngine) (q : Query) (filter : Option Query)

/-- A live document that matches a query and a filter, at its address. -/
def IsMatch (a : Hit) : Prop :=
  ∃ d, m.slots[a.1]? = some (some d) ∧ d.document = a.2 ∧ d.satisfies q = true ∧
    ∀ p ∈ filter, d.satisfies p = true

/-- All matches of a query and a filter, each once and in order. -/
structure IsRanking (keys : List SortKey) (ranking : List Hit) : Prop where
  mem_iff : ∀ a, a ∈ ranking ↔ m.IsMatch q filter a
  sorted : ranking.Pairwise (Precedes keys)

variable {m q filter}

lemma IsRanking.nodup {keys : List SortKey} {ranking : List Hit}
    (h : m.IsRanking q filter keys ranking) : ranking.Nodup := by
  refine h.sorted.imp ?_
  rintro a b hab rfl
  exact Precedes.irrefl keys a hab

/-- Rankings by any keys hold the same matches. -/
lemma IsRanking.perm {keys keys' : List SortKey} {l l' : List Hit}
    (h : m.IsRanking q filter keys l) (h' : m.IsRanking q filter keys' l') : l.Perm l' :=
  (List.perm_ext_iff_of_nodup h.nodup h'.nodup).2 fun a => by rw [h.mem_iff, h'.mem_iff]

lemma IsRanking.unique {keys : List SortKey} {l l' : List Hit}
    (h : m.IsRanking q filter keys l) (h' : m.IsRanking q filter keys l') : l = l' :=
  (h.perm h').eq_of_pairwise (fun _ _ _ _ hab hba => (hab.asymm hba).elim) h.sorted h'.sorted

/-- A ranking depends on the slots alone. -/
lemma IsRanking.congr {m' : MemoryEngine} {keys : List SortKey} {ranking : List Hit}
    (h : m.IsRanking q filter keys ranking) (hslots : m'.slots = m.slots) :
    m'.IsRanking q filter keys ranking := by
  refine ⟨fun a => ?_, h.sorted⟩
  rw [h.mem_iff a, IsMatch, IsMatch, hslots]

/-- A match is what a reader gets at its address. -/
lemma doc?_of_isMatch {a : Hit} (h : m.IsMatch q filter a) : m.doc? a.1 = some a.2.stored := by
  obtain ⟨d, hslot, hdocument, -⟩ := h
  rw [doc?, hslot, ← hdocument]
  rfl

lemma passes_iff {d : IndexedDocument} :
    d.passes q filter = true ↔ d.satisfies q = true ∧ ∀ p ∈ filter, d.satisfies p = true := by
  cases filter <;> simp [IndexedDocument.passes, and_comm]

lemma mem_matching {address : Nat} {d : IndexedDocument} :
    (address, d) ∈ m.matching q filter ↔
      m.slots[address]? = some (some d) ∧ d.passes q filter = true := by
  simp only [matching, List.mem_filterMap, Prod.exists, List.mk_mem_zipIdx_iff_getElem?,
    Array.getElem?_toList]
  constructor
  · rintro ⟨slot, i, hslot, h⟩
    cases slot with
    | none => cases h
    | some e =>
      obtain ⟨he, h⟩ := Option.ite_none_right_eq_some.1 h
      obtain ⟨rfl, rfl⟩ := Prod.mk.inj (Option.some.inj h)
      exact ⟨hslot, he⟩
  · rintro ⟨hslot, hd⟩
    exact ⟨some d, address, hslot, by simp [hd]⟩

/-- What is kept of a list under the places of its elements is in the order of the places. -/
lemma pairwise_filterMap_zipIdx {α β : Type} (l : List α) {f : α × Nat → Option (Nat × β)}
    (h : ∀ p, ∀ b ∈ f p, b.1 = p.2) : (l.zipIdx.filterMap f).Pairwise fun a b => a.1 < b.1 := by
  have hindex : l.zipIdx.Pairwise fun a b => a.2 < b.2 := by
    refine List.pairwise_map.1 ?_
    rw [List.zipIdx_map_snd]
    exact List.pairwise_lt_range'
  rw [List.pairwise_filterMap]
  refine hindex.imp fun {p p'} hlt a ha b hb => ?_
  rw [h p a ha, h p' b hb]
  exact hlt

lemma matching_pairwise : (m.matching q filter).Pairwise fun a b => a.1 < b.1 := by
  refine pairwise_filterMap_zipIdx _ ?_
  rintro ⟨slot, address⟩ a ha
  cases slot <;> simp at ha
  rw [← ha.2]

variable (m q filter) in
/-- The matches by address. -/
def found : List Hit := (m.matching q filter).map fun (address, d) => (address, d.document)

lemma mem_found {a : Hit} : a ∈ m.found q filter ↔ m.IsMatch q filter a := by
  simp only [found, IsMatch, List.mem_map, Prod.exists, mem_matching, passes_iff]
  constructor
  · rintro ⟨address, d, ⟨hslot, hd⟩, rfl⟩
    exact ⟨d, hslot, rfl, hd⟩
  · rintro ⟨d, hslot, hdocument, hd⟩
    exact ⟨a.1, d, ⟨hslot, hd⟩, by rw [hdocument]⟩

lemma isRanking_of_perm {keys : List SortKey} {ranking : List Hit}
    (hperm : ranking.Perm (m.found q filter)) (hsorted : ranking.Pairwise (Precedes keys)) :
    m.IsRanking q filter keys ranking :=
  ⟨fun _ => hperm.mem_iff.trans mem_found, hsorted⟩

lemma found_pairwise : (m.found q filter).Pairwise fun a b => a.1 < b.1 :=
  List.pairwise_map.2 matching_pairwise

lemma length_found : (m.found q filter).length = (m.matching q filter).length :=
  List.length_map _

lemma length_matching_le (m : MemoryEngine) (q : Query) (filter : Option Query) :
    (m.matching q filter).length ≤ m.slots.size :=
  calc
    (m.matching q filter).length ≤ m.slots.toList.zipIdx.length := List.length_filterMap_le _ _
    _ = m.slots.size := by rw [List.length_zipIdx, Array.length_toList]

lemma top_of_natural {sort : SortSpec} (h : sort.keys = []) (limit : Nat) :
    m.top q filter sort limit =
      ⟨(m.found q filter).length, ((m.found q filter).take limit).map (·.1)⟩ := by
  have hnatural : sort.isNatural = true := by rw [SortSpec.isNatural, h]; rfl
  rw [top, if_pos hnatural, FirstCollector.foldl_collect _ (Nat.zero_le _)]
  simp only [List.nil_append, Nat.zero_add, found, List.length_map, List.map_take, List.map_map]
  rfl

lemma top_of_keys {sort : SortSpec} (h : sort.keys ≠ []) (limit : Nat) :
    m.top q filter sort limit =
      ⟨(m.found q filter).length,
        ((m.found q filter).foldl
          (fun hits a => BestCollector.keep limit (a.rank sort.keys) hits) []).map
            Ranked.address⟩ := by
  have hnatural : ¬ sort.isNatural = true := by rwa [SortSpec.isNatural, List.isEmpty_iff]
  rw [top, if_neg hnatural, BestCollector.foldl_collect]
  simp [found, BestCollector.addresses]

/-- Every query has a ranking, and searching cuts it off at the limit. -/
theorem exists_ranking (m : MemoryEngine) (q : Query) (filter : Option Query) (sort : SortSpec) :
    ∃ ranking, m.IsRanking q filter sort.keys ranking ∧
      ranking.length = (m.matching q filter).length ∧
      ∀ limit, m.top q filter sort limit =
        ⟨ranking.length, (ranking.take limit).map (·.1)⟩ := by
  by_cases hkeys : sort.keys = []
  · refine ⟨m.found q filter, ⟨fun _ => mem_found, ?_⟩, length_found, top_of_natural hkeys⟩
    rw [hkeys]
    exact found_pairwise.imp .byAddress
  · have haddress : (m.found q filter ++ []).Pairwise fun a b : Hit => a.1 ≠ b.1 := by
      rw [List.append_nil]
      exact found_pairwise.imp Nat.ne_of_lt
    obtain ⟨ranking, hperm, hsorted, hkeep⟩ :=
      BestCollector.exists_foldl_keep (m.found q filter) (.nil (R := Precedes sort.keys)) haddress
    rw [List.append_nil] at hperm
    refine ⟨ranking, isRanking_of_perm hperm hsorted, hperm.length_eq.trans length_found,
      fun limit => ?_⟩
    have hhits := hkeep limit
    rw [List.take_nil, List.map_nil] at hhits
    rw [top_of_keys hkeys, hhits, hperm.length_eq, List.map_map]
    rfl

/-- A search is cut off a ranking, whichever way that is known to be one. -/
lemma IsRanking.top_eq {sort : SortSpec} {ranking : List Hit}
    (h : m.IsRanking q filter sort.keys ranking) (limit : Nat) :
    m.top q filter sort limit = ⟨ranking.length, (ranking.take limit).map (·.1)⟩ := by
  obtain ⟨ranking', h', -, htop⟩ := m.exists_ranking q filter sort
  rw [h.unique h', htop]

end MemoryEngine

end FieldSearch
