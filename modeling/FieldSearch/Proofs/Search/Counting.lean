import FieldSearch.Proofs.Search.Window
import FieldSearch.Search.Executor

/-!
# Counting agrees with enumerating

The results of a context are counted without being loaded: the engine counts the matches, or a
search for one hit gives their total, and the window is cut out of that number alone. Enumerating
cuts the same window out of the ranked matches themselves, in batches or by one bounded search.

`QueryContext.share` is the number of results that a context leaves of `n` matches. It is the
length of the window (`length_windowed`) and what the arithmetic on totals comes to
(`window_sub_eq_share`), so the two ways agree whatever the order, the batches and the window.

Main statement: `MemoryEngine.count_eq_length_enumerate`.
-/

namespace FieldSearch

namespace QueryContext

variable (c : QueryContext)

/-- The number of results that a context leaves of `n` matches. -/
def share (n : Nat) : Nat :=
  match c.take with
  | none => n - c.skip.getD 0
  | some most => min most (n - c.skip.getD 0)

/-- The searches made to count: one for an order, none if no results may be taken. -/
def countSearches : Nat := if c.take = some 0 then 0 else if c.sort.isNatural then 0 else 1

lemma length_windowed {α : Type} (ranking : List α) :
    (c.windowed ranking).length = c.share ranking.length := by
  unfold windowed share
  cases c.take with
  | none => simp only [List.length_drop]
  | some most => simp only [List.length_take, List.length_drop]

lemma share_le (n : Nat) : c.share n ≤ n := by
  unfold share
  cases c.take with
  | none => exact Nat.sub_le _ _
  | some most => exact Nat.le_trans (Nat.min_le_right _ _) (Nat.sub_le _ _)

variable {total : Nat}

/-- The window of a total lies inside it, and does not end before it starts. -/
lemma window_bounds (htotal : total ≤ maxCount) :
    (window total c.skip c.take).1 ≤ (window total c.skip c.take).2 ∧
      (window total c.skip c.take).2 ≤ total := by
  unfold window
  have hstart : min (c.skip.getD 0) total ≤ total := Nat.min_le_right _ _
  cases c.take with
  | none => exact ⟨hstart, Nat.le_refl _⟩
  | some most =>
    refine ⟨?_, Nat.min_le_right _ _⟩
    simp only [saturatingAdd]
    omega

/-- The end of the window saturates only where the total has ended already. -/
lemma window_sub_eq_share (htotal : total ≤ maxCount) :
    (window total c.skip c.take).2 - (window total c.skip c.take).1 = c.share total := by
  unfold window share
  cases c.take with
  | none =>
    simp only
    omega
  | some most =>
    simp only [saturatingAdd]
    omega

end QueryContext

namespace MemoryEngine

open Enumeration

variable {m : MemoryEngine}

/-- The total of a context is the number of matches, counted or searched for. -/
lemma total_eq (c : QueryContext) (filter : Option Query) (m : MemoryEngine) :
    engine.total c filter m =
      (.ok (m.matching c.predicate filter).length,
        { m with searches := m.searches + if c.sort.isNatural then 0 else 1 }) := by
  unfold Engine.total
  by_cases hnatural : c.sort.isNatural
  · rw [if_pos hnatural, if_pos hnatural]
    rfl
  · obtain ⟨ranking, -, hlength, htop⟩ := m.exists_ranking c.predicate filter c.sort
    have hsearch : engine.search c.predicate filter c.sort 1 m =
        (.ok (m.top c.predicate filter c.sort 1), { m with searches := m.searches + 1 }) := rfl
    rw [if_neg hnatural, if_neg hnatural, Answer.bind_ok hsearch, htop, ← hlength]
    rfl

/-- Counting gives the share of the matches, and only searches are left behind. -/
lemma count_eq_share (c : QueryContext) (filter : Option Query)
    (hlength : (m.matching c.predicate filter).length ≤ maxCount) :
    c.count engine filter m =
      (.ok (c.share (m.matching c.predicate filter).length),
        { m with searches := m.searches + c.countSearches }) := by
  unfold QueryContext.count QueryContext.countSearches
  by_cases htake : c.take = some 0
  · -- Nothing may be taken, so the engine is not asked.
    rw [if_pos htake, if_pos htake]
    have hshare : c.share (m.matching c.predicate filter).length = 0 := by
      simp only [QueryContext.share, htake, Nat.zero_min]
    rw [hshare]
    rfl
  · rw [if_neg htake, if_neg htake]
    have hacquire : engine.acquire m = (.ok (), { m with leases := m.leases + 1 }) := rfl
    have hleased := Engine.leased_eq hacquire
      (total_eq c filter { m with leases := m.leases + 1 })
    have hmatching : ({ m with leases := m.leases + 1 } : MemoryEngine).matching c.predicate
        filter = m.matching c.predicate filter := rfl
    rw [Answer.bind_ok hleased, hmatching, ← c.window_sub_eq_share hlength]
    rfl

/-- **Counting agrees with enumerating.** The count of a context is the number of documents that
its enumeration yields from the same state, none of them a failure. It is the number of matches
less those that are skipped, cut to what may be taken, in every order; and neither the end of the
window nor its length leaves the range of counts on the way. The slots of an engine are a count
themselves. -/
theorem count_eq_length_enumerate (config : ExecutorConfig) (c : QueryContext)
    (filter : Option Query) (m : MemoryEngine) (hslots : m.slots.size ≤ maxCount) :
    ∃ (n : Nat) (ds : List Document) (m' : MemoryEngine),
      n = (m.matching c.predicate filter).length ∧
      Drains engine (.ofContext config c filter) m (ds.map .ok) m' ∧
      (Enumeration.ofContext config c filter).toList engine m = (ds.map .ok, m') ∧
      c.count engine filter m =
        (.ok ds.length, { m with searches := m.searches + c.countSearches }) ∧
      (∀ sort : SortSpec,
        (QueryContext.count engine { c with sort } filter m).1 = .ok ds.length) ∧
      ds.length = c.share n ∧
      (window n c.skip c.take).1 ≤ (window n c.skip c.take).2 ∧
      (window n c.skip c.take).2 ≤ n ∧ n ≤ maxCount := by
  obtain ⟨ranking, h, hlength, -⟩ := m.exists_ranking c.predicate filter c.sort
  have hmatching : (m.matching c.predicate filter).length ≤ maxCount :=
    Nat.le_trans (m.length_matching_le c.predicate filter) hslots
  have hdrains := drains_ofContext config c filter h (Nat.le_trans h.length_le hslots)
  have hshare : ((c.windowed ranking).map (·.2.stored)).length =
      c.share (m.matching c.predicate filter).length := by
    rw [List.length_map, c.length_windowed, hlength]
  have hlist : (c.windowed ranking).map (fun a => .ok a.2.stored) =
      ((c.windowed ranking).map (·.2.stored)).map (Except.ok (ε := Error)) := by
    rw [List.map_map]
    rfl
  rw [hlist] at hdrains
  refine ⟨_, (c.windowed ranking).map (·.2.stored), _, rfl, hdrains, hdrains.toList_eq ?_ ?_, ?_,
    fun sort => ?_, hshare, (c.window_bounds hmatching).1, (c.window_bounds hmatching).2,
    hmatching⟩
  · intro r hr
    obtain ⟨d, -, rfl⟩ := List.mem_map.1 hr
    exact ⟨d, rfl⟩
  · rw [List.length_map, hshare]
    have hextent : (m.matching c.predicate filter).length ≤ engine.extent m :=
      m.length_matching_le c.predicate filter
    have hle := c.share_le (m.matching c.predicate filter).length
    omega
  · rw [hshare]
    exact count_eq_share c filter hmatching
  · rw [hshare, count_eq_share { c with sort } filter hmatching]
    rfl

/-- Two of three matches, in descending order and behind the first one. -/
theorem count_eq_length_enumerate_descending :
    let number (n : Int64) : Document := ⟨[⟨"n", .long n, ⟨true, true, false⟩⟩]⟩
    let m : MemoryEngine :=
      { slots := #[some (.ofDocument (number 3)), none, some (.ofDocument (number 5)),
          some (.ofDocument (number 4))]
        live := 3 }
    let c : QueryContext :=
      { sort := ⟨[⟨"n", .long, true⟩]⟩, skip := some 1, take := some maxCount }
    m.slots.size ≤ maxCount ∧
      Drains engine (.ofContext ⟨0⟩ c none) m [.ok (number 4), .ok (number 3)]
        { m with searches := 1 } ∧
      (c.count engine none m).1 = .ok 2 := by
  intro number m c
  have hslots : m.slots.size ≤ maxCount := by decide
  obtain ⟨n, ds, m', -, hdrains, htoList, hcount, -⟩ :=
    count_eq_length_enumerate ⟨0⟩ c none m hslots
  have hresults : (Enumeration.ofContext ⟨0⟩ c none).toList engine m =
      ([.ok (number 4), .ok (number 3)], { m with searches := 1 }) := by cbv
  rw [hresults] at htoList
  obtain ⟨hdocuments, hstate⟩ := Prod.mk.inj htoList
  have hlength : ds.length = 2 := by
    rw [← List.length_map (f := Except.ok (ε := Error)), ← hdocuments]
    rfl
  rw [← hdocuments, ← hstate] at hdrains
  exact ⟨hslots, hdrains, by rw [hcount, hlength]⟩

end MemoryEngine

end FieldSearch
