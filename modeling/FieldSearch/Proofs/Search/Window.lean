import FieldSearch.Proofs.Engine.Slots
import FieldSearch.Proofs.Search.Draining
import Mathlib

/-!
# Enumerations yield windows

While nothing is written, the memory engine ranks the matches of a query the same way each time,
so every fetch sees one ranking. A fetch at an offset gets the next batch of that ranking, since
the search it makes is cut off just behind the batch; the batches of an enumeration are then
consecutive pieces of the ranking, from the ranks that are skipped on.

The offset never goes beyond the matches unless it starts there, so it stays a count however many
batches are fetched, and the end of a batch that is no count any more only makes the search cut off
nothing.

Main statement: `MemoryEngine.enumerate_eq_window`.
-/

namespace FieldSearch

/-- The part of a ranking that a context asks for. -/
def QueryContext.windowed {α : Type} (c : QueryContext) (ranking : List α) : List α :=
  match c.take with
  | none => ranking.drop (c.skip.getD 0)
  | some n => (ranking.drop (c.skip.getD 0)).take n

/-- The searches made while the results of a context are enumerated to the end, `n` being the
number of matches. -/
def QueryContext.searches (config : ExecutorConfig) (c : QueryContext) (n : Nat) : Nat :=
  match c.take with
  | none => (n - c.skip.getD 0) / max 1 config.batchSize + 1
  | some 0 => 0
  | some _ => 1

lemma QueryContext.length_windowed_le {α : Type} (c : QueryContext) (ranking : List α) :
    (c.windowed ranking).length ≤ ranking.length := by
  unfold windowed
  split <;> simp only [List.length_take, List.length_drop] <;> omega

lemma take_saturatingAdd {α : Type} {l : List α} (h : l.length ≤ maxCount) (m n : Nat) :
    l.take (saturatingAdd m n) = l.take (m + n) := by
  unfold saturatingAdd
  by_cases hle : m + n ≤ maxCount
  · rw [Nat.min_eq_left hle]
  · rw [Nat.min_eq_right (by omega), List.take_of_length_le h, List.take_of_length_le (by omega)]

namespace MemoryEngine

open Enumeration

variable {m m' : MemoryEngine} {ranking : List Hit} {it it' : Enumeration}

/-! ## One fetch -/

/-- The documents of live hits are loaded in order, and nothing changes. -/
lemma load_eq {l : List Hit} (h : ∀ a ∈ l, m.doc? a.1 = some a.2.stored) :
    load engine (l.map (·.1)) m = (.ok (l.map (·.2.stored)), m) := by
  induction l with
  | nil => rfl
  | cons a l ih =>
    rw [List.map_cons, load, Answer.bind_ok (doc_eq (h a List.mem_cons_self)),
      Answer.bind_ok (ih fun b hb => h b (List.mem_cons_of_mem a hb))]
    rfl

/-- What a fetch loads: the hits of its search from the offset on are the next batch. -/
lemma hits_drop_offset (h : m.IsRanking it.predicate it.filter it.sort.keys ranking)
    (hlength : ranking.length ≤ maxCount) :
    (m.top it.predicate it.filter it.sort (saturatingAdd it.offset it.mode.size)).hits.drop
      it.offset = ((ranking.drop it.offset).take it.mode.size).map (·.1) := by
  rw [h.top_eq, take_saturatingAdd hlength, ← List.map_drop, List.drop_take,
    Nat.add_sub_cancel_left]

lemma fetch_eq (h : m.IsRanking it.predicate it.filter it.sort.keys ranking)
    (hlength : ranking.length ≤ maxCount) :
    it.fetch engine m =
      (.ok (((ranking.drop it.offset).take it.mode.size).map (·.2.stored)),
        { m with searches := m.searches + 1 }) := by
  have hsearch : engine.search it.predicate it.filter it.sort
      (saturatingAdd it.offset it.mode.size) m =
        (.ok (m.top it.predicate it.filter it.sort (saturatingAdd it.offset it.mode.size)),
          { m with searches := m.searches + 1 }) := rfl
  have hload : load engine (((ranking.drop it.offset).take it.mode.size).map (·.1))
      { m with searches := m.searches + 1 } =
        (.ok (((ranking.drop it.offset).take it.mode.size).map (·.2.stored)),
          { m with searches := m.searches + 1 }) :=
    load_eq fun a ha =>
      doc?_of_isMatch ((h.mem_iff a).1 (List.mem_of_mem_drop (List.mem_of_mem_take ha)))
  rw [fetch, Answer.bind_ok hsearch, hits_drop_offset h hlength]
  cases hmode : it.mode with
  | bounded n =>
    -- The search may give more than the hits to take, but not behind the offset.
    rw [hmode] at hload
    simp only [FetchMode.size] at hload ⊢
    rw [← List.map_take, List.take_take, Nat.min_self]
    exact hload
  | batched n =>
    rw [hmode] at hload
    exact hload

/-- A fetch gets the next batch of the ranking by one search. -/
lemma leased_fetch (h : m.IsRanking it.predicate it.filter it.sort.keys ranking)
    (hlength : ranking.length ≤ maxCount) :
    engine.leased (it.fetch engine) m =
      (.ok (((ranking.drop it.offset).take it.mode.size).map (·.2.stored)),
        { m with searches := m.searches + 1 }) := by
  have hacquire : engine.acquire m = (.ok (), { m with leases := m.leases + 1 }) := rfl
  rw [Engine.leased_eq hacquire (fetch_eq (h.congr rfl) hlength)]
  rfl

/-! ## All fetches -/

variable {rs : List (Except Error Document)}

/-- One fetch yields the next batch of the ranking, and the enumeration goes on behind it. -/
lemma drains_batch (hbuffer : it.buffer = []) (hfinished : it.finished = false)
    (hends : endsAfter it.mode 0 = true)
    (h : m.IsRanking it.predicate it.filter it.sort.keys ranking)
    (hlength : ranking.length ≤ maxCount)
    (hrest : Drains engine (it.after (min it.mode.size (ranking.length - it.offset)))
      { m with searches := m.searches + 1 } rs m') :
    Drains engine it m
      (((ranking.drop it.offset).take it.mode.size).map (fun a => .ok a.2.stored) ++ rs) m' := by
  have hbatch : (((ranking.drop it.offset).take it.mode.size).map (·.2.stored)).length =
      min it.mode.size (ranking.length - it.offset) := by
    rw [List.length_map, List.length_take, List.length_drop]
  rw [← hbatch] at hrest
  have hdrains := Drains.ofFetch hbuffer hfinished (leased_fetch h hlength) (fun _ => hends) hrest
  rw [List.map_map] at hdrains
  exact hdrains

/-- Batches from the offset on are drained to the end of the ranking, by one search for each full
batch that is left and one more. -/
lemma drains_batched {size : Nat} (hsize : 0 < size) (hmode : it.mode = .batched size)
    (hbuffer : it.buffer = []) (hfinished : it.finished = false)
    (h : m.IsRanking it.predicate it.filter it.sort.keys ranking)
    (hlength : ranking.length ≤ maxCount) :
    Drains engine it m ((ranking.drop it.offset).map fun a => .ok a.2.stored)
      { m with searches := m.searches + ((ranking.length - it.offset) / size + 1) } := by
  have hends : endsAfter it.mode 0 = true := by
    rw [hmode]
    exact decide_eq_true hsize
  have hmodeSize : it.mode.size = size := by rw [hmode]; rfl
  -- A fetch that does not end the enumeration leaves less of the ranking behind its offset.
  induction hleft : ranking.length - it.offset using Nat.strongRecOn generalizing it m with
  | ind left ih =>
    by_cases hshort : left < size
    · have hrest : Drains engine (it.after left) { m with searches := m.searches + 1 } []
          { m with searches := m.searches + 1 } := by
        refine (drains_finished_iff rfl ?_).2 ⟨rfl, rfl⟩
        simp only [after, hmode]
        exact decide_eq_true hshort
      have hmin : min it.mode.size (ranking.length - it.offset) = left := by omega
      have hdrains := drains_batch hbuffer hfinished hends h hlength (by rw [hmin]; exact hrest)
      rw [List.append_nil, List.take_of_length_le (by rw [List.length_drop]; omega)] at hdrains
      rw [Nat.div_eq_of_lt hshort, Nat.zero_add]
      exact hdrains
    · have hmode' : (it.after size).mode = .batched size := hmode
      have hbuffer' : (it.after size).buffer = [] := rfl
      have hfinished' : (it.after size).finished = false := by
        simp only [after, hmode]
        exact decide_eq_false (Nat.lt_irrefl size)
      have h' : ({ m with searches := m.searches + 1 } : MemoryEngine).IsRanking
          (it.after size).predicate (it.after size).filter (it.after size).sort.keys ranking :=
        h.congr rfl
      have hleft' : ranking.length - (it.after size).offset = left - size := by
        simp only [after]
        omega
      have hrest := ih (left - size) (by omega) hmode' hbuffer' hfinished' h' hends hmodeSize hleft'
      have hmin : min it.mode.size (ranking.length - it.offset) = size := by omega
      have hdrains := drains_batch hbuffer hfinished hends h hlength (by rw [hmin]; exact hrest)
      have happend : (ranking.drop it.offset).take it.mode.size ++ ranking.drop (it.offset + size) =
          ranking.drop it.offset := by
        rw [hmodeSize, ← List.drop_drop, List.take_append_drop]
      have hsearches : m.searches + 1 + ((left - size) / size + 1) =
          m.searches + (left / size + 1) := by
        rw [Nat.div_eq_sub_div hsize (Nat.le_of_not_lt hshort)]
        omega
      simp only [after] at hdrains
      rw [← List.map_append, happend, hsearches] at hdrains
      exact hdrains

/-- A bounded enumeration is drained by one search. -/
lemma drains_bounded {n : Nat} (hmode : it.mode = .bounded n) (hbuffer : it.buffer = [])
    (hfinished : it.finished = false)
    (h : m.IsRanking it.predicate it.filter it.sort.keys ranking)
    (hlength : ranking.length ≤ maxCount) :
    Drains engine it m (((ranking.drop it.offset).take n).map fun a => .ok a.2.stored)
      { m with searches := m.searches + 1 } := by
  have hends (fetched : Nat) : endsAfter it.mode fetched = true := by rw [hmode]; rfl
  have hrest : Drains engine (it.after (min it.mode.size (ranking.length - it.offset)))
      { m with searches := m.searches + 1 } [] { m with searches := m.searches + 1 } :=
    (drains_finished_iff rfl (hends _)).2 ⟨rfl, rfl⟩
  have hdrains := drains_batch hbuffer hfinished (hends 0) h hlength hrest
  rw [List.append_nil, hmode] at hdrains
  exact hdrains

/-- The enumeration of a context yields its window of the ranking. -/
lemma drains_ofContext (config : ExecutorConfig) (c : QueryContext) (filter : Option Query)
    (h : m.IsRanking c.predicate filter c.sort.keys ranking)
    (hlength : ranking.length ≤ maxCount) :
    Drains engine (.ofContext config c filter) m
      ((c.windowed ranking).map fun a => .ok a.2.stored)
      { m with searches := m.searches + c.searches config ranking.length } := by
  obtain ⟨predicate, sort, skip, take⟩ := c
  match take with
  | none =>
    have hsize : 0 < max config.batchSize 1 := by omega
    rw [QueryContext.searches, Nat.max_comm 1]
    exact drains_batched hsize rfl rfl rfl h hlength
  | some 0 =>
    exact (drains_finished_iff rfl rfl).2 ⟨by simp [QueryContext.windowed], rfl⟩
  | some (n + 1) => exact drains_bounded rfl rfl rfl h hlength

/-! ## Every step -/

/-- No step changes the ranking, and none moves the offset beyond it. -/
lemma step_offset_le (h : m.IsRanking it.predicate it.filter it.sort.keys ranking)
    (hlength : ranking.length ≤ maxCount) (hstep : Step engine (it, m) (it', m')) :
    m'.IsRanking it'.predicate it'.filter it'.sort.keys ranking ∧
      it'.offset ≤ max it.offset ranking.length := by
  obtain ⟨r, hnext⟩ := hstep
  simp only at hnext
  match hbuffer : it.buffer with
  | d :: ds =>
    rw [next_of_buffer hbuffer] at hnext
    obtain ⟨hr, rfl⟩ := Prod.mk.inj hnext
    obtain ⟨-, rfl⟩ := Prod.mk.inj hr
    exact ⟨h, Nat.le_max_left _ _⟩
  | [] =>
    cases hfinished : it.finished with
    | true =>
      rw [next_of_finished hbuffer hfinished] at hnext
      obtain ⟨hr, rfl⟩ := Prod.mk.inj hnext
      obtain ⟨-, rfl⟩ := Prod.mk.inj hr
      exact ⟨h, Nat.le_max_left _ _⟩
    | false =>
      rw [next_of_fetch hbuffer hfinished (leased_fetch h hlength)] at hnext
      obtain ⟨hr, rfl⟩ := Prod.mk.inj hnext
      obtain ⟨-, rfl⟩ := Prod.mk.inj hr
      refine ⟨h.congr rfl, ?_⟩
      simp only [after, List.length_map, List.length_take, List.length_drop]
      omega

/-- However far the draining of an enumeration has come, its offset is where it started or the end
of a batch of matches. -/
lemma reaches_offset_le {p p' : Enumeration × MemoryEngine}
    (h : p.2.IsRanking p.1.predicate p.1.filter p.1.sort.keys ranking)
    (hlength : ranking.length ≤ maxCount) (hreaches : Reaches engine p p') :
    p'.2.IsRanking p'.1.predicate p'.1.filter p'.1.sort.keys ranking ∧
      p'.1.offset ≤ max p.1.offset ranking.length := by
  induction hreaches with
  | refl => exact ⟨h, Nat.le_max_left _ _⟩
  | tail _ hstep ih =>
    obtain ⟨hranking, hle⟩ := ih
    obtain ⟨hranking', hle'⟩ := step_offset_le hranking hlength hstep
    exact ⟨hranking', by omega⟩

/-- **Enumerating yields the window.** Draining the enumeration of a context ends, with the stored
fields of the ranked matches from the ranks that are skipped on, as many as may be taken, and
without a failure. It makes as many searches as `QueryContext.searches` says and changes nothing
else, and no sum of ranks is beyond the largest count on the way. What a context skips and the
slots of an engine are counts themselves. -/
theorem enumerate_eq_window (config : ExecutorConfig) (c : QueryContext) (filter : Option Query)
    (m : MemoryEngine) (hskip : ∀ n ∈ c.skip, n ≤ maxCount) (hslots : m.slots.size ≤ maxCount) :
    ∃ ranking : List Hit, m.IsRanking c.predicate filter c.sort.keys ranking ∧ ranking.Nodup ∧
      Drains engine (.ofContext config c filter) m
        ((c.windowed ranking).map fun a => .ok a.2.stored)
        { m with searches := m.searches + c.searches config ranking.length } ∧
      (Enumeration.ofContext config c filter).toList engine m =
        ((c.windowed ranking).map fun a => .ok a.2.stored,
          { m with searches := m.searches + c.searches config ranking.length }) ∧
      ∀ p, Reaches engine (.ofContext config c filter, m) p → p.1.offset ≤ maxCount := by
  obtain ⟨ranking, h, -⟩ := m.exists_ranking c.predicate filter c.sort
  have hlength : ranking.length ≤ maxCount := Nat.le_trans h.length_le hslots
  have hdrains := drains_ofContext config c filter h hlength
  refine ⟨ranking, h, h.nodup, hdrains, hdrains.toList_eq ?_ ?_, fun p hp => ?_⟩
  · intro r hr
    obtain ⟨a, -, rfl⟩ := List.mem_map.1 hr
    exact ⟨a.2.stored, rfl⟩
  · rw [List.length_map]
    exact Nat.le_trans (c.length_windowed_le ranking)
      (Nat.le_trans h.length_le (Nat.le_add_left _ _))
  · have hoffset := (reaches_offset_le (p := (.ofContext config c filter, m)) h hlength hp).2
    have hstart : c.skip.getD 0 ≤ maxCount := by
      cases hc : c.skip with
      | none => exact Nat.zero_le _
      | some n => exact hskip n hc
    exact Nat.le_trans hoffset (Nat.max_le.2 ⟨hstart, hlength⟩)

/-- Batches of a size that is not given, over a deleted document and from the second rank on. -/
theorem enumerate_eq_window_descending :
    let number (n : Int64) : Document := ⟨[⟨"n", .long n, ⟨true, true, false⟩⟩]⟩
    let m : MemoryEngine :=
      { slots := #[some (.ofDocument (number 3)), none, some (.ofDocument (number 5))], live := 2 }
    let c : QueryContext := { sort := ⟨[⟨"n", .long, true⟩]⟩, skip := some 1 }
    (∀ n ∈ c.skip, n ≤ maxCount) ∧ m.slots.size ≤ maxCount ∧
      Drains engine (.ofContext ⟨0⟩ c none) m [.ok (number 3)] { m with searches := 2 } := by
  intro number m c
  have hskip : ∀ n ∈ c.skip, n ≤ maxCount := by decide
  have hslots : m.slots.size ≤ maxCount := by decide
  obtain ⟨ranking, -, -, hdrains, htoList, -⟩ := enumerate_eq_window ⟨0⟩ c none m hskip hslots
  have hresults : (Enumeration.ofContext ⟨0⟩ c none).toList engine m =
      ([.ok (number 3)], { m with searches := 2 }) := by cbv
  rw [hresults] at htoList
  obtain ⟨hdocuments, hstate⟩ := Prod.mk.inj htoList
  rw [← hdocuments, ← hstate] at hdrains
  exact ⟨hskip, hslots, hdrains⟩

end MemoryEngine

end FieldSearch
