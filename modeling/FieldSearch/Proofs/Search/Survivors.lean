import FieldSearch.Proofs.Engine.Refinement
import FieldSearch.Proofs.Search.Interleaving

/-!
# Deleting while enumerating

An enumeration goes on by rank. If a document that it has fetched is deleted before its next fetch,
the matches behind move down by one, and one of them falls below the rank that is remembered: it is
live and it matches, and no later fetch comes by it (`Session.survivor_not_yielded`).

That is the only way to miss a match. Up to the remembered rank there is room for as many matches
as were fetched, and those of them that are live take their places there. So what is hidden in a
session without skipped results and without a limit is counted by what was fetched and is gone by
the last fetch, whatever else is deleted or written.

`Session.visited` lists the addresses of what is fetched, which the results do not show.
`Session.Covers` is what a session keeps to.

Main statement: `Session.length_hidden_le_length_gone`.
-/

namespace FieldSearch

namespace MemoryEngine

variable {m m' : MemoryEngine} {q : Query} {filter : Option Query} {a : Hit}

/-- Whether there is a document at an address. -/
def isLive (m : MemoryEngine) (address : Nat) : Bool := (m.doc? address).isSome

lemma isLive_iff {address : Nat} :
    m.isLive address = true ↔ ∃ x, m.slots[address]? = some (some x) := by
  simp [isLive, doc?, Option.isSome_iff_exists, Option.join_eq_some_iff]

/-- A hit of before that is live still matches. -/
def Recalls (m : MemoryEngine) (q : Query) (filter : Option Query) (a : Hit) : Prop :=
  a.1 < m.slots.size ∧ (m.isLive a.1 = true → a ∈ m.found q filter)

lemma recalls_of_mem_found (h : a ∈ m.found q filter) : m.Recalls q filter a := by
  obtain ⟨x, hslot, -⟩ := mem_found.1 h
  exact ⟨(Array.getElem?_eq_some_iff.1 hslot).1, fun _ => h⟩

end MemoryEngine

namespace EngineCall

open MemoryEngine

variable {m : MemoryEngine} {q : Query} {filter : Option Query} {a : Hit}

/-- A document that is live behind a call was there before it, at an address of before. -/
lemma slot_of_run (c : EngineCall) {address : Nat} {x : IndexedDocument}
    (haddress : address < m.slots.size)
    (h : (c.run engine m).2.slots[address]? = some (some x)) :
    m.slots[address]? = some (some x) := by
  obtain ⟨slot, hslot⟩ : ∃ slot, m.slots[address]? = some slot :=
    ⟨_, Array.getElem?_eq_getElem haddress⟩
  rw [c.getElem?_run hslot] at h
  split at h
  · cases h
  · rw [hslot, Option.some.inj h]

lemma recalls_run (c : EngineCall) (h : m.Recalls q filter a) :
    (c.run engine m).2.Recalls q filter a := by
  refine ⟨Nat.lt_of_lt_of_le h.1 size_le_run, fun hlive => ?_⟩
  obtain ⟨x, hx⟩ := isLive_iff.1 hlive
  have hslot := c.slot_of_run h.1 hx
  obtain ⟨y, hy, hmatch⟩ := mem_found.1 (h.2 (isLive_iff.2 ⟨x, hslot⟩))
  obtain rfl : x = y := Option.some.inj (Option.some.inj (hslot.symm.trans hy))
  exact mem_found.2 ⟨x, hx, hmatch⟩

lemma isLive_of_run (c : EngineCall) {address : Nat} (haddress : address < m.slots.size)
    (h : (c.run engine m).2.isLive address = true) : m.isLive address = true := by
  obtain ⟨x, hx⟩ := isLive_iff.1 h
  exact isLive_iff.2 ⟨x, c.slot_of_run haddress hx⟩

end EngineCall

namespace Session

open MemoryEngine Enumeration

variable {s : Session} {c : QueryContext} {filter : Option Query} {m : MemoryEngine}
  {hits rest visits : List Hit}

/-! ## Addresses -/

/-- The addresses that an event makes the enumeration fetch. -/
def addresses (s : Session) : SessionEvent → List Nat
  | .next =>
    if s.it.buffer.isEmpty && !s.it.finished then
      let found := s.engine.top s.it.predicate s.it.filter s.it.sort
        (saturatingAdd s.it.offset s.it.mode.size)
      (found.hits.drop s.it.offset).take s.it.mode.size
    else []
  | .call _ => []

/-- The addresses that are fetched while events happen, in order. -/
def visited (s : Session) : List SessionEvent → List Nat
  | [] => []
  | event :: events => s.addresses event ++ visited (s.step event) events

lemma visited_concat (s : Session) (events : List SessionEvent) (event : SessionEvent) :
    s.visited (events ++ [event]) = s.visited events ++ (s.run events).addresses event := by
  induction events generalizing s with
  | nil => exact List.append_nil _
  | cons first events ih =>
    rw [List.cons_append, visited, ih, visited, List.append_assoc]
    rfl

/-- The matches of an engine that are still live in a session and have no visited address. -/
def hidden (s : Session) (c : QueryContext) (filter : Option Query) (m : MemoryEngine)
    (visited : List Nat) : List Hit :=
  (m.found c.predicate filter).filter fun a => s.engine.isLive a.1 && !visited.contains a.1

lemma addresses_next_of_ready (h : s.it.buffer ≠ [] ∨ s.it.finished = true) :
    s.addresses .next = [] := by
  refine if_neg fun hfetches => ?_
  obtain ⟨hbuffer, hfinished⟩ := Bool.and_eq_true_iff.1 hfetches
  rcases h with hne | hdone
  · exact hne (List.isEmpty_iff.1 hbuffer)
  · rw [hdone] at hfinished
    cases hfinished

/-- What is fetched is the next batch of the matches. -/
lemma addresses_next_of_empty (hsort : s.it.sort.keys = []) (hbuffer : s.it.buffer = [])
    (hfinished : s.it.finished = false) (hslots : s.engine.slots.size ≤ maxCount) :
    s.addresses .next = s.batch.map (·.1) := by
  have hranking : s.engine.IsRanking s.it.predicate s.it.filter s.it.sort.keys
      (s.engine.found s.it.predicate s.it.filter) := hsort ▸ isRanking_found
  have hfetches : (s.it.buffer.isEmpty && !s.it.finished) = true := by
    rw [hbuffer, hfinished]
    rfl
  rw [addresses, if_pos hfetches]
  simp only [hits_drop_offset hranking (Nat.le_trans hranking.length_le hslots)]
  rw [← List.map_take, List.take_take, Nat.min_self]
  rfl

/-! ## What a session covers -/

/-- A session that started with the engine `m` has fetched `visits`, as many as its rank says. Of
the matches at the start and of the visits, those that are live match still, and they did at the
last fetch. If the session is finished, its last fetch went to the end of the matches. -/
structure Covers (c : QueryContext) (filter : Option Query) (m : MemoryEngine) (s : Session)
    (visits : List Hit) : Prop where
  batched : ∃ size, s.it.mode = .batched size
  offset_eq : s.it.offset = visits.length
  recalls : ∀ a ∈ m.found c.predicate filter ++ visits, s.engine.Recalls c.predicate filter a
  outlives : ∀ a ∈ m.found c.predicate filter, s.engine.isLive a.1 = true →
    a ∈ s.source.found c.predicate filter
  finished : s.it.finished = true → ∃ before,
    visits = before ++ (s.source.found c.predicate filter).drop before.length ∧
      ∀ a ∈ before, s.source.isLive a.1 = true → a ∈ s.source.found c.predicate filter

lemma covers_start (config : ExecutorConfig) (hskip : c.skip = none) (htake : c.take = none)
    (filter : Option Query) (m : MemoryEngine) :
    Covers c filter m (start config c filter m) [] where
  batched := ⟨max config.batchSize 1, by simp only [start, ofContext, htake]⟩
  offset_eq := by simp only [start, ofContext, hskip, Option.getD_none, List.length_nil]
  recalls := fun a ha => by
    rw [List.append_nil] at ha
    exact recalls_of_mem_found ha
  outlives := fun a ha _ => ha
  finished := by
    intro h
    simp [start, ofContext, htake] at h

lemma Covers.call (h : Covers c filter m s visits) (call : EngineCall) :
    Covers c filter m (s.step (.call call)) visits where
  batched := h.batched
  offset_eq := h.offset_eq
  recalls := fun a ha => call.recalls_run (h.recalls a ha)
  outlives := fun a ha hlive => by
    have haddress := (h.recalls a (List.mem_append_left _ ha)).1
    exact h.outlives a ha (call.isLive_of_run haddress hlive)
  finished := h.finished

lemma Covers.refill (h : Covers c filter m s visits) (hsound : Sound c filter s visits []) :
    Covers c filter m s.refill (visits ++ s.batch) where
  batched := h.batched
  offset_eq := by
    rw [List.length_append, ← h.offset_eq]
    rfl
  recalls := fun a ha => by
    rw [← List.append_assoc] at ha
    rcases List.mem_append.1 ha with ha | ha
    · exact h.recalls a ha
    · exact recalls_of_mem_found (m := s.engine) (mem_found.2 (hsound.isMatch_of_batch a ha))
  outlives := fun a ha hlive => (h.recalls a (List.mem_append_left _ ha)).2 hlive
  finished := fun hfinished => by
    refine ⟨visits, ?_, fun a ha hlive => (h.recalls a (List.mem_append_right _ ha)).2 hlive⟩
    rw [hsound.batch_eq_drop h.batched hfinished, h.offset_eq]
    rfl

lemma Covers.emit (h : Covers c filter m s visits) : Covers c filter m s.emit visits := by
  rw [Session.emit]
  split
  · exact { h with }
  · exact { h with }

/-! ## Counting -/

/-- What is hidden below a rank takes the places of what is gone there. -/
lemma length_le_length_gone (found : List Hit) {before lost : List Hit} {live : Hit → Bool}
    (hbefore : before.Nodup) (hlost : lost.Nodup)
    (hkept : ∀ a ∈ before, live a = true → a ∈ found.take before.length)
    (hplaces : ∀ a ∈ lost, a ∈ found.take before.length ∧ a ∉ before) :
    lost.length ≤ (before.filter fun a => !live a).length := by
  have hnodup : (before.filter live ++ lost).Nodup :=
    List.nodup_append.2 ⟨hbefore.filter _, hlost, fun a ha b hb heq =>
      (hplaces b hb).2 (heq ▸ List.mem_of_mem_filter ha)⟩
  have hsubset : before.filter live ++ lost ⊆ found.take before.length := by
    intro a ha
    rcases List.mem_append.1 ha with ha | ha
    · obtain ⟨hmem, hlive⟩ := List.mem_filter.1 ha
      exact hkept a hmem hlive
    · exact (hplaces a ha).1
  have hplaces : (before.filter live ++ lost).length ≤ before.length := calc
    (before.filter live ++ lost).length ≤ (found.take before.length).length :=
      (hnodup.subperm hsubset).length_le
    _ ≤ before.length := List.length_take_le _ _
  have hsplit := List.length_eq_length_filter_add live (l := before)
  rw [List.length_append] at hplaces
  omega

/-- Hits at increasing addresses are all different. -/
lemma nodup_of_pairwise_lt {l : List Hit} (h : l.Pairwise fun a b => a.1 < b.1) : l.Nodup :=
  h.imp fun hlt heq => absurd (congrArg Prod.fst heq) (Nat.ne_of_lt hlt)

/-- A finished session hides no more matches than visited addresses have lost their document. -/
lemma Covers.length_hidden_le (h : Covers c filter m s visits)
    (hsorted : visits.Pairwise fun a b => a.1 < b.1) (hfinished : s.it.finished = true) :
    (s.hidden c filter m (visits.map (·.1))).length ≤
      ((visits.map (·.1)).filter fun address => !s.source.isLive address).length := by
  obtain ⟨before, hvisits, hlive⟩ := h.finished hfinished
  have hahead := hsorted
  rw [hvisits, List.pairwise_append] at hahead
  obtain ⟨hsortedBefore, -, hahead⟩ := hahead
  have hsplit : ∀ a ∈ s.source.found c.predicate filter,
      a ∈ (s.source.found c.predicate filter).take before.length ∨
        a ∈ (s.source.found c.predicate filter).drop before.length := by
    intro a ha
    rwa [← List.mem_append, List.take_append_drop]
  have hkept : ∀ a ∈ before, s.source.isLive a.1 = true →
      a ∈ (s.source.found c.predicate filter).take before.length := by
    intro a ha hlive'
    refine (hsplit a (hlive a ha hlive')).resolve_right fun hdrop => ?_
    exact Nat.lt_irrefl _ (hahead a ha a hdrop)
  have hplaces : ∀ a ∈ s.hidden c filter m (visits.map (·.1)),
      a ∈ (s.source.found c.predicate filter).take before.length ∧ a ∉ before := by
    intro a ha
    obtain ⟨hfound, hhidden⟩ := List.mem_filter.1 ha
    obtain ⟨hsurvives, hnot⟩ := Bool.and_eq_true_iff.1 hhidden
    have hnew : a ∉ visits := by
      intro hmem
      have hvisited : a.1 ∈ visits.map (·.1) := List.mem_map_of_mem hmem
      rw [List.contains_iff_mem.2 hvisited] at hnot
      cases hnot
    rw [hvisits, List.mem_append, not_or] at hnew
    exact ⟨(hsplit a (h.outlives a hfound hsurvives)).resolve_right hnew.2, hnew.1⟩
  calc
    (s.hidden c filter m (visits.map (·.1))).length
      ≤ (before.filter fun a => !s.source.isLive a.1).length :=
        length_le_length_gone _ (nodup_of_pairwise_lt hsortedBefore)
          (nodup_of_pairwise_lt (found_pairwise.sublist List.filter_sublist)) hkept hplaces
    _ ≤ (visits.filter fun a => !s.source.isLive a.1).length := by
      conv_rhs => rw [hvisits, List.filter_append, List.length_append]
      exact Nat.le_add_right _ _
    _ = ((visits.map (·.1)).filter fun address => !s.source.isLive address).length := by
      rw [List.filter_map, List.length_map]
      rfl

/-! ## Runs -/

/-- Whatever happens in a session, it covers what it has visited. -/
lemma exists_covers_run (config : ExecutorConfig) (hsort : c.sort.isNatural = true)
    (hskip : c.skip = none) (htake : c.take = none) (filter : Option Query) (m : MemoryEngine)
    (events : List SessionEvent)
    (hslots : ((start config c filter m).run events).engine.slots.size ≤ maxCount) :
    ∃ hits rest, Sound c filter ((start config c filter m).run events) hits rest ∧
      Covers c filter m ((start config c filter m).run events) (hits ++ rest) ∧
      (start config c filter m).visited events = (hits ++ rest).map (·.1) := by
  induction events using List.reverseRecOn with
  | nil =>
    exact ⟨[], [], sound_start config c hsort filter m, covers_start config hskip htake filter m,
      rfl⟩
  | append_singleton events event ih =>
    have hstep : (start config c filter m).run (events ++ [event]) =
        ((start config c filter m).run events).step event := List.foldl_concat ..
    rw [hstep] at hslots ⊢
    rw [visited_concat]
    have hbefore := Nat.le_trans (size_le_step _ event) hslots
    obtain ⟨hits, rest, hsound, hcovers, hvisited⟩ := ih hbefore
    rw [hvisited]
    cases event with
    | call call =>
      exact ⟨hits, rest, hsound.call call, hcovers.call call, List.append_nil _⟩
    | next =>
      obtain ⟨hready, hemit, hits', rest', happend, hsound'⟩ |
        ⟨hbuffer, hfinished, rfl, hrefill, hits', rest', happend, hsound'⟩ :=
          hsound.next_cases hbefore
      · refine ⟨hits', rest', hsound', ?_, ?_⟩
        · rw [hemit, happend]
          exact hcovers.emit
        · rw [addresses_next_of_ready hready, List.append_nil, happend]
      · rw [List.append_nil] at hcovers ⊢
        refine ⟨hits', rest', hsound', ?_, ?_⟩
        · rw [hrefill, happend]
          exact (hcovers.refill hsound).emit
        · rw [addresses_next_of_empty hsound.sort_eq hbuffer hfinished hbefore, happend,
            List.map_append]

/-- **Deleting hides as many as it takes of what was fetched.** At the end of a session of a
context without an order, skipped results and a limit, the documents yielded are those of the
visited addresses. Of the matches at the start that are live, no more have been left out than
visited addresses had lost their document by the last fetch. So if none had, all that survives has
been yielded. The slots of an engine are a count. -/
theorem length_hidden_le_length_gone (config : ExecutorConfig) (c : QueryContext)
    (hsort : c.sort.isNatural = true) (hskip : c.skip = none) (htake : c.take = none)
    (filter : Option Query) (m : MemoryEngine) (events : List SessionEvent)
    (hslots : ((start config c filter m).run events).engine.slots.size ≤ maxCount)
    (source : MemoryEngine)
    (hlast : ((start config c filter m).run events).results.getLast? = some (none, source)) :
    let s := (start config c filter m).run events
    let visited := (start config c filter m).visited events
    visited.Pairwise (· < ·) ∧
      List.Forall₂ (fun y address => y.2.doc? address = some y.1) s.yielded visited ∧
      (s.hidden c filter m visited).length ≤
        (visited.filter fun address => !source.isLive address).length := by
  intro s visited
  obtain ⟨hits, rest, hsound, hcovers, hvisited⟩ :=
    exists_covers_run config hsort hskip htake filter m events hslots
  obtain ⟨hfinished, rfl, rfl⟩ := hsound.ended source hlast
  have hsorted := hsound.sorted
  rw [List.append_nil] at hsorted hcovers hvisited
  have hvisited : visited = hits.map (·.1) := hvisited
  refine ⟨?_, ?_, ?_⟩
  · rw [hvisited]
    exact List.pairwise_map.2 hsorted
  · rw [hvisited]
    refine List.forall₂_map_right_iff.2 (hsound.yielded.imp fun y a hy => ?_)
    rw [hy.1]
    exact doc?_of_isMatch hy.2
  · rw [hvisited]
    exact hcovers.length_hidden_le hsorted hfinished

/-- An engine with three numbers. -/
def oneTwoThree : MemoryEngine :=
  EngineCall.runAll ([1, 2, 3].map fun n => .write (number n)) {}

/-- A session of the three numbers in batches of one, in which the first one is deleted once it has
been yielded. -/
def firstDeleted : Session :=
  (start ⟨1⟩ {} none oneTwoThree).run
    [.next, .call (.deleteBy (.range (.point "n" .long (.long 1)))), .next, .next]

theorem length_hidden_le_length_gone_one :
    firstDeleted.engine.slots.size ≤ maxCount ∧
      ∃ source visited, firstDeleted.results.getLast? = some (none, source) ∧
        firstDeleted.hidden {} none oneTwoThree visited = [(1, number 2)] ∧
        (visited.filter fun address => !source.isLive address) = [0] ∧
        (firstDeleted.hidden {} none oneTwoThree visited).length ≤
          (visited.filter fun address => !source.isLive address).length := by
  have hslots : firstDeleted.engine.slots.size ≤ maxCount := by decide +kernel
  have hhidden : firstDeleted.hidden {} none oneTwoThree [0, 2] = [(1, number 2)] := by
    decide +kernel
  have hvisited : (start ⟨1⟩ {} none oneTwoThree).visited
      [.next, .call (.deleteBy (.range (.point "n" .long (.long 1)))), .next, .next] = [0, 2] := by
    decide +kernel
  have hend : (firstDeleted.results.getLast?.map fun r =>
      (r.1.isNone, [0, 2].filter fun address => !r.2.isLive address)) = some (true, [0]) := by
    decide +kernel
  obtain ⟨⟨r, source⟩, hlast, hr⟩ := Option.map_eq_some_iff.1 hend
  obtain ⟨hnone, hgone⟩ := Prod.mk.inj hr
  obtain rfl := Option.isNone_iff_eq_none.1 hnone
  have hle := (length_hidden_le_length_gone ⟨1⟩ {} rfl rfl rfl none oneTwoThree _ hslots source
    hlast).2.2
  rw [hvisited] at hle
  exact ⟨hslots, source, [0, 2], hlast, hhidden, hgone, hle⟩

/-- A number that matches from the start to the end and is not among the results. -/
theorem survivor_not_yielded :
    (1, number 2) ∈ oneTwoThree.found .all none ∧
      firstDeleted.results.map (·.1.isNone) = [false, false, true] ∧
      firstDeleted.engine.doc? 1 = some (number 2) ∧
      firstDeleted.yielded.map (·.1) = [number 1, number 3] := by
  decide +kernel

end Session

end FieldSearch
