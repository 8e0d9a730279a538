import FieldSearch.Proofs.Engine.Writing
import FieldSearch.Proofs.Search.Window

/-!
# Enumerations of a changing engine

An enumeration remembers a rank and no document: the next batch is what has that rank when it is
fetched. Between two fetches the engine may be written to, and then the matches before the rank are
others. What holds nonetheless is that everything from the rank on is behind all that was fetched.
Deleting moves matches down in rank and so past the rank at most, never back over it, and writing
puts documents behind all others. So a document may be missed, but none is yielded twice.

`Session` is an enumeration and its engine under calls that come between its results. It carries
what no caller sees: the engine of the last fetch. `Session.Sound` is the invariant. As long as
nothing is deleted, `Session.Complete` holds too: what was fetched are the matches from the skipped
ones on, without a gap.

Main statement: `Session.yielded_increasing`.
-/

namespace FieldSearch

/-- What happens to an enumeration and its engine. -/
inductive SessionEvent where
  /-- The next result is asked for. -/
  | next
  /-- The engine is written to. -/
  | call (c : EngineCall)
deriving Repr

/-- An enumeration of an engine that is written to between the results. -/
structure Session where
  it : Enumeration
  engine : MemoryEngine
  /-- The engine as it was at the last fetch. -/
  source : MemoryEngine
  /-- The results so far, each with the engine of the last fetch before it. -/
  results : List (Option (Except Error Document) × MemoryEngine) := []
  /-- The number of documents that calls have taken away. -/
  deleted : Nat := 0

namespace Session

open MemoryEngine Enumeration

/-- The session behind an event. -/
def step (s : Session) : SessionEvent → Session
  | .next =>
    let fetches := s.it.buffer.isEmpty && !s.it.finished
    let source := if fetches then s.engine else s.source
    let ((r, it), engine) := s.it.next MemoryEngine.engine s.engine
    { s with it, engine, source, results := s.results ++ [(r, source)] }
  | .call c =>
    { s with
      engine := (c.run MemoryEngine.engine s.engine).2
      deleted := s.deleted + c.taken s.engine }

/-- The session behind events. -/
def run (s : Session) (events : List SessionEvent) : Session := events.foldl step s

/-- The session of a context that nothing has happened in. -/
def start (config : ExecutorConfig) (c : QueryContext) (filter : Option Query) (m : MemoryEngine) :
    Session where
  it := .ofContext config c filter
  engine := m
  source := m

/-- The documents so far, each with the engine of its fetch. -/
def yielded (s : Session) : List (Document × MemoryEngine) :=
  s.results.filterMap fun (r, source) =>
    match r with
    | some (.ok d) => some (d, source)
    | _ => none

variable {s : Session} {c : QueryContext} {filter : Option Query} {hits rest fetched : List Hit}

/-! ## One result -/

/-- The hits of the next fetch. -/
def batch (s : Session) : List Hit :=
  ((s.engine.found s.it.predicate s.it.filter).drop s.it.offset).take s.it.mode.size

/-- The session behind a fetch. -/
def refill (s : Session) : Session :=
  { s with
    it := { s.it.after s.batch.length with buffer := s.batch.map (·.2.stored) }
    engine := { s.engine with searches := s.engine.searches + 1 }
    source := s.engine }

/-- The session behind a result that needs no fetch. -/
def emit (s : Session) : Session :=
  match s.it.buffer with
  | d :: ds =>
    { s with it := { s.it with buffer := ds }, results := s.results ++ [(some (.ok d), s.source)] }
  | [] => { s with results := s.results ++ [(none, s.source)] }

lemma step_next_of_ready (h : s.it.buffer ≠ [] ∨ s.it.finished = true) :
    s.step .next = s.emit := by
  cases hbuffer : s.it.buffer with
  | cons d ds =>
    simp only [step, emit, hbuffer, next_of_buffer hbuffer]
    rfl
  | nil =>
    have hfinished : s.it.finished = true := h.resolve_left fun hne => hne hbuffer
    simp only [step, emit, hbuffer, hfinished, next_of_finished hbuffer hfinished]
    rfl

lemma step_next_of_empty (hsort : s.it.sort.keys = []) (hbuffer : s.it.buffer = [])
    (hfinished : s.it.finished = false) (hslots : s.engine.slots.size ≤ maxCount) :
    s.step .next = s.refill.emit := by
  have hranking : s.engine.IsRanking s.it.predicate s.it.filter s.it.sort.keys
      (s.engine.found s.it.predicate s.it.filter) := hsort ▸ isRanking_found
  have hnext := next_of_fetch hbuffer hfinished
    (leased_fetch hranking (Nat.le_trans hranking.length_le hslots))
  have hbatch : ((s.engine.found s.it.predicate s.it.filter).drop s.it.offset).take
      s.it.mode.size = s.batch := rfl
  rw [hbatch, List.length_map] at hnext
  cases hhits : s.batch with
  | nil =>
    rw [hhits] at hnext
    simp only [step, hnext, hbuffer, hfinished, emit, refill, hhits]
    rfl
  | cons a rest =>
    rw [hhits] at hnext
    simp only [step, hnext, hbuffer, hfinished, emit, refill, hhits]
    rfl

/-! ## What is fetched is ahead -/

/-- A session has yielded the documents of `hits` and fetched those of `rest` to be yielded next,
and what it has not fetched yet is behind all of them. -/
structure Sound (c : QueryContext) (filter : Option Query) (s : Session) (hits rest : List Hit) :
    Prop where
  predicate_eq : s.it.predicate = c.predicate
  filter_eq : s.it.filter = filter
  sort_eq : s.it.sort.keys = []
  ends : endsAfter s.it.mode 0 = true
  buffer_eq : s.it.buffer = rest.map (·.2.stored)
  sorted : (hits ++ rest).Pairwise fun a b => a.1 < b.1
  below : ∀ a ∈ hits ++ rest, a.1 < s.engine.slots.size
  ahead : ∀ b ∈ (s.engine.found c.predicate filter).drop s.it.offset,
    ∀ a ∈ hits ++ rest, a.1 < b.1
  yielded : List.Forall₂ (fun y a => y.1 = a.2.stored ∧ y.2.IsMatch c.predicate filter a)
    s.yielded hits
  fetched : ∀ a ∈ rest, s.source.IsMatch c.predicate filter a
  not_failed : ∀ r ∈ s.results, ∀ e, r.1 ≠ some (.error e)
  ended : ∀ source, s.results.getLast? = some (none, source) →
    s.it.finished = true ∧ rest = [] ∧ source = s.source

lemma sound_start (config : ExecutorConfig) (c : QueryContext) (hsort : c.sort.isNatural = true)
    (filter : Option Query) (m : MemoryEngine) :
    Sound c filter (start config c filter m) [] [] where
  predicate_eq := rfl
  filter_eq := rfl
  sort_eq := List.isEmpty_iff.1 hsort
  ends := endsAfter_ofContext config c filter
  buffer_eq := rfl
  sorted := .nil
  below := fun a ha => absurd ha List.not_mem_nil
  ahead := fun b _ a ha => absurd ha List.not_mem_nil
  yielded := .nil
  fetched := fun a ha => absurd ha List.not_mem_nil
  not_failed := fun r hr => absurd hr List.not_mem_nil
  ended := by rintro source ⟨⟩

/-- Writing to the engine does not bring anything back before what was fetched. -/
lemma Sound.call (h : Sound c filter s hits rest) (call : EngineCall) :
    Sound c filter (s.step (.call call)) hits rest := by
  obtain ⟨kept, added, hfound, hsublist, -, hadded⟩ :=
    call.exists_found_run s.engine c.predicate filter
  refine { h with below := fun a ha => ?_, ahead := fun b hb a ha => ?_ }
  · exact Nat.lt_of_lt_of_le (h.below a ha) EngineCall.size_le_run
  · have hb' : b ∈ (kept ++ added).drop s.it.offset := hfound ▸ hb
    rw [List.drop_append, List.mem_append] at hb'
    rcases hb' with hkept | hnew
    · exact h.ahead b ((hsublist.drop s.it.offset).subset hkept) a ha
    · exact Nat.lt_of_lt_of_le (h.below a ha) (hadded b (List.mem_of_mem_drop hnew))

/-- A fetch takes the first of the matches from its rank on. -/
lemma Sound.batch_append (h : Sound c filter s hits rest) :
    s.batch ++ (s.engine.found c.predicate filter).drop (s.it.offset + s.batch.length) =
      (s.engine.found c.predicate filter).drop s.it.offset := by
  have hprefix : s.batch <+: (s.engine.found c.predicate filter).drop s.it.offset := by
    rw [batch, h.predicate_eq, h.filter_eq]
    exact List.take_prefix _ _
  rw [← List.drop_drop]
  exact List.prefix_iff_eq_append.1 hprefix

/-- A batch that falls short is all that was left. -/
lemma Sound.batch_eq_drop (h : Sound c filter s hits rest)
    (hbatched : ∃ size, s.it.mode = .batched size) (hfinished : s.refill.it.finished = true) :
    s.batch = (s.engine.found c.predicate filter).drop s.it.offset := by
  obtain ⟨size, hmode⟩ := hbatched
  have hbatch := h.batch_append
  have hshort : s.batch.length < size := by
    have hends : endsAfter s.it.mode s.batch.length = true := hfinished
    rw [hmode] at hends
    exact of_decide_eq_true hends
  have hlength : s.batch.length =
      min size ((s.engine.found c.predicate filter).drop s.it.offset).length := by
    rw [batch, hmode, List.length_take, h.predicate_eq, h.filter_eq]
    rfl
  rw [← hbatch, List.length_append] at hlength
  have hnone : (s.engine.found c.predicate filter).drop (s.it.offset + s.batch.length) = [] :=
    List.eq_nil_of_length_eq_zero (by omega)
  rwa [hnone, List.append_nil] at hbatch

lemma Sound.isMatch_of_batch (h : Sound c filter s hits rest) :
    ∀ a ∈ s.batch, s.engine.IsMatch c.predicate filter a := by
  intro a ha
  have hmem : a ∈ (s.engine.found c.predicate filter).drop s.it.offset :=
    h.batch_append ▸ List.mem_append_left _ ha
  exact mem_found.1 (List.mem_of_mem_drop hmem)

lemma Sound.refill (h : Sound c filter s hits []) (hfinished : s.it.finished = false) :
    Sound c filter s.refill hits s.batch := by
  have hbatch := h.batch_append
  have hmatches : ((s.engine.found c.predicate filter).drop s.it.offset).Pairwise
      fun a b => a.1 < b.1 := found_pairwise.sublist (List.drop_sublist _ _)
  rw [← hbatch, List.pairwise_append] at hmatches
  have hhits := h.sorted
  have hbelow := h.below
  have hahead := h.ahead
  rw [← hbatch] at hahead
  rw [List.append_nil] at hhits hbelow hahead
  refine { h with
    buffer_eq := rfl
    sorted := List.pairwise_append.2 ⟨hhits, hmatches.1, fun a ha b hb =>
      hahead b (List.mem_append_left _ hb) a ha⟩
    below := fun a ha => ?_
    ahead := fun b hb a ha => ?_
    fetched := h.isMatch_of_batch
    ended := fun source hlast => ?_ }
  · rcases List.mem_append.1 ha with ha | ha
    · exact hbelow a ha
    · obtain ⟨x, hslot, -⟩ := h.isMatch_of_batch a ha
      exact (Array.getElem?_eq_some_iff.1 hslot).1
  · rcases List.mem_append.1 ha with ha | ha
    · exact hahead b (List.mem_append_right _ hb) a ha
    · exact hmatches.2.2 a ha b hb
  · rw [(h.ended source hlast).1] at hfinished
    cases hfinished

/-- A result without a fetch is the next document that was fetched, or the end. -/
lemma Sound.emit (h : Sound c filter s hits rest) (hready : rest = [] → s.it.finished = true) :
    ∃ hits' rest', hits' ++ rest' = hits ++ rest ∧ Sound c filter s.emit hits' rest' := by
  have hbuffer := h.buffer_eq
  cases rest with
  | nil =>
    have hemit : s.emit = { s with results := s.results ++ [(none, s.source)] } := by
      simp only [Session.emit, hbuffer, List.map_nil]
    refine ⟨hits, [], rfl, ?_⟩
    rw [hemit]
    refine { h with
      yielded := ?_
      not_failed := List.forall_mem_append.2 ⟨h.not_failed, ?_⟩
      ended := fun source hlast => ?_ }
    · rw [Session.yielded, List.filterMap_append]
      exact (List.append_nil _).symm ▸ h.yielded
    · exact List.forall_mem_singleton.2 fun e he => by cases he
    · rw [List.getLast?_concat] at hlast
      exact ⟨hready rfl, rfl, (Prod.mk.inj (Option.some.inj hlast)).2.symm⟩
  | cons a rest =>
    have hemit : s.emit = { s with
        it := { s.it with buffer := rest.map (·.2.stored) }
        results := s.results ++ [(some (.ok a.2.stored), s.source)] } := by
      simp only [Session.emit, hbuffer, List.map_cons]
    have happend : (hits ++ [a]) ++ rest = hits ++ a :: rest := (List.append_cons hits a rest).symm
    refine ⟨hits ++ [a], rest, happend, ?_⟩
    rw [hemit]
    refine { h with
      buffer_eq := rfl
      sorted := happend ▸ h.sorted
      below := happend ▸ h.below
      ahead := happend ▸ h.ahead
      yielded := ?_
      fetched := fun b hb => h.fetched b (List.mem_cons_of_mem a hb)
      not_failed := List.forall_mem_append.2 ⟨h.not_failed, ?_⟩
      ended := fun source hlast => ?_ }
    · have hlast : (a.2.stored = a.2.stored ∧ s.source.IsMatch c.predicate filter a) :=
        ⟨rfl, h.fetched a List.mem_cons_self⟩
      rw [Session.yielded, List.filterMap_append]
      exact List.rel_append h.yielded (.cons hlast .nil)
    · exact List.forall_mem_singleton.2 fun e he => by cases he
    · rw [List.getLast?_concat] at hlast
      cases hlast

/-! ## What is fetched has no gaps -/

/-- A session without a limit has fetched all matches from the skipped ones up to its rank, and up
to the end of what the last fetch saw if it is finished. -/
structure Complete (c : QueryContext) (filter : Option Query) (s : Session) (fetched : List Hit) :
    Prop where
  batched : ∃ size, s.it.mode = .batched size
  offset_eq : s.it.offset = c.skip.getD 0 + fetched.length
  isPrefix : fetched <+: (s.engine.found c.predicate filter).drop (c.skip.getD 0)
  finished : s.it.finished = true →
    fetched = (s.source.found c.predicate filter).drop (c.skip.getD 0)

lemma complete_start (config : ExecutorConfig) {c : QueryContext} (htake : c.take = none)
    (filter : Option Query) (m : MemoryEngine) :
    Complete c filter (start config c filter m) [] where
  batched := ⟨max config.batchSize 1, by simp only [start, ofContext, htake]⟩
  offset_eq := rfl
  isPrefix := List.nil_prefix
  finished := by
    intro h
    simp [start, ofContext, htake] at h

/-- Calls that take nothing away leave no gap. -/
lemma Complete.call (h : Complete c filter s fetched) {call : EngineCall}
    (htaken : call.taken s.engine = 0) : Complete c filter (s.step (.call call)) fetched := by
  obtain ⟨kept, added, hfound, -, hall, -⟩ := call.exists_found_run s.engine c.predicate filter
  obtain rfl := hall htaken
  refine { h with isPrefix := h.isPrefix.trans ?_ }
  have hprefix : s.engine.found c.predicate filter <+:
      (call.run MemoryEngine.engine s.engine).2.found c.predicate filter :=
    hfound ▸ List.prefix_append _ _
  exact hprefix.drop _

lemma Complete.refill (h : Complete c filter s hits) (hsound : Sound c filter s hits []) :
    Complete c filter s.refill (hits ++ s.batch) := by
  have hbatch := hsound.batch_append
  have hall : (hits ++ s.batch) ++
      (s.engine.found c.predicate filter).drop (s.it.offset + s.batch.length) =
        (s.engine.found c.predicate filter).drop (c.skip.getD 0) := by
    have hhits := List.prefix_iff_eq_append.1 h.isPrefix
    rwa [List.drop_drop, ← h.offset_eq, ← hbatch, ← List.append_assoc] at hhits
  refine ⟨h.batched, ?_, ?_, fun hfinished => ?_⟩
  · rw [List.length_append, ← Nat.add_assoc, ← h.offset_eq]
    rfl
  · exact ⟨_, hall⟩
  · have hnone : (s.engine.found c.predicate filter).drop (s.it.offset + s.batch.length) = [] := by
      rw [← List.drop_drop, ← hsound.batch_eq_drop h.batched hfinished, List.drop_length]
    rw [hnone, List.append_nil] at hall
    exact hall

lemma Complete.emit (h : Complete c filter s fetched) : Complete c filter s.emit fetched := by
  rw [Session.emit]
  split
  · exact { h with }
  · exact { h with }

/-! ## Runs -/

lemma load_snd (addresses : List Nat) (m : MemoryEngine) :
    (load MemoryEngine.engine addresses m).2 = m := by
  induction addresses with
  | nil => rfl
  | cons address addresses ih =>
    rw [load]
    cases hdoc : m.doc? address with
    | none => rw [Answer.bind_error (doc_eq_error hdoc)]
    | some d =>
      rw [Answer.bind_ok (doc_eq hdoc)]
      rcases hload : load MemoryEngine.engine addresses m with ⟨r, m'⟩
      rw [hload] at ih
      cases r with
      | error e => rw [Answer.bind_error hload, ← ih]
      | ok ds => rw [Answer.bind_ok hload, ← ih]; rfl

lemma slots_leased_fetch (it : Enumeration) (m : MemoryEngine) :
    (MemoryEngine.engine.leased (it.fetch MemoryEngine.engine) m).2.slots = m.slots := by
  have hacquire : MemoryEngine.engine.acquire m = (.ok (), { m with leases := m.leases + 1 }) := rfl
  rcases hfetch : it.fetch MemoryEngine.engine { m with leases := m.leases + 1 } with ⟨r, m'⟩
  rw [Engine.leased_eq hacquire hfetch]
  have hstate : m' = { m with leases := m.leases + 1, searches := m.searches + 1 } :=
    (congrArg Prod.snd hfetch).symm.trans (load_snd _ _)
  rw [hstate]
  rfl

/-- Asking for a result writes nothing. -/
lemma slots_next (it : Enumeration) (m : MemoryEngine) :
    (it.next MemoryEngine.engine m).2.slots = m.slots := by
  have hfetch := slots_leased_fetch it m
  unfold next
  split
  · rfl
  · split
    · rfl
    · split
      next h =>
        rw [h] at hfetch
        exact hfetch
      next h =>
        rw [h] at hfetch
        exact hfetch

lemma size_le_step (s : Session) (event : SessionEvent) :
    s.engine.slots.size ≤ (s.step event).engine.slots.size := by
  cases event with
  | next => exact Nat.le_of_eq (congrArg Array.size (slots_next s.it s.engine).symm)
  | call c => exact EngineCall.size_le_run

/-- A result that is asked for is there or comes out of a batch that is fetched first; either way
the session stays sound. -/
lemma Sound.next_cases (h : Sound c filter s hits rest) (hslots : s.engine.slots.size ≤ maxCount) :
    ((s.it.buffer ≠ [] ∨ s.it.finished = true) ∧ s.step .next = s.emit ∧
      ∃ hits' rest', hits' ++ rest' = hits ++ rest ∧ Sound c filter (s.step .next) hits' rest') ∨
    (s.it.buffer = [] ∧ s.it.finished = false ∧ rest = [] ∧ s.step .next = s.refill.emit ∧
      ∃ hits' rest', hits' ++ rest' = hits ++ s.batch ∧
        Sound c filter (s.step .next) hits' rest') := by
  by_cases hready : s.it.buffer ≠ [] ∨ s.it.finished = true
  · have hend : rest = [] → s.it.finished = true := by
      rintro rfl
      exact hready.resolve_left fun hne => hne h.buffer_eq
    have hstep := step_next_of_ready hready
    exact .inl ⟨hready, hstep, hstep ▸ h.emit hend⟩
  · obtain ⟨hbuffer, hfinished⟩ := not_or.1 hready
    have hbuffer : s.it.buffer = [] := of_not_not hbuffer
    have hfinished : s.it.finished = false := Bool.of_not_eq_true hfinished
    obtain rfl : rest = [] := List.map_eq_nil_iff.1 (h.buffer_eq.symm.trans hbuffer)
    have hrefill := h.refill hfinished
    have hend : s.batch = [] → s.refill.it.finished = true := by
      intro hnone
      have hends := h.ends
      rwa [← List.length_nil (α := Hit), ← hnone] at hends
    have hstep := step_next_of_empty h.sort_eq hbuffer hfinished hslots
    exact .inr ⟨hbuffer, hfinished, rfl, hstep, hstep ▸ hrefill.emit hend⟩

/-- A result that is asked for keeps to the order, and leaves no gap. -/
lemma exists_sound_next (h : Sound c filter s hits rest) (hslots : s.engine.slots.size ≤ maxCount) :
    ∃ hits' rest', Sound c filter (s.step .next) hits' rest' ∧
      (Complete c filter s (hits ++ rest) → Complete c filter (s.step .next) (hits' ++ rest')) := by
  obtain ⟨-, hstep, hits', rest', happend, hsound⟩ |
    ⟨-, -, rfl, hstep, hits', rest', happend, hsound⟩ := h.next_cases hslots
  · refine ⟨hits', rest', hsound, fun hcomplete => ?_⟩
    rw [hstep, happend]
    exact hcomplete.emit
  · refine ⟨hits', rest', hsound, fun hcomplete => ?_⟩
    rw [List.append_nil] at hcomplete
    rw [hstep, happend]
    exact (hcomplete.refill h).emit

/-- Whatever happens in a session, it is sound, and complete unless something is deleted. -/
lemma exists_sound_run (config : ExecutorConfig) (hsort : c.sort.isNatural = true)
    (filter : Option Query) (m : MemoryEngine) (events : List SessionEvent)
    (hslots : ((start config c filter m).run events).engine.slots.size ≤ maxCount) :
    ∃ hits rest, Sound c filter ((start config c filter m).run events) hits rest ∧
      (c.take = none → ((start config c filter m).run events).deleted = 0 →
        Complete c filter ((start config c filter m).run events) (hits ++ rest)) := by
  induction events using List.reverseRecOn with
  | nil =>
    exact ⟨[], [], sound_start config c hsort filter m, fun htake _ =>
      complete_start config htake filter m⟩
  | append_singleton events event ih =>
    have hstep : (start config c filter m).run (events ++ [event]) =
        ((start config c filter m).run events).step event := List.foldl_concat ..
    rw [hstep] at hslots ⊢
    have hbefore := Nat.le_trans (size_le_step _ event) hslots
    obtain ⟨hits, rest, hsound, hcomplete⟩ := ih hbefore
    cases event with
    | next =>
      obtain ⟨hits', rest', hsound', hcomplete'⟩ := exists_sound_next hsound hbefore
      exact ⟨hits', rest', hsound', fun htake hdeleted => hcomplete' (hcomplete htake hdeleted)⟩
    | call call =>
      refine ⟨hits, rest, hsound.call call, fun htake hdeleted => ?_⟩
      obtain ⟨hnone, htaken⟩ := Nat.add_eq_zero_iff.1 hdeleted
      exact (hcomplete htake hnone).call htaken

/-- **Enumerating a changing engine yields no document twice.** In any session of a context without
an order no result is a failure, and the documents yielded are those of hits at increasing
addresses, each of which was live and matched when its batch was fetched. If there is no limit and
nothing is deleted, the documents yielded by the time the end is reached are all matches of the
last fetch from the skipped ones on. The slots of an engine are a count. -/
theorem yielded_increasing (config : ExecutorConfig) (c : QueryContext)
    (hsort : c.sort.isNatural = true) (filter : Option Query) (m : MemoryEngine)
    (events : List SessionEvent)
    (hslots : ((start config c filter m).run events).engine.slots.size ≤ maxCount) :
    let s := (start config c filter m).run events
    (∀ r ∈ s.results, ∀ e, r.1 ≠ some (.error e)) ∧
    ∃ hits : List Hit, hits.Pairwise (fun a b => a.1 < b.1) ∧
      List.Forall₂ (fun y a => y.1 = a.2.stored ∧ y.2.IsMatch c.predicate filter a)
        s.yielded hits ∧
      (c.take = none → s.deleted = 0 →
        ∀ source ranking, s.results.getLast? = some (none, source) →
          source.IsRanking c.predicate filter [] ranking →
            hits = ranking.drop (c.skip.getD 0)) := by
  intro s
  obtain ⟨hits, rest, hsound, hcomplete⟩ := exists_sound_run config hsort filter m events hslots
  refine ⟨hsound.not_failed, hits, hsound.sorted.sublist (List.sublist_append_left _ _),
    hsound.yielded, fun htake hdeleted source ranking hlast hranking => ?_⟩
  obtain ⟨hfinished, rfl, rfl⟩ := hsound.ended source hlast
  have hall := (hcomplete htake hdeleted).finished hfinished
  rw [List.append_nil] at hall
  rw [hall, hranking.unique isRanking_found]

/-- The document of a number. -/
def number (n : Int64) : Document := ⟨[⟨"n", .long n, ⟨true, true, false⟩⟩]⟩

/-- A session in batches of one document. There are two numbers, with a deleted document between
them, and a third number is written after the first result. -/
def threeNumbers : Session :=
  (start ⟨1⟩ {} none
    { slots := #[some (.ofDocument (number 1)), none, some (.ofDocument (number 2))]
      live := 2 }).run [.next, .call (.write (number 3)), .next, .next, .next]

theorem yielded_increasing_numbers :
    threeNumbers.engine.slots.size ≤ maxCount ∧
      threeNumbers.yielded.map (·.1) = [number 1, number 2, number 3] ∧
      ∃ hits : List Hit, hits.Pairwise (fun a b => a.1 < b.1) ∧
        List.Forall₂ (fun y a => y.1 = a.2.stored ∧ y.2.IsMatch .all none a)
          threeNumbers.yielded hits ∧
        hits = [(0, number 1), (2, number 2), (3, number 3)] := by
  have hslots : threeNumbers.engine.slots.size ≤ maxCount := by decide +kernel
  have hyielded : threeNumbers.yielded.map (·.1) = [number 1, number 2, number 3] := by
    decide +kernel
  have hdeleted : threeNumbers.deleted = 0 := by decide +kernel
  have hend : (threeNumbers.results.getLast?.map fun r => (r.1.isNone, r.2.found .all none)) =
      some (true, [(0, number 1), (2, number 2), (3, number 3)]) := by decide +kernel
  unfold threeNumbers at *
  obtain ⟨-, hits, hsorted, hdocuments, hcomplete⟩ :=
    yielded_increasing ⟨1⟩ {} rfl none _ _ hslots
  obtain ⟨⟨r, source⟩, hlast, hr⟩ := Option.map_eq_some_iff.1 hend
  obtain ⟨hnone, hfound⟩ := Prod.mk.inj hr
  obtain rfl := Option.isNone_iff_eq_none.1 hnone
  have hhits := hcomplete rfl hdeleted source _ hlast isRanking_found
  rw [hfound] at hhits
  exact ⟨hslots, hyielded, hits, hsorted, hdocuments, hhits⟩

end Session

end FieldSearch
