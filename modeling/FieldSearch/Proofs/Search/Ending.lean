import FieldSearch.Proofs.Search.Draining

/-!
# How enumerations end

An engine may answer as it likes: refuse a lease, fail in the middle of a batch, find too few hits
or too many, and change its mind from call to call. An enumeration ends all the same, at most once
with a failure, and stays ended.

What an engine was asked is no part of a result, so the engine is made to keep a record
(`Engine.recorded`): its replies, lease by lease. A batch is a lease under which the hits of one
search were looked up to the last one (`Lease.Fetches`), and `Fetched` puts batches together. An
enumeration yields the documents of its batches. A lease that fails (`Lease.Fails`) ends it and
adds nothing, however many of its hits had been looked up.

Main statement: `Enumeration.polls_end_once`.
-/

namespace FieldSearch

/-! ## Engines that keep a record -/

/-- What an engine says to a call. -/
inductive Reply where
  /-- The lease begins. -/
  | granted
  /-- The hits of a search. -/
  | found (top : TopDocs)
  /-- The document at an address. -/
  | loaded (address : Nat) (d : Document)
  /-- The answer to any other call. -/
  | answered
  /-- The call failed. -/
  | failed (e : Error)
  /-- The lease ends. -/
  | released

/-- The replies under one lease, in order. -/
abbrev Lease := List Reply

/-- Adds a reply to the last lease. -/
def Lease.note (r : Reply) (leases : List Lease) : List Lease :=
  leases.dropLast ++ [leases.getLastD [] ++ [r]]

@[simp] lemma Lease.note_concat (r : Reply) (leases : List Lease) (lease : Lease) :
    note r (leases ++ [lease]) = leases ++ [lease ++ [r]] := by
  simp [note]

namespace Engine

variable {σ α : Type}

/-- A call whose reply is added to the record. -/
def noted (reply : α → Reply) (call : Answer σ α) : Answer (σ × List Lease) α :=
  fun (s, leases) =>
    match call s with
    | (.ok a, s) => (.ok a, (s, Lease.note (reply a) leases))
    | (.error e, s) => (.error e, (s, Lease.note (.failed e) leases))

/-- The engine with a record of its replies. -/
def recorded (e : Engine σ) : Engine (σ × List Lease) where
  write d := noted (fun _ => .answered) (e.write d)
  deleteBy q := noted (fun _ => .answered) (e.deleteBy q)
  replaceBy q d := noted (fun _ => .answered) (e.replaceBy q d)
  acquire := fun (s, leases) => noted (fun _ => .granted) e.acquire (s, leases ++ [[]])
  release := fun (s, leases) => (e.release s, Lease.note .released leases)
  search q filter sort limit := noted .found (e.search q filter sort limit)
  count q filter := noted (fun _ => .answered) (e.count q filter)
  doc address := noted (.loaded address) (e.doc address)
  extent := fun (s, _) => e.extent s

variable {reply : α → Reply} {call : Answer σ α} {s s' : σ} {leases : List Lease} {lease : Lease}

lemma noted_ok {a : α} (h : call s = (.ok a, s')) :
    noted reply call (s, leases ++ [lease]) = (.ok a, (s', leases ++ [lease ++ [reply a]])) := by
  simp only [noted, h, Lease.note_concat]

lemma noted_error {err : Error} (h : call s = (.error err, s')) :
    noted reply call (s, leases ++ [lease]) =
      (.error err, (s', leases ++ [lease ++ [.failed err]])) := by
  simp only [noted, h, Lease.note_concat]

end Engine

/-! ## Batches -/

/-- The hits of a batch, which starts at a rank. -/
def FetchMode.batch (mode : FetchMode) (offset : Nat) (hits : List Nat) : List Nat :=
  match mode with
  | .bounded take => (hits.drop offset).take take
  | .batched _ => hits.drop offset

/-- Under the lease the documents of a batch were looked up, one for each hit. -/
def Lease.Fetches (mode : FetchMode) (offset : Nat) (lease : Lease) (ds : List Document) : Prop :=
  ∃ top : TopDocs, ds.length = (mode.batch offset top.hits).length ∧
    lease = .granted :: .found top ::
      List.zipWith .loaded (mode.batch offset top.hits) ds ++ [.released]

/-- The lease was refused, or a failure ended it. -/
inductive Lease.Fails (err : Error) : Lease → Prop
  | refused : Fails err [.failed err]
  | broken (before : List Reply) : Fails err (.granted :: before ++ [.failed err, .released])

/-- Leases under which batches were fetched, each from the end of the one before, and the documents
of all of them. -/
inductive Fetched (mode : FetchMode) (offset : Nat) : List Lease → List Document → Prop
  | nil : Fetched mode offset [] []
  | concat {leases : List Lease} {lease : Lease} {ds batch : List Document}
      (h : Fetched mode offset leases ds) (hbatch : lease.Fetches mode (offset + ds.length) batch) :
      Fetched mode offset (leases ++ [lease]) (ds ++ batch)

/-- The result and the record at the end of an enumeration that has yielded the documents of its
batches. -/
inductive Closes (mode : FetchMode) (offset : Nat) (ds : List Document) :
    Option (Except Error Document) → List Lease → Prop
  | exhausted {leases : List Lease} (h : Fetched mode offset leases ds) :
    Closes mode offset ds none leases
  | failed {leases : List Lease} {lease : Lease} {err : Error} (h : Fetched mode offset leases ds)
      (hfails : lease.Fails err) : Closes mode offset ds (some (.error err)) (leases ++ [lease])

namespace Enumeration

variable {σ : Type} {e : Engine σ} {it it' : Enumeration} {s s' : σ} {leases : List Lease}
  {lease : Lease}

lemma load_recorded_ok (leases : List Lease) (lease : Lease) {addresses : List Nat}
    {ds : List Document} (h : load e addresses s = (.ok ds, s')) :
    ds.length = addresses.length ∧
      load e.recorded addresses (s, leases ++ [lease]) =
        (.ok ds, (s', leases ++ [lease ++ List.zipWith .loaded addresses ds])) := by
  induction addresses generalizing s ds lease with
  | nil =>
    obtain ⟨hds, rfl⟩ := Prod.mk.inj h
    obtain rfl := Except.ok.inj hds
    exact ⟨rfl, by rw [List.zipWith_nil_left, List.append_nil]; rfl⟩
  | cons address addresses ih =>
    obtain ⟨err, -, herr⟩ | ⟨d, s₁, hdoc, hrest⟩ := Answer.bind_cases h
    · cases herr
    obtain ⟨err, -, herr⟩ | ⟨ds', s₂, hload, hpure⟩ := Answer.bind_cases hrest
    · cases herr
    obtain ⟨hds, rfl⟩ := Prod.mk.inj hpure
    obtain rfl := Except.ok.inj hds
    obtain ⟨hlength, hrecorded⟩ := ih (lease ++ [.loaded address d]) hload
    have hnoted : e.recorded.doc address (s, leases ++ [lease]) =
        (.ok d, (s₁, leases ++ [lease ++ [.loaded address d]])) := Engine.noted_ok hdoc
    refine ⟨congrArg Nat.succ hlength, ?_⟩
    rw [load, Answer.bind_ok hnoted, Answer.bind_ok hrecorded, List.zipWith_cons_cons,
      List.append_assoc]
    rfl

lemma load_recorded_error (leases : List Lease) (lease : Lease) {addresses : List Nat}
    {err : Error} (h : load e addresses s = (.error err, s')) :
    ∃ replies, load e.recorded addresses (s, leases ++ [lease]) =
      (.error err, (s', leases ++ [lease ++ replies ++ [.failed err]])) := by
  induction addresses generalizing s lease with
  | nil => cases h
  | cons address addresses ih =>
    obtain ⟨err', hdoc, herr⟩ | ⟨d, s₁, hdoc, hrest⟩ := Answer.bind_cases h
    · obtain rfl := Except.error.inj herr
      have hnoted : e.recorded.doc address (s, leases ++ [lease]) =
          (.error err, (s', leases ++ [lease ++ [.failed err]])) := Engine.noted_error hdoc
      exact ⟨[], by rw [load, Answer.bind_error hnoted, List.append_nil]⟩
    · have hnoted : e.recorded.doc address (s, leases ++ [lease]) =
          (.ok d, (s₁, leases ++ [lease ++ [.loaded address d]])) := Engine.noted_ok hdoc
      obtain ⟨err', hload, herr⟩ | ⟨ds, s₂, -, hpure⟩ := Answer.bind_cases hrest
      · obtain rfl := Except.error.inj herr
        obtain ⟨replies, hrecorded⟩ := ih (lease ++ [.loaded address d]) hload
        refine ⟨.loaded address d :: replies, ?_⟩
        rw [load, Answer.bind_ok hnoted, Answer.bind_error hrecorded,
          List.append_cons lease _ replies]
      · cases hpure

/-- A fetch as a search and the look-up of a batch of its hits. -/
lemma fetch_eq_load_batch : it.fetch e =
    (e.search it.predicate it.filter it.sort (saturatingAdd it.offset it.mode.size) >>=
      fun found => load e (it.mode.batch it.offset found.hits)) := by
  cases hmode : it.mode <;> simp only [fetch, hmode, FetchMode.batch]

lemma fetch_recorded_ok (leases : List Lease) (lease : Lease) {ds : List Document}
    (h : it.fetch e s = (.ok ds, s')) :
    ∃ top : TopDocs, ds.length = (it.mode.batch it.offset top.hits).length ∧
      it.fetch e.recorded (s, leases ++ [lease]) = (.ok ds, (s', leases ++ [lease ++ .found top ::
        List.zipWith .loaded (it.mode.batch it.offset top.hits) ds])) := by
  rw [fetch_eq_load_batch] at h
  obtain ⟨err, -, herr⟩ | ⟨top, s₁, hsearch, hload⟩ := Answer.bind_cases h
  · cases herr
  have hnoted : e.recorded.search it.predicate it.filter it.sort
      (saturatingAdd it.offset it.mode.size) (s, leases ++ [lease]) =
        (.ok top, (s₁, leases ++ [lease ++ [.found top]])) := Engine.noted_ok hsearch
  obtain ⟨hlength, hrecorded⟩ := load_recorded_ok leases _ hload
  refine ⟨top, hlength, ?_⟩
  rw [fetch_eq_load_batch, Answer.bind_ok hnoted, hrecorded, List.append_assoc]
  rfl

lemma fetch_recorded_error (leases : List Lease) (lease : Lease) {err : Error}
    (h : it.fetch e s = (.error err, s')) :
    ∃ replies, it.fetch e.recorded (s, leases ++ [lease]) =
      (.error err, (s', leases ++ [lease ++ replies ++ [.failed err]])) := by
  rw [fetch_eq_load_batch] at h
  obtain ⟨err', hsearch, herr⟩ | ⟨top, s₁, hsearch, hload⟩ := Answer.bind_cases h
  · obtain rfl := Except.error.inj herr
    have hnoted : e.recorded.search it.predicate it.filter it.sort
        (saturatingAdd it.offset it.mode.size) (s, leases ++ [lease]) =
          (.error err, (s', leases ++ [lease ++ [.failed err]])) := Engine.noted_error hsearch
    exact ⟨[], by rw [fetch_eq_load_batch, Answer.bind_error hnoted, List.append_nil]⟩
  · have hnoted : e.recorded.search it.predicate it.filter it.sort
        (saturatingAdd it.offset it.mode.size) (s, leases ++ [lease]) =
          (.ok top, (s₁, leases ++ [lease ++ [.found top]])) := Engine.noted_ok hsearch
    obtain ⟨replies, hrecorded⟩ := load_recorded_error leases _ hload
    refine ⟨.found top :: replies, ?_⟩
    rw [fetch_eq_load_batch, Answer.bind_ok hnoted, hrecorded, List.append_cons lease _ replies]

/-- A fetch under a lease fails and adds a lease that fails, or it gives the documents of a batch
and adds the lease they were fetched under. The record changes neither. -/
lemma leased_fetch_recorded (e : Engine σ) (it : Enumeration) (s : σ) (leases : List Lease) :
    (∃ err s' lease, e.leased (it.fetch e) s = (.error err, s') ∧
      e.recorded.leased (it.fetch e.recorded) (s, leases) = (.error err, (s', leases ++ [lease])) ∧
      lease.Fails err) ∨
    ∃ ds s' lease, e.leased (it.fetch e) s = (.ok ds, s') ∧
      e.recorded.leased (it.fetch e.recorded) (s, leases) = (.ok ds, (s', leases ++ [lease])) ∧
      lease.Fetches it.mode it.offset ds := by
  rcases hacquire : e.acquire s with ⟨err | ⟨⟩, s₁⟩
  · have hnoted : e.recorded.acquire (s, leases) = (.error err, (s₁, leases ++ [[.failed err]])) :=
      Engine.noted_error hacquire
    exact .inl ⟨err, s₁, [.failed err], by simp only [Engine.leased, hacquire],
      by simp only [Engine.leased, hnoted], .refused⟩
  have hnoted : e.recorded.acquire (s, leases) = (.ok (), (s₁, leases ++ [[.granted]])) :=
    Engine.noted_ok hacquire
  rcases hfetch : it.fetch e s₁ with ⟨err | ds, s₂⟩
  · obtain ⟨replies, hrecorded⟩ :=
      fetch_recorded_error leases [.granted] hfetch
    refine .inl ⟨err, e.release s₂, .granted :: replies ++ [.failed err, .released],
      Engine.leased_eq hacquire hfetch, ?_, .broken replies⟩
    rw [Engine.leased_eq hnoted hrecorded]
    simp [Engine.recorded]
  · obtain ⟨top, hlength, hrecorded⟩ :=
      fetch_recorded_ok leases [.granted] hfetch
    refine .inr ⟨ds, e.release s₂, _, Engine.leased_eq hacquire hfetch, ?_, top, hlength, rfl⟩
    rw [Engine.leased_eq hnoted hrecorded]
    simp [Engine.recorded]

/-! ## One result -/

/-- An enumeration that began at a rank, has yielded the documents `ds`, and holds the other ones
of its batches. -/
structure Underway (mode : FetchMode) (offset : Nat) (it : Enumeration) (leases : List Lease)
    (ds : List Document) : Prop where
  mode_eq : it.mode = mode
  offset_eq : it.offset = offset + (ds ++ it.buffer).length
  fetched : Fetched mode offset leases (ds ++ it.buffer)

variable {mode : FetchMode} {offset : Nat} {ds : List Document}

lemma Underway.yield {d : Document} {rest : List Document} (h : Underway mode offset it leases ds)
    (hbuffer : it.buffer = d :: rest) :
    Underway mode offset { it with buffer := rest } leases (ds ++ [d]) := by
  have hdocuments : ds ++ it.buffer = ds ++ [d] ++ rest := by rw [hbuffer, List.append_cons]
  exact ⟨h.mode_eq, by rw [h.offset_eq, hdocuments], hdocuments ▸ h.fetched⟩

lemma Underway.refill {batch : List Document} (h : Underway mode offset it leases ds)
    (hbuffer : it.buffer = []) (hlease : lease.Fetches it.mode it.offset batch) :
    Underway mode offset { it.after batch.length with buffer := batch } (leases ++ [lease]) ds := by
  obtain ⟨rfl, hoffset, hfetched⟩ := h
  rw [hbuffer, List.append_nil] at hoffset hfetched
  rw [hoffset] at hlease
  refine ⟨rfl, ?_, hfetched.concat hlease⟩
  simp only [after, hoffset, List.length_append, Nat.add_assoc]

/-- A result is a document, with more to come, or it ends the enumeration for good. -/
lemma Underway.next_cases (h : Underway mode offset it leases ds)
    (hends : endsAfter mode 0 = true) (e : Engine σ) (s : σ) :
    ∃ r it' s' leases', it.next e.recorded (s, leases) = ((r, it'), (s', leases')) ∧
      ((∃ d, r = some (.ok d) ∧ Underway mode offset it' leases' (ds ++ [d])) ∨
        Closes mode offset ds r leases' ∧ it'.buffer = [] ∧ it'.finished = true) := by
  cases hbuffer : it.buffer with
  | cons d rest =>
    exact ⟨_, _, s, leases, next_of_buffer hbuffer, .inl ⟨d, rfl, h.yield hbuffer⟩⟩
  | nil =>
  have hfetched : Fetched mode offset leases ds := by
    simpa only [hbuffer, List.append_nil] using h.fetched
  cases hfinished : it.finished with
  | true =>
    exact ⟨none, it, s, leases, next_of_finished hbuffer hfinished,
      .inr ⟨.exhausted hfetched, hbuffer, hfinished⟩⟩
  | false =>
  obtain ⟨err, s', lease, -, hrecorded, hfails⟩ | ⟨batch, s', lease, -, hrecorded, hlease⟩ :=
    leased_fetch_recorded e it s leases
  · refine ⟨some (.error err), { it with finished := true }, s', leases ++ [lease], ?_,
      .inr ⟨.failed hfetched hfails, hbuffer, rfl⟩⟩
    simp only [next, hbuffer, hfinished, hrecorded, Bool.false_eq_true, if_false]
  · have hrefilled := h.refill hbuffer hlease
    refine ⟨_, _, s', leases ++ [lease], next_of_fetch hbuffer hfinished hrecorded, ?_⟩
    cases batch with
    | nil =>
      have hfetched : Fetched mode offset (leases ++ [lease]) ds := by
        simpa only [List.append_nil] using hrefilled.fetched
      have hfinished : endsAfter it.mode 0 = true := by rw [h.mode_eq, hends]
      exact .inr ⟨.exhausted hfetched, rfl, hfinished⟩
    | cons d batch => exact .inl ⟨d, rfl, hrefilled.yield rfl⟩

/-- The record makes no difference to a result. -/
lemma exists_next_recorded (e : Engine σ) (it : Enumeration) (s : σ) (leases : List Lease) :
    ∃ leases', it.next e.recorded (s, leases) =
      ((it.next e s).1, ((it.next e s).2, leases')) := by
  cases hbuffer : it.buffer with
  | cons d rest => exact ⟨leases, by rw [next_of_buffer hbuffer, next_of_buffer hbuffer]⟩
  | nil =>
  cases hfinished : it.finished with
  | true =>
    exact ⟨leases, by
      rw [next_of_finished hbuffer hfinished, next_of_finished hbuffer hfinished]⟩
  | false =>
  obtain ⟨err, s', lease, hplain, hrecorded, -⟩ | ⟨batch, s', lease, hplain, hrecorded, -⟩ :=
    leased_fetch_recorded e it s leases
  · refine ⟨leases ++ [lease], ?_⟩
    simp only [next, hbuffer, hfinished, hplain, hrecorded, Bool.false_eq_true, if_false]
  · exact ⟨leases ++ [lease], by
      rw [next_of_fetch hbuffer hfinished hplain, next_of_fetch hbuffer hfinished hrecorded]⟩

/-! ## All results -/

/-- The results of asking again and again, and the state behind each. The state moves before each
time. -/
def polls (e : Engine σ) :
    List (σ → σ) → Enumeration → σ → List (Option (Except Error Document) × σ)
  | [], _, _ => []
  | move :: moves, it, s =>
    let ((r, it), s) := it.next e (move s)
    (r, s) :: polls e moves it s

/-- The results of asking an engine with a record, which the moves leave as it is. -/
def recordedPolls (e : Engine σ) (moves : List (σ → σ)) (it : Enumeration) (s : σ)
    (leases : List Lease) : List (Option (Except Error Document) × σ × List Lease) :=
  polls e.recorded (moves.map fun move => Prod.map move id) it (s, leases)

variable {move : σ → σ} {moves : List (σ → σ)} {r : Option (Except Error Document)}
  {leases' : List Lease}

lemma recordedPolls_cons (h : it.next e.recorded (move s, leases) = ((r, it'), (s', leases'))) :
    recordedPolls e (move :: moves) it s leases =
      (r, s', leases') :: recordedPolls e moves it' s' leases' := by
  simp only [recordedPolls, List.map_cons, polls, Prod.map, id, h]

lemma map_recordedPolls (e : Engine σ) (moves : List (σ → σ)) (it : Enumeration) (s : σ)
    (leases : List Lease) :
    (recordedPolls e moves it s leases).map (fun p => (p.1, p.2.1)) = polls e moves it s := by
  induction moves generalizing it s leases with
  | nil => rfl
  | cons move moves ih =>
    obtain ⟨leases', hnext⟩ := exists_next_recorded e it (move s) leases
    rw [recordedPolls_cons hnext, List.map_cons, ih]
    rfl

lemma recordedPolls_of_finished (hbuffer : it.buffer = []) (hfinished : it.finished = true)
    (moves : List (σ → σ)) (s : σ) :
    ∀ p ∈ recordedPolls e moves it s leases, p.1 = none ∧ p.2.2 = leases := by
  induction moves generalizing s with
  | nil => exact fun _ h => absurd h List.not_mem_nil
  | cons move moves ih =>
    rw [recordedPolls_cons (next_of_finished hbuffer hfinished)]
    exact List.forall_mem_cons.2 ⟨⟨rfl, rfl⟩, ih (move s)⟩

/-- Documents come first. If a result follows them that is none, it closes the enumeration, and
nothing else comes, nor is the engine asked again. -/
lemma Underway.recordedPolls_cases (h : Underway mode offset it leases ds)
    (hends : endsAfter mode 0 = true) (e : Engine σ) (moves : List (σ → σ)) (s : σ) :
    ∃ yields ending, ∃ more : List Document,
      recordedPolls e moves it s leases = yields ++ ending ∧
      yields.map Prod.fst = more.map (some ∘ .ok) ∧
      (ending = [] ∨ ∃ last after, ending = last :: after ∧
        Closes mode offset (ds ++ more) last.1 last.2.2 ∧
        ∀ p ∈ after, p.1 = none ∧ p.2.2 = last.2.2) := by
  induction moves generalizing it s leases ds with
  | nil => exact ⟨[], [], [], rfl, rfl, .inl rfl⟩
  | cons move moves ih =>
    obtain ⟨r, it', s', leases', hnext, ⟨d, rfl, hunderway⟩ | ⟨hcloses, hbuffer, hfinished⟩⟩ :=
      h.next_cases hends e (move s)
    · obtain ⟨yields, ending, more, hrun, hyields, hending⟩ := ih hunderway s'
      refine ⟨(some (.ok d), s', leases') :: yields, ending, d :: more, ?_, ?_, ?_⟩
      · rw [recordedPolls_cons hnext, hrun, List.cons_append]
      · rw [List.map_cons, hyields, List.map_cons]
        rfl
      · rwa [← List.append_cons] at hending
    · refine ⟨[], _, [], recordedPolls_cons hnext, rfl, .inr ⟨_, _, rfl, ?_, ?_⟩⟩
      · rwa [List.append_nil]
      · exact recordedPolls_of_finished hbuffer hfinished moves s'

/-- Whatever the engine answers and however its state moves between two results, an enumeration
yields the documents of the batches whose fetch was completed, in order. A failure ends it, once,
with no document of the batch that failed. After the end the engine is not asked again. -/
theorem polls_end_once (config : ExecutorConfig) (c : QueryContext) (filter : Option Query)
    (e : Engine σ) (moves : List (σ → σ)) (s : σ) :
    let it := ofContext config c filter
    let run := recordedPolls e moves it s []
    run.map (fun p => (p.1, p.2.1)) = polls e moves it s ∧
      ∃ yields ending, ∃ ds : List Document,
        run = yields ++ ending ∧ yields.map Prod.fst = ds.map (some ∘ .ok) ∧
        (ending = [] ∨ ∃ last after, ending = last :: after ∧
          Closes it.mode it.offset ds last.1 last.2.2 ∧
          ∀ p ∈ after, p.1 = none ∧ p.2.2 = last.2.2) := by
  intro it run
  refine ⟨map_recordedPolls e moves it s [], ?_⟩
  have hunderway : Underway it.mode it.offset it [] [] := ⟨rfl, rfl, .nil⟩
  exact hunderway.recordedPolls_cases (endsAfter_ofContext config c filter) e moves s

end Enumeration

end FieldSearch
