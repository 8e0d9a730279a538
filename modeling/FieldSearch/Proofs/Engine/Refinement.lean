import FieldSearch.Proofs.Engine.Writing

/-!
# The memory engine is a list with deletions

From the empty engine on, calls lead to an engine that shows the documents which the same calls
leave on a list, and the next call answers as it does on the list (`EngineCall.listAll`). What the
list does not have are the addresses: the documents of a run are numbered in the order in which
they were written (`EngineCall.written`), and the number is the address of the document as long as
it is live. No call gives it to another one (`EngineCall.getElem?_runAll`).

Main statement: `EngineCall.runAll_refines`.
-/

namespace FieldSearch

namespace EngineCall

open MemoryEngine

/-- The memory engine behind calls. -/
def runAll (cs : List EngineCall) (m : MemoryEngine) : MemoryEngine :=
  cs.foldl (fun m c => (c.run engine m).2) m

/-- A list of documents behind the same calls. -/
def listAll (cs : List EngineCall) (ds : List Document) : List Document :=
  cs.foldl (fun ds c => (c.onList ds).2) ds

/-- The documents that calls write, in the order in which they do. -/
def written (cs : List EngineCall) : List Document := cs.flatMap added

variable {m : MemoryEngine} {log : List Document} {address : Nat}

lemma runAll_append (before later : List EngineCall) (m : MemoryEngine) :
    runAll (before ++ later) m = runAll later (runAll before m) := List.foldl_append

/-! ## Contents -/

lemma tracks_runAll (h : m.Tracks log) (cs : List EngineCall) :
    (runAll cs m).Tracks (log ++ written cs) := by
  induction cs generalizing m log with
  | nil => rwa [written, List.flatMap_nil, List.append_nil]
  | cons c cs ih =>
    rw [written, List.flatMap_cons, ← List.append_assoc]
    exact ih (h.run c)

lemma documents_runAll (h : m.Tracks log) (cs : List EngineCall) :
    (runAll cs m).documents = listAll cs m.documents := by
  induction cs generalizing m log with
  | nil => rfl
  | cons c cs ih =>
    have hrest := ih (h.run c)
    rw [h.documents_run] at hrest
    exact hrest

/-! ## Addresses -/

/-- A call leaves the slots before its own as they are, but for the documents it takes away. -/
lemma getElem?_run (c : EngineCall) {slot : Option IndexedDocument}
    (hslot : m.slots[address]? = some slot) :
    (c.run engine m).2.slots[address]? =
      some (if c.gone.any (slotMatches · slot) then none else slot) := by
  have hlt : address < m.slots.size := (Array.getElem?_eq_some_iff.1 hslot).1
  rw [run_snd, getElem?_pushAll (size_without.symm ▸ hlt)]
  cases c.gone with
  | none => exact hslot
  | some q =>
    rw [without, erase, Array.getElem?_map, hslot]
    rfl

/-- Whatever is called, a slot keeps its document until one of the calls takes it away, and stays
empty from then on. -/
lemma getElem?_runAll (cs : List EngineCall) {slot : Option IndexedDocument}
    (hslot : m.slots[address]? = some slot) :
    (runAll cs m).slots[address]? =
      some (if cs.any (fun c => c.gone.any (slotMatches · slot)) then none else slot) := by
  induction cs generalizing m slot with
  | nil => exact hslot
  | cons c cs ih =>
    have hrest := ih (getElem?_run c hslot)
    -- No query finds anything in an empty slot, so a slot that is emptied is left alone.
    have hempty : cs.any (fun c => c.gone.any (slotMatches · none)) = false := by
      refine List.any_eq_false.2 fun c' _ => ?_
      cases c'.gone <;> simp [slotMatches]
    rw [List.any_cons]
    cases htaken : c.gone.any (slotMatches · slot) with
    | true =>
      rw [htaken, if_pos rfl, hempty] at hrest
      exact hrest
    | false =>
      rw [htaken, if_neg Bool.false_ne_true] at hrest
      rw [Bool.false_or]
      exact hrest

lemma getElem?_size_pushAll (m : MemoryEngine) (d : Document) :
    (m.pushAll [d]).slots[m.slots.size]? = some (some (.ofDocument d)) := by
  rw [← Array.getElem?_toList, slots_pushAll, ← Array.length_toList]
  exact List.getElem?_concat_length

/-- The document of a call is found at its address until a later call takes it away. -/
lemma doc_runAll (h : m.Tracks log) {c : EngineCall} {d : Document} (hadded : c.added = [d])
    (later : List EngineCall) :
    engine.doc log.length (runAll (c :: later) m) =
      (if later.any (·.takes d) then .error (.noDocument log.length) else .ok d.stored,
        runAll (c :: later) m) := by
  have hslot : (c.run engine m).2.slots[log.length]? = some (some (.ofDocument d)) := by
    have hsize : (m.without c.gone).slots.size = m.slots.size := size_without
    rw [run_snd, hadded, h.logged.length_eq, ← hsize]
    exact getElem?_size_pushAll _ d
  have hlater : (runAll (c :: later) m).slots[log.length]? =
      some (if later.any (·.takes d) then none else some (.ofDocument d)) :=
    getElem?_runAll later hslot
  cases htaken : later.any (·.takes d) with
  | true =>
    exact doc_eq_error (by rw [doc?, hlater, htaken]; rfl)
  | false =>
    exact doc_eq (by rw [doc?, hlater, htaken]; rfl)

/-- Nothing of before a call matches its query any more. -/
lemma size_le_of_mem_found {c : EngineCall} {q : Query} (hq : q ∈ c.gone) {a : Hit}
    (ha : a ∈ (c.run engine m).2.found q none) : m.slots.size ≤ a.1 := by
  obtain ⟨added, hfound, hadded⟩ := found_pushAll (m.without c.gone) q none c.added
  rw [run_snd, hfound, found_without_self hq, List.nil_append] at ha
  exact size_without ▸ hadded a ha

/-! ## Runs -/

/-- **The memory engine is a list with deletions.** Behind any calls on the empty engine, its
documents by address are what the calls leave on a list, and it counts as many. The next call
answers as it does on the list; when it fails it changes nothing, and otherwise nothing of before
matches its query any more. An address belongs to the document that was written under its number,
whatever is called later, and that document is read there until a call takes it away. -/
theorem runAll_refines (cs : List EngineCall) :
    let m := runAll cs {}
    let ds := listAll cs []
    m.documents = ds ∧ m.live = ds.length ∧ engine.count .all none m = (.ok ds.length, m) ∧
      (∀ c : EngineCall,
        (c.run engine m).1 = (c.onList ds).1 ∧
        (∀ e, (c.run engine m).1 = .error e → (c.run engine m).2 = m) ∧
        ∀ q ∈ c.gone, m.countMatching q ≤ m.live ∧
          ∀ a ∈ (c.run engine m).2.found q none, m.slots.size ≤ a.1) ∧
      (∀ later, ∀ a ∈ (runAll later m).liveDocuments, a.1 < m.slots.size →
        (written cs)[a.1]? = some a.2) ∧
      ∀ before c later d, cs = before ++ c :: later → c.added = [d] →
        engine.doc (written before).length m =
          (if later.any (·.takes d) then .error (.noDocument (written before).length)
            else .ok d.stored, m) := by
  intro m ds
  have htracks : m.Tracks (written cs) := tracks_runAll tracks_empty cs
  have hdocuments : m.documents = ds := documents_runAll tracks_empty cs
  have hlive : m.live = ds.length := hdocuments ▸ htracks.live_eq
  have hcount : engine.count .all none m = (.ok ds.length, m) := by
    rw [← hdocuments, length_documents]
    rfl
  refine ⟨hdocuments, hlive, hcount, fun c => ⟨?_, fun e he => ?_, fun q hq => ⟨?_, ?_⟩⟩, ?_, ?_⟩
  · rw [← hdocuments]
    exact htracks.run_fst c
  · obtain ⟨-, -, hrun, -⟩ | ⟨hrun, -⟩ := c.run_cases m
    · rw [hrun]
    · rw [hrun] at he
      cases he
  · have htaken : c.taken m = m.countMatching q := by
      rw [taken, Option.mem_def.1 hq]
      rfl
    exact htaken ▸ htracks.taken_le c
  · exact fun a ha => size_le_of_mem_found hq ha
  · intro later a ha hlt
    have hslot := ((tracks_runAll htracks later).slot_eq ha).2
    rwa [List.getElem?_append_left (htracks.logged.length_eq ▸ hlt)] at hslot
  · intro before c later d hcs hadded
    have hm : m = runAll (c :: later) (runAll before {}) := by
      rw [← runAll_append, ← hcs]
    rw [hm]
    exact doc_runAll (tracks_runAll tracks_empty before) hadded later

/-- Two notes with a refused one between them; then a note like the first one takes its place. -/
theorem runAll_refines_notes :
    let note (text : String) : Document :=
      Document.empty.addField "text" (.string text) (FieldOption.exact.withStored true)
    let cs := [write (note "a"), write .empty, write (note "b"),
      replaceBy (.term "text" "a") (note "a")]
    let m := runAll cs {}
    m.documents = [note "b", note "a"] ∧ m.live = 2 ∧
      ((deleteBy (.term "text" "a")).run engine m).1 = .ok 1 ∧
      engine.doc 0 m = (.error (.noDocument 0), m) ∧ engine.doc 2 m = (.ok (note "a"), m) := by
  intro note cs m
  obtain ⟨hdocuments, hlive, -, hcalls, -, hdoc⟩ := runAll_refines cs
  have hlist : listAll cs [] = [note "b", note "a"] := by decide +kernel
  have hcall := (hcalls (deleteBy (.term "text" "a"))).1
  have hfirst := hdoc [] (write (note "a")) _ (note "a") rfl rfl
  have hwritten : (written [write (note "a"), write .empty, write (note "b")]).length = 2 := by
    decide
  have hstored : (note "a").stored = note "a" := by decide
  have hlast := hdoc [write (note "a"), write .empty, write (note "b")]
    (replaceBy (.term "text" "a") (note "a")) [] (note "a") rfl rfl
  rw [hlist] at hdocuments hlive hcall
  have hcount : ((deleteBy (.term "text" "a")).onList [note "b", note "a"]).1 = .ok 1 := by
    decide +kernel
  have htaken : [write .empty, write (note "b"), replaceBy (.term "text" "a") (note "a")].any
      (·.takes (note "a")) = true := by decide +kernel
  rw [htaken] at hfirst
  rw [hwritten, hstored] at hlast
  exact ⟨hdocuments, hlive, hcall.trans hcount, hfirst, hlast⟩

end EngineCall

end FieldSearch
