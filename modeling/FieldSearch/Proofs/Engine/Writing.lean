import FieldSearch.Proofs.Engine.Slots

/-!
# Writing to an engine

The calls that write to an engine, as one type. Whatever the call, the memory engine empties the
slots of the documents that match its query and puts its document into the next slot
(`EngineCall.run_snd`). A call with an empty document is refused, and then does neither.

`EngineCall.onList` is the same call on a plain list of documents. It knows of no slots, no
addresses and no counter, and the memory engine keeps to it as long as its slots have the terms of
their documents and its counter is right (`MemoryEngine.Tracks`): it answers alike
(`Tracks.run_fst`), and its documents by address are the list (`Tracks.documents_run`).
-/

namespace FieldSearch

/-- Whether a query finds a document once it is written. -/
def Query.finds (q : Query) (d : Document) : Bool := (IndexedDocument.ofDocument d).satisfies q

/-- A call that writes to an engine. -/
inductive EngineCall where
  | write (d : Document)
  | deleteBy (q : Query)
  | replaceBy (q : Query) (d : Document)
deriving Repr

namespace EngineCall

open MemoryEngine

/-- The call, with the number of the documents that it takes away. -/
def run {σ : Type} (e : Engine σ) : EngineCall → Answer σ Nat
  | write d => do
    e.write d
    return 0
  | deleteBy q => e.deleteBy q
  | replaceBy q d => e.replaceBy q d

/-- The call on a list of documents: a document goes to its end, unless it is empty, and the
documents that a query finds are taken out of it and counted. -/
def onList : EngineCall → List Document → Except Error Nat × List Document
  | write d, ds => if d.isEmpty then (.error .emptyDocument, ds) else (.ok 0, ds ++ [d])
  | deleteBy q, ds => (.ok (ds.countP q.finds), ds.filter fun d => !q.finds d)
  | replaceBy q d, ds =>
    if d.isEmpty then (.error .emptyDocument, ds)
    else (.ok (ds.countP q.finds), ds.filter (fun d => !q.finds d) ++ [d])

/-- The query of the documents that a call takes away. -/
def gone : EngineCall → Option Query
  | write _ => none
  | deleteBy q => some q
  | replaceBy q d => if d.isEmpty then none else some q

/-- The documents that a call puts in, which are one or none. -/
def added : EngineCall → List Document
  | write d | replaceBy _ d => if d.isEmpty then [] else [d]
  | deleteBy _ => []

/-- Whether a call takes a document away that was written before it. -/
def takes (c : EngineCall) (d : Document) : Bool := c.gone.any (·.finds d)

/-- The number of documents that a call takes away. -/
def taken (c : EngineCall) (m : MemoryEngine) : Nat := (c.gone.map m.countMatching).getD 0

/-! ## One call -/

/-- A call is refused and changes nothing, or takes away what its query finds and puts its
document behind all others; and the same call on a list is refused or does the same. -/
theorem run_cases (c : EngineCall) (m : MemoryEngine) :
    (c.gone = none ∧ c.added = [] ∧ c.run engine m = (.error .emptyDocument, m) ∧
      ∀ ds, c.onList ds = (.error .emptyDocument, ds)) ∨
    (c.run engine m = (.ok (c.taken m), (m.without c.gone).pushAll c.added) ∧
      ∀ ds, c.onList ds =
        (.ok (ds.countP c.takes), ds.filter (fun d => !c.takes d) ++ c.added)) := by
  cases c with
  | write d =>
    cases hd : d.isEmpty with
    | true =>
      refine .inl ⟨rfl, by simp [added, hd], Answer.bind_error (write_empty hd m), fun ds => ?_⟩
      simp [onList, hd]
    | false =>
      refine .inr ⟨?_, fun ds => ?_⟩
      · rw [run, Answer.bind_ok (write_eq hd m), added, hd]
        rfl
      · have htakes : (write d).takes = fun _ => false := rfl
        have hall : ds.filter (fun _ => true) = ds := List.filter_eq_self.2 fun _ _ => rfl
        simp [onList, added, htakes, hd, hall]
  | deleteBy q =>
    have htakes : (deleteBy q).takes = q.finds := rfl
    refine .inr ⟨rfl, fun ds => ?_⟩
    simp [onList, added, htakes]
  | replaceBy q d =>
    cases hd : d.isEmpty with
    | true =>
      exact .inl ⟨by simp [gone, hd], by simp [added, hd], replaceBy_empty hd q m,
        fun ds => by simp [onList, hd]⟩
    | false =>
      have hgone : (replaceBy q d).gone = some q := by simp [gone, hd]
      have htakes : (replaceBy q d).takes = q.finds := by
        funext d'
        simp [takes, hgone]
      refine .inr ⟨?_, fun ds => ?_⟩
      · rw [run, replaceBy_eq hd q m, taken, hgone, added, hd]
        rfl
      · simp [onList, added, htakes, hd]

variable {m : MemoryEngine} {c : EngineCall}

/-- What a call leaves behind, refused or not. -/
lemma run_snd : (c.run engine m).2 = (m.without c.gone).pushAll c.added := by
  obtain ⟨hgone, hadded, hrun, -⟩ | ⟨hrun, -⟩ := c.run_cases m
  · rw [hrun, hgone, hadded]
    rfl
  · rw [hrun]

lemma size_le_run : m.slots.size ≤ (c.run engine m).2.slots.size := by
  rw [run_snd, size_pushAll, size_without]
  exact Nat.le_add_right _ _

/-- A call that takes nothing away spares all documents. -/
lemma spares_of_taken (h : c.taken m = 0) {p : Query} {filter : Option Query} {a : Hit}
    (ha : a ∈ m.found p filter) : m.spares c.gone a = true := by
  obtain ⟨x, hslot, hdocument, -⟩ := mem_found.1 ha
  refine (spares_iff hslot).2 fun q hq => Bool.of_not_eq_true fun hmatch => ?_
  have hfound : a ∈ m.found q none :=
    mem_found.2 ⟨x, hslot, hdocument, hmatch, by rintro p ⟨⟩⟩
  rw [taken, Option.mem_def.1 hq, Option.map_some, Option.getD_some, countMatching_eq,
    List.length_eq_zero_iff] at h
  rw [h] at hfound
  exact List.not_mem_nil hfound

/-- Behind a call, the matches are those of before that it leaves, all of them if it takes nothing
away, followed by new ones at addresses of their own. -/
lemma exists_found_run (c : EngineCall) (m : MemoryEngine) (p : Query) (filter : Option Query) :
    ∃ kept added, (c.run engine m).2.found p filter = kept ++ added ∧
      kept.Sublist (m.found p filter) ∧ (c.taken m = 0 → kept = m.found p filter) ∧
      ∀ a ∈ added, m.slots.size ≤ a.1 := by
  obtain ⟨added, hfound, hadded⟩ := found_pushAll (m.without c.gone) p filter c.added
  refine ⟨(m.found p filter).filter (m.spares c.gone), added, ?_, List.filter_sublist,
    fun h => List.filter_eq_self.2 fun a ha => spares_of_taken h ha, fun a ha => ?_⟩
  · rw [run_snd, hfound, found_without]
  · exact size_without ▸ hadded a ha

end EngineCall

/-! ## Keeping to a list -/

namespace MemoryEngine

/-- The slots of the engine have what was written, with its terms, or nothing any more, and its
counter is the number of its documents. -/
structure Tracks (m : MemoryEngine) (written : List Document) : Prop where
  logged : Logged (· = ·) written m
  live_eq : m.live = m.documents.length

lemma live_pushAll (m : MemoryEngine) (ds : List Document) :
    (m.pushAll ds).live = m.live + ds.length := by
  induction ds generalizing m with
  | nil => rfl
  | cons d ds ih =>
    have hstep : m.pushAll (d :: ds) = (m.push (.ofDocument d)).pushAll ds := rfl
    rw [hstep, ih, List.length_cons]
    exact Nat.add_right_comm m.live 1 ds.length

lemma length_documents (m : MemoryEngine) : m.documents.length = (m.matching .all none).length := by
  rw [documents, List.length_map, ← found_all, length_found]

/-- The empty engine has written nothing. -/
lemma tracks_empty : ({} : MemoryEngine).Tracks [] := ⟨.nil, rfl⟩

namespace Tracks

variable {m : MemoryEngine} {written : List Document} {q : Query} {gone : Option Query}
  {c : EngineCall}

/-- A live document is the one that was written at its address, with its terms. -/
lemma slot_eq (h : m.Tracks written) {a : Hit} (ha : a ∈ m.liveDocuments) :
    m.slots[a.1]? = some (some (.ofDocument a.2)) ∧ written[a.1]? = some a.2 := by
  obtain ⟨x, hslot, hdocument⟩ := mem_liveDocuments.1 ha
  obtain ⟨record, d, hrecord, rfl, rfl⟩ := h.logged.exists_record hslot
  have hd : record = a.2 := hdocument
  rw [hslot, hrecord, hd]
  exact ⟨rfl, rfl⟩

/-- Deleting takes the documents that are found out of the list. -/
lemma documents_without (h : m.Tracks written) (gone : Option Query) :
    (m.without gone).documents = m.documents.filter fun d => !gone.any (·.finds d) := by
  have hspares : ∀ a ∈ m.liveDocuments, m.spares gone a = !gone.any (·.finds a.2) := by
    intro a ha
    rw [spares, (h.slot_eq ha).1]
    rfl
  rw [documents, documents, ← found_all, found_without, found_all, List.filter_congr hspares,
    List.filter_map]
  rfl

/-- The matches are the live documents that the query and the filter find. -/
lemma found_eq_filter (h : m.Tracks written) (q : Query) (filter : Option Query) :
    m.found q filter =
      m.liveDocuments.filter fun a => q.finds a.2 && filter.all (·.finds a.2) := by
  refine isRanking_found.unique ⟨fun a => ?_, ?_⟩
  · rw [List.mem_filter, Bool.and_eq_true, Option.all_eq_true, IsMatch]
    constructor
    · rintro ⟨ha, hfinds, hfilter⟩
      exact ⟨_, (h.slot_eq ha).1, rfl, hfinds, hfilter⟩
    · rintro ⟨x, hslot, hdocument, hfinds, hfilter⟩
      have ha : a ∈ m.liveDocuments := mem_liveDocuments.2 ⟨x, hslot, hdocument⟩
      obtain rfl : x = .ofDocument a.2 :=
        Option.some.inj (Option.some.inj (hslot.symm.trans (h.slot_eq ha).1))
      exact ⟨ha, hfinds, hfilter⟩
  · exact (liveDocuments_pairwise.sublist List.filter_sublist).imp .byAddress

/-- The documents that a query finds, counted in the list. -/
lemma countMatching_eq_countP (h : m.Tracks written) (q : Query) :
    m.countMatching q = m.documents.countP q.finds := by
  have hfound : m.found q none = m.liveDocuments.filter fun a => q.finds a.2 := by
    simpa only [Option.all_none, Bool.and_true] using h.found_eq_filter q none
  rw [countMatching_eq, hfound, documents, List.countP_map, List.countP_eq_length_filter]
  rfl

lemma taken_eq (h : m.Tracks written) (c : EngineCall) :
    c.taken m = m.documents.countP c.takes := by
  unfold EngineCall.taken EngineCall.takes
  cases c.gone with
  | none => simp
  | some q =>
    simp only [Option.map_some, Option.getD_some, Option.any_some]
    exact h.countMatching_eq_countP q

/-- The counter is not below what is taken from it. -/
lemma taken_le (h : m.Tracks written) (c : EngineCall) : c.taken m ≤ m.live := by
  rw [h.taken_eq, h.live_eq]
  exact List.countP_le_length

lemma live_without (m : MemoryEngine) (c : EngineCall) :
    (m.without c.gone).live = m.live - c.taken m := by
  unfold EngineCall.taken
  cases c.gone <;> rfl

/-- A call answers as it does on the list of the documents. -/
theorem run_fst (h : m.Tracks written) (c : EngineCall) :
    (c.run engine m).1 = (c.onList m.documents).1 := by
  obtain ⟨-, -, hrun, hlist⟩ | ⟨hrun, hlist⟩ := c.run_cases m
  · rw [hrun, hlist]
  · rw [hrun, hlist, h.taken_eq]

/-- A call leaves the documents that it leaves on the list of them. -/
theorem documents_run (h : m.Tracks written) (c : EngineCall) :
    (c.run engine m).2.documents = (c.onList m.documents).2 := by
  obtain ⟨-, -, hrun, hlist⟩ | ⟨hrun, hlist⟩ := c.run_cases m
  · rw [hrun, hlist]
  · rw [hrun, hlist, documents_pushAll, h.documents_without]
    rfl

/-- After a call, what was written before it is followed by what it wrote. -/
theorem run (h : m.Tracks written) (c : EngineCall) :
    (c.run engine m).2.Tracks (written ++ c.added) := by
  rw [c.run_snd]
  refine ⟨(h.logged.without c.gone).pushAll (List.forall₂_same.2 fun d _ => rfl), ?_⟩
  have hleft : (m.documents.filter fun d => !c.gone.any (·.finds d)).length =
      m.documents.length - m.documents.countP c.takes := by
    have hsplit := List.length_eq_length_filter_add c.takes (l := m.documents)
    rw [List.countP_eq_length_filter]
    exact Nat.eq_sub_of_add_eq' hsplit.symm
  rw [live_pushAll, live_without, documents_pushAll, h.documents_without, List.length_append,
    h.taken_eq, h.live_eq, hleft]

end Tracks

end MemoryEngine

end FieldSearch
