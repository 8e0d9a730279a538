import FieldSearch.Proofs.Index.Calls
import FieldSearch.Proofs.Search.Objects

/-!
# Isolation of types

The log of a run has the types under which each of its objects was recorded, in the order of the
writes. Slots are never used twice and writes always go behind all others, so the log tells for
every address what was recorded there, whatever became of the document since
(`IndexRun.recorded_slots`).

From the log alone one can tell what a query for a type yields: the live documents with an entry of
that type. And a call for a type can only take away documents with an entry of that type.

Main statement: `IndexRun.yields_logged`.
-/

namespace FieldSearch

variable {ω : Type}

/-- The states that calls lead to from an empty engine, with the log of the run. -/
inductive IndexRun (i : ObjectIndex MemoryEngine) :
    IndexState MemoryEngine ω → List RecordedTypes → Prop
  | start (clock : WriteClock) (surroundings : ω) : IndexRun i ⟨{}, clock, surroundings⟩ []
  | call {s s' : IndexState MemoryEngine ω} {log : List RecordedTypes} {c : IndexCall ω}
      (before : IndexRun i s log) (h : c.run i s = (.ok (), s')) :
      IndexRun i s' (log ++ c.recorded)
  | failedCall {s s' : IndexState MemoryEngine ω} {log : List RecordedTypes} {c : IndexCall ω}
      {e : Error} (before : IndexRun i s log) (h : c.run i s = (.error e, s')) :
      IndexRun i s' log

namespace IndexRun

/-- A slot is empty or has the document of an object that was recorded under the types. -/
def Holds (m : FieldMapper) (types : RecordedTypes) (slot : Option IndexedDocument) : Prop :=
  ∀ x ∈ slot, ∃ d, x = .ofDocument d ∧ m.Writes types d

variable {i : ObjectIndex MemoryEngine} {s s' : IndexState MemoryEngine ω}
  {log : List RecordedTypes} {address : Nat}

/-! ## The log -/

/-- Every call keeps to the log, so each slot has what was logged for its address. -/
theorem recorded_slots (hi : i.engine = MemoryEngine.engine) (h : IndexRun i s log) :
    List.Forall₂ (Holds i.mapper) log s.engine.slots.toList := by
  induction h with
  | start => exact .nil
  | call before h ih =>
    obtain ⟨e, ⟨⟩, -⟩ | ⟨gone, ds, -, hds, hengine, -⟩ := IndexCall.run_cases hi h
    rw [hengine]
    exact MemoryEngine.Logged.pushAll (MemoryEngine.Logged.without ih gone) hds
  | failedCall before h ih =>
    obtain ⟨e, -, hengine⟩ | ⟨gone, ds, ⟨⟩, -⟩ := IndexCall.run_cases hi h
    rw [hengine]
    exact ih

/-- A live document is one of an object that was recorded under the types logged for its
address. -/
lemma exists_writes (hi : i.engine = MemoryEngine.engine) (h : IndexRun i s log)
    {x : IndexedDocument} (hslot : s.engine.slots[address]? = some (some x)) :
    ∃ types d, log[address]? = some types ∧ x = .ofDocument d ∧ i.mapper.Writes types d :=
  MemoryEngine.Logged.exists_record (recorded_slots hi h) hslot

/-! ## Queries -/

/-- A type filter selects the documents with an entry of its type. -/
lemma selects_ofActualType (hi : i.engine = MemoryEngine.engine) (h : IndexRun i s log)
    (t : TypeIdentity) :
    s.engine.Selects (.ofActualType t) fun a => log[a.1]?.map (·.actual) = some t := by
  intro address x hslot
  obtain ⟨types, d, hlog, rfl, hd⟩ := exists_writes hi h hslot
  simp [hlog, hd.satisfies_ofActualType]

lemma selects_ofDeclaredType (hi : i.engine = MemoryEngine.engine) (h : IndexRun i s log)
    (t : TypeIdentity) :
    s.engine.Selects (.ofDeclaredType t) fun a => log[a.1]?.map (·.declared) = some t := by
  intro address x hslot
  obtain ⟨types, d, hlog, rfl, hd⟩ := exists_writes hi h hslot
  simp [hlog, hd.satisfies_ofDeclaredType]

/-! ## Calls -/

/-- No call touches a slot that was logged under another type than its own. -/
lemma getElem?_of_run (hi : i.engine = MemoryEngine.engine) (h : IndexRun i s log)
    {c : IndexCall ω} {r : Except Error Unit} (hrun : c.run i s = (r, s'))
    {types : RecordedTypes} (hlog : log[address]? = some types)
    (htarget : c.target ≠ some types.actual) :
    s'.engine.slots[address]? = s.engine.slots[address]? := by
  obtain ⟨e, -, hengine⟩ | ⟨gone, ds, -, -, hengine, hgone⟩ := IndexCall.run_cases hi hrun
  · rw [hengine]
  have hlength : log.length = s.engine.slots.size := (recorded_slots hi h).length_eq
  have hlt : address < s.engine.slots.size := hlength ▸ (List.getElem?_eq_some_iff.1 hlog).1
  have hkept : ∀ q ∈ gone, ∀ x, s.engine.slots[address]? = some (some x) →
      x.satisfies q = false := by
    intro q hq x hslot
    obtain ⟨t, ht, hkey⟩ := hgone q hq
    obtain ⟨types', d, hlog', rfl, hd⟩ := exists_writes hi h hslot
    obtain rfl := Option.some.inj (hlog.symm.trans hlog')
    -- A document that is taken away is one of the call's type, and the log says it is not.
    by_contra hmatch
    have hactual : types.actual = t :=
      (hd.satisfies_ofActualType t).1 (hkey _ (Bool.of_not_eq_false hmatch))
    rw [← hactual] at ht
    exact htarget ht
  rw [hengine, MemoryEngine.getElem?_pushAll (MemoryEngine.size_without.symm ▸ hlt),
    MemoryEngine.getElem?_without hkept]

/-- In a state that calls lead to, queries for a type yield the live documents that the log has
under that type, as stored, and every call keeps the documents that the log has under another type
than its own. -/
theorem yields_logged (config : IndexConfig) (m : FieldMapper)
    (h : IndexRun (.withMapper MemoryEngine.engine config m) s log)
    (hslots : s.engine.slots.size ≤ maxCount) :
    let i : ObjectIndex MemoryEngine := .withMapper MemoryEngine.engine config m
    log.length = s.engine.slots.size ∧
      (∀ t : ObjectType, (i.query t).documents.Yields MemoryEngine.engine s.engine
        ((s.engine.liveDocuments.filter fun a =>
          log[a.1]?.map (·.actual) = some t.identity).map fun a => .ok a.2.stored)) ∧
      (∀ (declared : TypeIdentity) (t : ObjectType),
        (i.queryDeclared declared t).documents.Yields MemoryEngine.engine s.engine
          ((s.engine.liveDocuments.filter fun a =>
            log[a.1]?.map (·.declared) = some declared).map fun a => .ok a.2.stored)) ∧
      ∀ (c : IndexCall ω) (address : Nat) (types : RecordedTypes), log[address]? = some types →
        c.target ≠ some types.actual →
        (c.run i s).2.engine.slots[address]? = s.engine.slots[address]? := by
  intro i
  refine ⟨(recorded_slots rfl h).length_eq, ?_, ?_, ?_⟩
  · exact fun t => TypedQuery.yields_filter rfl hslots (selects_ofActualType rfl h t.identity)
  · exact fun declared t =>
      TypedQuery.yields_filter rfl hslots (selects_ofDeclaredType rfl h declared)
  · exact fun c address types hlog htarget => getElem?_of_run rfl h rfl hlog htarget

/-- A note and a memo that is written as a draft. Once the notes are deleted, the memo is left, as
a memo and as a draft. -/
theorem yields_logged_draft :
    let note : ObjectType := { name := "app::Note", schema := .any }
    let memo : ObjectType := { name := "app::Memo", schema := .any }
    let draft : TypeIdentity := ⟨"Draft, app"⟩
    let i : ObjectIndex MemoryEngine :=
      .withMapper MemoryEngine.engine {} { config := { storeSource := false } }
    let s₀ : IndexState MemoryEngine Unit := ⟨{}, ⟨fun _ => 100, 0, 0⟩, ()⟩
    let addNote : IndexCall Unit := .add note (.record "Note" [("id", .int 1)])
    let addDraft : IndexCall Unit := .addAs draft memo (.record "Memo" [("id", .int 2)])
    let s₁ := (addNote.run i s₀).2
    let s₂ := (addDraft.run i s₁).2
    let deleteNotes : IndexCall Unit := .deleteAll note.identity
    let s₃ := (deleteNotes.run i s₂).2
    let found : Document :=
      ⟨[⟨"id", .long 2, .exact⟩, ⟨"$type", .string "app::Memo, app", ⟨true, true, false⟩⟩,
        ⟨"$static_type", .string "Draft, app", ⟨true, true, false⟩⟩,
        ⟨"$timestamp", .long 101, .storedOnly⟩]⟩
    let log : List RecordedTypes := [.of note.identity, ⟨memo.identity, draft⟩]
    IndexRun i s₃ log ∧ s₃.engine.slots.size ≤ maxCount ∧
      (i.query note).documents.Yields MemoryEngine.engine s₃.engine [] ∧
      (i.query memo).documents.Yields MemoryEngine.engine s₃.engine [.ok found.stored] ∧
      (i.queryDeclared draft memo).documents.Yields MemoryEngine.engine s₃.engine
        [.ok found.stored] := by
  intro note memo draft i s₀ addNote addDraft s₁ s₂ deleteNotes s₃ found log
  have h₁ : IndexRun i s₁ [.of note.identity] := .call (c := addNote) (.start _ _) rfl
  have h₂ : IndexRun i s₂ log := .call (c := addDraft) h₁ rfl
  have h₃ : IndexRun i s₃ log := .call (c := deleteNotes) h₂ rfl
  have hslots : s₃.engine.slots.size ≤ maxCount := by decide +kernel
  have hnotes : (s₃.engine.liveDocuments.filter fun a =>
      log[a.1]?.map (·.actual) = some note.identity) = [] := by decide +kernel
  have hmemos : (s₃.engine.liveDocuments.filter fun a =>
      log[a.1]?.map (·.actual) = some memo.identity) = [(1, found)] := by decide +kernel
  have hdrafts : (s₃.engine.liveDocuments.filter fun a =>
      log[a.1]?.map (·.declared) = some draft) = [(1, found)] := by decide +kernel
  obtain ⟨-, hquery, hdeclared, -⟩ := yields_logged {} _ h₃ hslots
  have hnote := hquery note
  have hmemo := hquery memo
  have hdraft := hdeclared draft memo
  rw [hnotes] at hnote
  rw [hmemos] at hmemo
  rw [hdrafts] at hdraft
  exact ⟨h₃, hslots, hnote, hmemo, hdraft⟩

end IndexRun

end FieldSearch
