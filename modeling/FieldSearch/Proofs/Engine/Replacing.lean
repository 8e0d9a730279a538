import FieldSearch.Proofs.Engine.Refinement

/-!
# Replacing at once or in two steps

An engine that has no replacement of its own deletes the documents that match and then writes the
new one. When that one is refused, the others are gone. The memory engine looks at the document
before it touches any other, and has a replacement that happens or does not.

`defaultEngine` is the memory engine with the replacement in two steps. The two differ where the
document is refused and nowhere else. In both the deletion comes before the write, so the written
document stays whatever the query says of it.

Main statements: `MemoryEngine.replaceBy_refines_default`, `EngineCall.runAll_default`.
-/

namespace FieldSearch

namespace MemoryEngine

variable {m : MemoryEngine} {q : Query} {d : Document}

/-- The memory engine, if it had no replacement of its own. -/
def defaultEngine : Engine MemoryEngine :=
  { engine with replaceBy := Engine.deleteThenWrite engine.write engine.deleteBy }

/-! ## Two steps -/

lemma default_replaceBy_empty (hd : d.isEmpty = true) (q : Query) (m : MemoryEngine) :
    defaultEngine.replaceBy q d m = (.error .emptyDocument, m.erase q) :=
  (Answer.bind_ok (deleteBy_eq q m)).trans (Answer.bind_error (write_empty hd _))

/-- In two steps a document that is not refused replaces what it replaces at once. -/
lemma default_replaceBy_eq (hd : d.isEmpty = false) (q : Query) (m : MemoryEngine) :
    defaultEngine.replaceBy q d m = engine.replaceBy q d m := by
  rw [replaceBy_eq hd]
  exact (Answer.bind_ok (deleteBy_eq q m)).trans (Answer.bind_ok (write_eq hd _))

/-! ## What is there behind a replacement -/

section

variable (hd : d.isEmpty = false) (q : Query) (m : MemoryEngine)
include hd

lemma liveDocuments_replaceBy : (engine.replaceBy q d m).2.liveDocuments =
    m.liveDocuments.filter (· ∉ m.found q none) ++ [(m.slots.size, d)] := by
  rw [replaceBy_eq hd, liveDocuments_pushAll, size_without, without, liveDocuments_erase]
  rfl

/-- A document is a match of the query that it is written under, or there is none. -/
lemma found_replaceBy : (engine.replaceBy q d m).2.found q none =
    if q.finds d then [(m.slots.size, d)] else [] := by
  rw [replaceBy_eq hd, found_pushAll_eq, found_without_self (Option.mem_some_self q), size_without,
    List.nil_append]
  exact List.filter_singleton.trans (Bool.cond_eq_ite _ _ _)

lemma doc_replaceBy : engine.doc m.slots.size (engine.replaceBy q d m).2 =
    (.ok d.stored, (engine.replaceBy q d m).2) := by
  refine doc_eq ?_
  have hslot := EngineCall.getElem?_size_pushAll (m.without (some q)) d
  rw [size_without] at hslot
  rw [replaceBy_eq hd, doc?, hslot]
  rfl

end

/-- **Replacing at once refines replacing in two steps.** Both give the same result, an error
exactly if the document is empty and else the number of documents that matched. Where they
succeed they leave the same engine: the documents that did not match at their addresses, and
behind them the new one, which is read at the next address and stays there also if it matches
itself. Where they fail, replacing at once has changed nothing, while the two steps have deleted
the documents that matched. -/
theorem replaceBy_refines_default (m : MemoryEngine) (q : Query) (d : Document) :
    let atOnce := engine.replaceBy q d m
    let inSteps := defaultEngine.replaceBy q d m
    let others := m.liveDocuments.filter (· ∉ m.found q none)
    atOnce.1 = inSteps.1 ∧
      atOnce.1 = (if d.isEmpty then .error .emptyDocument else .ok (m.found q none).length) ∧
      (∀ n, atOnce.1 = .ok n →
        atOnce.2 = inSteps.2 ∧
        atOnce.2.liveDocuments = others ++ [(m.slots.size, d)] ∧
        engine.doc m.slots.size atOnce.2 = (.ok d.stored, atOnce.2) ∧
        atOnce.2.found q none = if q.finds d then [(m.slots.size, d)] else []) ∧
      ∀ e, atOnce.1 = .error e →
        atOnce.2 = m ∧
        inSteps.2 = m.erase q ∧
        inSteps.2.liveDocuments = others ∧
        inSteps.2.found q none = [] := by
  intro atOnce inSteps others
  cases hd : d.isEmpty with
  | true =>
    have hatOnce : atOnce = (.error .emptyDocument, m) := replaceBy_empty hd q m
    have hinSteps : inSteps = (.error .emptyDocument, m.erase q) := default_replaceBy_empty hd q m
    rw [hatOnce, hinSteps]
    exact ⟨rfl, rfl, nofun, fun e _ =>
      ⟨rfl, rfl, liveDocuments_erase, found_without_self (Option.mem_some_self q)⟩⟩
  | false =>
    have hinSteps : inSteps = atOnce := default_replaceBy_eq hd q m
    have hresult : atOnce.1 = .ok (m.found q none).length := by
      rw [← countMatching_eq]
      exact congrArg Prod.fst (replaceBy_eq hd q m)
    rw [hinSteps]
    refine ⟨rfl, hresult, fun n _ => ⟨rfl, liveDocuments_replaceBy hd q m, doc_replaceBy hd q m,
      found_replaceBy hd q m⟩, fun e he => ?_⟩
    rw [hresult] at he
    cases he

/-- A note takes the place of one like it, and is left alone although the query finds it. A
refused document costs all notes in two steps, and none at once. -/
theorem replaceBy_refines_default_notes :
    let note (text : String) : Document :=
      Document.empty.addField "text" (.string text) (FieldOption.exact.withStored true)
    let m : MemoryEngine := MemoryEngine.pushAll {} [note "a", note "b", note "a"]
    let q : Query := .term "text" "a"
    (engine.replaceBy q (note "a") m).1 = .ok 2 ∧
      (defaultEngine.replaceBy q (note "a") m).1 = .ok 2 ∧
      (defaultEngine.replaceBy q (note "a") m).2.liveDocuments = [(1, note "b"), (3, note "a")] ∧
      (engine.replaceBy q (note "a") m).2.found q none = [(3, note "a")] ∧
      (engine.replaceBy .all .empty m).1 = .error .emptyDocument ∧
      (engine.replaceBy .all .empty m).2 = m ∧
      (defaultEngine.replaceBy .all .empty m).2.liveDocuments = [] := by
  intro note m q
  obtain ⟨hsame, -, hok, -⟩ := replaceBy_refines_default m q (note "a")
  obtain ⟨-, hrefused, -, herror⟩ := replaceBy_refines_default m .all .empty
  have hresult : (engine.replaceBy q (note "a") m).1 = .ok 2 := by decide +kernel
  have hothers : m.liveDocuments.filter (· ∉ m.found q none) = [(1, note "b")] := by
    decide +kernel
  have hnone : m.liveDocuments.filter (· ∉ m.found .all none) = [] := by decide +kernel
  have hfinds : q.finds (note "a") = true := by decide +kernel
  obtain ⟨hengine, hlive, -, hfound⟩ := hok 2 hresult
  obtain ⟨hunchanged, -, hlost, -⟩ := herror _ hrefused
  rw [hothers, hengine] at hlive
  rw [hfinds] at hfound
  rw [hnone] at hlost
  exact ⟨hresult, hsame ▸ hresult, hlive, hfound, hrefused, hunchanged, hlost⟩

end MemoryEngine

/-! ## Runs -/

namespace EngineCall

open MemoryEngine

/-- A call that is not refused does the same with both replacements. -/
lemma run_default {c : EngineCall} (h : ∀ q d, c = .replaceBy q d → d.isEmpty = false)
    (m : MemoryEngine) : c.run defaultEngine m = c.run engine m := by
  cases c with
  | write d => rfl
  | deleteBy q => rfl
  | replaceBy q d => exact default_replaceBy_eq (h q d rfl) q m

/-- While no replacement is refused, calls lead to the same engine with both. -/
theorem runAll_default {cs : List EngineCall}
    (h : ∀ q d, .replaceBy q d ∈ cs → d.isEmpty = false) (m : MemoryEngine) :
    cs.foldl (fun m c => (c.run defaultEngine m).2) m = runAll cs m := by
  induction cs generalizing m with
  | nil => rfl
  | cons c cs ih =>
    have hstep := run_default (c := c) (fun q d hc => h q d (hc ▸ List.mem_cons_self)) m
    rw [List.foldl_cons, hstep]
    exact ih (fun q d hmem => h q d (List.mem_cons_of_mem c hmem)) _

end EngineCall

end FieldSearch
