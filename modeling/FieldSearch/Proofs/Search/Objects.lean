import FieldSearch.Proofs.Engine.Slots
import FieldSearch.Proofs.Search.Window
import FieldSearch.Search.Typed

/-!
# Objects of a query

Collecting the objects of a query drains the enumeration of its documents and turns each document
into an object as it comes, up to the first one that is none. So its result is that of the same
conversion along the results of the enumeration (`TypedQuery.collect_eq_mapM`).

On the memory engine a query that was not refined yields the live documents of its type filter by
address, and its objects are theirs (`TypedQuery.yields_filter`, `TypedQuery.toList_eq_mapM`).
-/

namespace FieldSearch

variable {σ : Type} {e : Engine σ} {s s' : σ} {it it' : Enumeration}

/-- The results of an enumeration: asking for one after the other ends, and yields what collecting
them gives. -/
def Enumeration.Yields (e : Engine σ) (it : Enumeration) (s : σ)
    (rs : List (Except Error Document)) : Prop :=
  ∃ s', it.Drains e s rs s' ∧ it.toList e s = (rs, s')

namespace TypedQuery

variable {q : TypedQuery} {r : Option (Except Error Document)}

/-! ## Collecting -/

lemma nextObject_eq (h : it.next e s = ((r, it'), s')) :
    q.nextObject e it s = ((r.map q.object, it'), s') := by
  simp only [nextObject, bind, StateT.bind, h]
  rfl

/-- Asking for an object in a call that may fail has no failures of its own. -/
lemma liftM_nextObject_eq (h : it.next e s = ((r, it'), s')) :
    (liftM (q.nextObject e it) : Answer σ _) s = (.ok (r.map q.object, it'), s') := by
  change (do let a ← q.nextObject e it; pure (Except.ok a)) s = _
  simp only [bind, StateT.bind, nextObject_eq h]
  rfl

/-- Collecting goes on behind a result that has an object. -/
lemma collect_succ (n : Nat) (h : it.next e s = ((r, it'), s')) :
    q.collect e (n + 1) it s =
      match r.map q.object with
      | none => (.ok [], s')
      | some (.error err) => (.error err, s')
      | some (.ok v) => ((q.collect e n it' s').1.map (v :: ·), (q.collect e n it' s').2) := by
  rw [collect]
  refine (Answer.bind_ok (liftM_nextObject_eq h)).trans ?_
  cases r with
  | none => rfl
  | some r =>
    rw [Option.map_some]
    cases q.object r with
    | error err => rfl
    | ok v =>
      rcases hcollect : q.collect e n it' s' with ⟨vs, s''⟩
      cases vs with
      | error err => exact (Answer.bind_error hcollect).trans rfl
      | ok vs => exact (Answer.bind_ok hcollect).trans rfl

/-- The collected objects are those of the results, or the first failure among them. -/
lemma collect_eq_mapM {rs : List (Except Error Document)} (h : it.Drains e s rs s') {n : Nat}
    (hn : rs.length < n) : (q.collect e n it s).1 = rs.mapM q.object := by
  induction h generalizing n with
  | done h =>
    obtain ⟨k, rfl⟩ : ∃ k, n = k + 1 := ⟨n - 1, by omega⟩
    rw [collect_succ k h]
    rfl
  | @more it it' s s₁ s' r rs h _ ih =>
    obtain ⟨k, rfl⟩ : ∃ k, n = k + 1 := ⟨n - 1, by omega⟩
    rw [collect_succ k h, List.mapM_cons, Option.map_some]
    cases q.object r with
    | error err => rfl
    | ok v =>
      rw [← ih (Nat.lt_of_succ_lt_succ hn)]
      cases (q.collect e k it' s₁).1 <;> rfl

/-! ## Queries on the memory engine -/

section MemoryEngine

variable {m : MemoryEngine} {keep : Hit → Bool}

/-- A query yields the window of its ranked documents, those of its type filter. -/
lemma yields_windowed {ranking : List Hit} (hslots : m.slots.size ≤ maxCount)
    (h : m.IsRanking q.context.predicate (some q.typeFilter) q.context.sort.keys ranking) :
    q.documents.Yields MemoryEngine.engine m
      ((q.context.windowed ranking).map fun a => .ok a.2.stored) := by
  have hlength := Nat.le_trans h.length_le hslots
  have hdrains := MemoryEngine.drains_ofContext q.config q.context (some q.typeFilter) h hlength
  refine ⟨_, hdrains, hdrains.toList_eq ?_ ?_⟩
  · intro r hr
    obtain ⟨a, -, rfl⟩ := List.mem_map.1 hr
    exact ⟨a.2.stored, rfl⟩
  · -- Collecting may take as many steps as there are slots, and no slot is found twice.
    rw [List.length_map]
    exact Nat.le_trans (q.context.length_windowed_le ranking)
      (Nat.le_trans h.length_le (Nat.le_add_left _ _))

/-- A query that was not refined yields the documents that its type filter matches. -/
lemma yields_filter (hcontext : q.context = {}) (hslots : m.slots.size ≤ maxCount)
    (h : m.Selects q.typeFilter keep) :
    q.documents.Yields MemoryEngine.engine m
      ((m.liveDocuments.filter keep).map fun a => .ok a.2.stored) := by
  obtain ⟨mapper, config, typeFilter, context⟩ := q
  obtain rfl : context = {} := hcontext
  exact yields_windowed hslots (MemoryEngine.isRanking_of_selects h)

/-- The objects of a query that was not refined are those of the documents it yields. -/
lemma toList_eq_mapM (hcontext : q.context = {}) (hslots : m.slots.size ≤ maxCount)
    (h : m.Selects q.typeFilter keep) :
    (q.toList MemoryEngine.engine m).1 =
      (m.liveDocuments.filter keep).mapM fun a => q.mapper.toObject a.2.stored := by
  obtain ⟨m', hdrains, -⟩ := yields_filter hcontext hslots h
  have hlength : (m.liveDocuments.filter keep).length < m.slots.size + 1 :=
    Nat.lt_succ_of_le (MemoryEngine.isRanking_of_selects h).length_le
  rw [← List.length_map (f := fun a : Hit => (.ok a.2.stored : Except Error Document))] at hlength
  refine (collect_eq_mapM hdrains hlength).trans ?_
  rw [List.mapM_map]
  rfl

end MemoryEngine

end TypedQuery

end FieldSearch
