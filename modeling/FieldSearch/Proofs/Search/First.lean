import FieldSearch.Proofs.Search.Objects

/-!
# The first object

Asking for the first object is asking a query that takes at most one. Its enumeration is bounded
and asks for no more hits than it may yield, while the enumeration of the query itself may fetch
batches, or a bounded number of hits at once. On the memory engine all of them cut one ranking, so
the first one comes out the same.

`TypedQuery.Iterates` is the loop over the objects of a query: it asks for one after the other
until none comes, and a failure is a result like any other.

Main statement: `TypedQuery.first_eq_head`.
-/

namespace FieldSearch

/-- Whatever may be taken, if it is anything, the window starts behind what is skipped. -/
lemma QueryContext.head?_windowed {α : Type} {c : QueryContext} (h : c.take ≠ some 0)
    (ranking : List α) : (c.windowed ranking).head? = (ranking.drop (c.skip.getD 0)).head? := by
  unfold windowed
  cases htake : c.take with
  | none => rfl
  | some n =>
    have hn : n ≠ 0 := fun hn => h (hn ▸ htake)
    simp only [List.head?_take, hn, if_false]

namespace TypedQuery

variable {σ : Type} {e : Engine σ} {s s' : σ} {it it' : Enumeration} {q : TypedQuery}

/-! ## Iterating -/

/-- Asking for the next object until none comes yields `rs` and leaves the engine in the last
state. -/
inductive Iterates (q : TypedQuery) (e : Engine σ) :
    Enumeration → σ → List (Except Error Value) → σ → Prop
  | done {it it' : Enumeration} {s s' : σ} (h : q.nextObject e it s = ((none, it'), s')) :
    Iterates q e it s [] s'
  | more {it it' : Enumeration} {s s₁ s' : σ} {r : Except Error Value}
      {rs : List (Except Error Value)} (h : q.nextObject e it s = ((some r, it'), s₁))
      (rest : Iterates q e it' s₁ rs s') : Iterates q e it s (r :: rs) s'

/-- The objects of an enumeration are those of its results, one for each. -/
lemma iterates_of_drains {rs : List (Except Error Document)} (h : it.Drains e s rs s') :
    q.Iterates e it s (rs.map q.object) s' := by
  induction h with
  | done h => exact .done (nextObject_eq h)
  | more h _ ih => exact .more (nextObject_eq h) ih

/-! ## The first result -/

/-- No failure passes for a missing result. -/
lemma sequence_eq_ok_none {α : Type} {r : Option (Except Error α)} :
    r.sequence = .ok none ↔ r = none := by
  match r with
  | none => exact ⟨fun _ => rfl, fun _ => rfl⟩
  | some (.ok _) => exact ⟨nofun, nofun⟩
  | some (.error _) => exact ⟨nofun, nofun⟩

/-- The query for at most one result. -/
def one (q : TypedQuery) : TypedQuery := q.take (min (q.context.take.getD 1) 1)

lemma first_of_next {r : Option (Except Error Document)}
    (h : q.one.documents.next e s = ((r, it'), s')) :
    q.first e s = ((r.map q.object).sequence, s') := by
  have hobject : (liftM (q.one.nextObject e q.one.documents) : Answer σ _) s =
      (.ok (r.map q.object, it'), s') := liftM_nextObject_eq h
  refine (Answer.bind_ok hobject).trans ?_
  cases r with
  | none => rfl
  | some r =>
    rw [Option.map_some]
    cases q.object r <;> rfl

section MemoryEngine

open MemoryEngine

variable {m : MemoryEngine}

/-- On the memory engine the first result is that of the first document in the window, and takes
one search unless nothing may be taken. -/
lemma first_eq_head_windowed (hslots : m.slots.size ≤ maxCount) {ranking : List Hit}
    (h : m.IsRanking q.context.predicate (some q.typeFilter) q.context.sort.keys ranking) :
    q.first engine m =
      (((q.context.windowed ranking).head?.map fun a => q.object (.ok a.2.stored)).sequence,
        { m with searches := m.searches + if q.context.take = some 0 then 0 else 1 }) := by
  by_cases htake : q.context.take = some 0
  · have hfinished : q.one.documents.finished = true := by
      simp [one, take, QueryContext.setTake, documents, Enumeration.ofContext, htake]
    rw [first_of_next (Enumeration.next_of_finished rfl hfinished), if_pos htake]
    simp [QueryContext.windowed, htake]
  · -- Whatever more may be taken, the one fetch asks for the document behind the skipped ones.
    have hone : q.one = q.take 1 := by
      unfold one
      congr 1
      cases hmost : q.context.take with
      | none => rfl
      | some n => exact Nat.min_eq_right (Nat.one_le_iff_ne_zero.2 fun hn => htake (hn ▸ hmost))
    have hfetch : engine.leased ((q.take 1).documents.fetch engine) m =
        (.ok (((ranking.drop (q.context.skip.getD 0)).take 1).map (·.2.stored)),
          { m with searches := m.searches + 1 }) :=
      leased_fetch h (Nat.le_trans h.length_le hslots)
    rw [first_of_next (hone ▸ Enumeration.next_of_fetch rfl rfl hfetch), if_neg htake,
      QueryContext.head?_windowed htake, List.head?_map, List.head?_take, Option.map_map,
      Option.map_map]
    rfl

/-- **The first object is the head of the objects.** Iterating over the objects of a query ends,
and the first object is what comes first then, an object or a failure to get one; there is none
exactly if iterating yields nothing. Asking for it makes one search, and none if nothing may be
taken. The slots of an engine are a count. -/
theorem first_eq_head (q : TypedQuery) (m : MemoryEngine) (hslots : m.slots.size ≤ maxCount) :
    ∃ (rs : List (Except Error Value)) (m' : MemoryEngine),
      q.Iterates engine q.documents m rs m' ∧
      q.first engine m = (rs.head?.sequence,
        { m with searches := m.searches + if q.context.take = some 0 then 0 else 1 }) ∧
      ((q.first engine m).1 = .ok none ↔ rs = []) := by
  obtain ⟨ranking, h, -⟩ :=
    m.exists_ranking q.context.predicate (some q.typeFilter) q.context.sort
  -- The enumeration and the one fetch cut the same ranking, in batches and at one document.
  obtain ⟨m', hdrains, -⟩ := yields_windowed hslots h
  have hfirst := first_eq_head_windowed hslots h
  rw [← List.head?_map] at hfirst
  have hiterates := iterates_of_drains (q := q) hdrains
  rw [List.map_map] at hiterates
  refine ⟨_, m', hiterates, hfirst, ?_⟩
  rw [hfirst]
  exact sequence_eq_ok_none.trans (List.head?_eq_none_iff.trans (by simp))

/-- Behind the higher of two numbers the lower one is first, asked for alone and in batches. -/
theorem first_eq_head_descending :
    let number (n : Int64) : Document := ⟨[⟨"n", .long n, ⟨true, true, false⟩⟩]⟩
    let m : MemoryEngine :=
      { slots := #[some (.ofDocument (number 3)), none, some (.ofDocument (number 5))], live := 2 }
    let mapper : DocumentMapper := ⟨fun _ _ clock => (.ok .empty, clock), fun d =>
      match d.values "n" with
      | .long n :: _ => .ok (.int n)
      | _ => .error (.stated .missingSourcePayload "n")⟩
    let q : TypedQuery :=
      { mapper, config := ⟨0⟩, typeFilter := .all,
        context := { sort := ⟨[⟨"n", .long, true⟩]⟩, skip := some 1 } }
    m.slots.size ≤ maxCount ∧
      q.first engine m = (.ok (some (.int 3)), { m with searches := 1 }) ∧
      ∃ rs m', q.Iterates engine q.documents m (.ok (.int 3) :: rs) m' := by
  intro number m mapper q
  have hslots : m.slots.size ≤ maxCount := by decide
  have hfirst : q.first engine m = (.ok (some (.int 3)), { m with searches := 1 }) := by cbv
  obtain ⟨rs, m', hiterates, heq, -⟩ := first_eq_head q m hslots
  have hhead : rs.head?.sequence = .ok (some (.int 3)) := (Prod.mk.inj (heq.symm.trans hfirst)).1
  refine ⟨hslots, hfirst, ?_⟩
  obtain _ | ⟨_ | v, rs⟩ := rs
  · cases hhead
  · cases hhead
  · cases hhead
    exact ⟨rs, m', hiterates⟩

end MemoryEngine

end TypedQuery

end FieldSearch
