import FieldSearch.Search.Enumeration
import Mathlib.Logic.Relation
import Mathlib.Tactic.Lemma

/-!
# Draining an enumeration

To drain an enumeration is to ask for the next result until none comes. `Enumeration.Drains` is
that loop without a bound on its length: it relates an enumeration to the results of a loop that
ends, so whoever drains it has shown that the loop ends. `Enumeration.Reaches` is any number of
steps of the loop.

The rules of the loop, over any engine:

* `Drains.ofBuffer` — documents in the buffer come first and ask nothing of the engine;
* `Drains.ofFetch` — an empty buffer is filled by one fetch;
* `drains_finished_iff` — a finished enumeration without a buffer yields nothing;
* `Drains.toList_eq` — collecting all results runs the loop to its end.
-/

namespace FieldSearch

namespace Enumeration

variable {σ : Type} {e : Engine σ} {it it' : Enumeration} {s s' s₁ : σ}

/-! ## One step -/

/-- The enumeration behind a fetch whose documents have all been yielded. -/
def after (it : Enumeration) (fetched : Nat) : Enumeration :=
  { it with
    offset := it.offset + fetched
    finished := endsAfter it.mode fetched
    buffer := [] }

/-- A batch without documents is the last one: no batch has the size nothing. -/
lemma endsAfter_ofContext (config : ExecutorConfig) (c : QueryContext) (filter : Option Query) :
    endsAfter (ofContext config c filter).mode 0 = true := by
  cases htake : c.take with
  | some take => simp only [ofContext, htake, endsAfter]
  | none =>
    have hsize : 0 < max config.batchSize 1 :=
      Nat.lt_of_lt_of_le Nat.one_pos (Nat.le_max_right _ _)
    simp only [ofContext, htake, endsAfter, hsize, decide_true]

lemma next_of_buffer {d : Document} {ds : List Document} (h : it.buffer = d :: ds) :
    it.next e s = ((some (.ok d), { it with buffer := ds }), s) := by
  simp only [next, h]

lemma next_of_finished (hbuffer : it.buffer = []) (hfinished : it.finished = true) :
    it.next e s = ((none, it), s) := by
  simp only [next, hbuffer, hfinished, if_true]

lemma next_of_fetch {ds : List Document} (hbuffer : it.buffer = [])
    (hfinished : it.finished = false) (hfetch : e.leased (it.fetch e) s = (.ok ds, s₁)) :
    it.next e s = ((ds.head?.map .ok, { it.after ds.length with buffer := ds.tail }), s₁) := by
  simp only [next, hbuffer, hfinished, hfetch, after, Bool.false_eq_true, if_false]

/-- One step of the loop that drains an enumeration. -/
def Step (e : Engine σ) (before behind : Enumeration × σ) : Prop :=
  ∃ r, before.1.next e before.2 = ((r, behind.1), behind.2)

/-- Any number of steps. -/
def Reaches (e : Engine σ) : Enumeration × σ → Enumeration × σ → Prop :=
  Relation.ReflTransGen (Step e)

/-! ## All steps -/

/-- Asking for the next result until none comes yields `rs` and leaves the engine in the last
state. -/
inductive Drains (e : Engine σ) : Enumeration → σ → List (Except Error Document) → σ → Prop
  | done {it it' : Enumeration} {s s' : σ} (h : it.next e s = ((none, it'), s')) :
    Drains e it s [] s'
  | more {it it' : Enumeration} {s s₁ s' : σ} {r : Except Error Document}
      {rs : List (Except Error Document)} (h : it.next e s = ((some r, it'), s₁))
      (rest : Drains e it' s₁ rs s') : Drains e it s (r :: rs) s'

variable {rs : List (Except Error Document)}

lemma drains_finished_iff (hbuffer : it.buffer = []) (hfinished : it.finished = true) :
    Drains e it s rs s' ↔ rs = [] ∧ s' = s := by
  have hnext : it.next e s = ((none, it), s) := next_of_finished hbuffer hfinished
  constructor
  · intro h
    cases h with
    | done h =>
      rw [hnext] at h
      obtain ⟨-, rfl⟩ := Prod.mk.inj h
      exact ⟨rfl, rfl⟩
    | more h _ =>
      rw [hnext] at h
      cases h
  · rintro ⟨rfl, rfl⟩
    exact .done hnext

lemma Drains.ofBuffer (h : Drains e { it with buffer := [] } s rs s') :
    Drains e it s (it.buffer.map .ok ++ rs) s' := by
  obtain ⟨predicate, filter, sort, mode, offset, buffer, finished⟩ := it
  induction buffer with
  | nil => exact h
  | cons d ds ih => exact .more (next_of_buffer rfl) (ih h)

lemma Drains.ofFetch {ds : List Document} (hbuffer : it.buffer = [])
    (hfinished : it.finished = false) (hfetch : e.leased (it.fetch e) s = (.ok ds, s₁))
    (hends : ds = [] → endsAfter it.mode 0 = true)
    (h : Drains e (it.after ds.length) s₁ rs s') : Drains e it s (ds.map .ok ++ rs) s' := by
  have hnext := next_of_fetch hbuffer hfinished hfetch
  cases ds with
  | nil =>
    obtain ⟨rfl, rfl⟩ := (drains_finished_iff rfl (hends rfl)).1 h
    exact .done hnext
  | cons d ds =>
    have hrest : Drains e { it.after (ds.length + 1) with buffer := ds } s₁ (ds.map .ok ++ rs) s' :=
      .ofBuffer h
    exact .more hnext hrest

/-- Taking more results than there are takes them all. -/
lemma Drains.take_eq (h : Drains e it s rs s') (hok : ∀ r ∈ rs, ∃ d, r = .ok d) {n : Nat}
    (hn : rs.length < n) : ∃ it', it.take e n s = ((rs, it'), s') := by
  induction h generalizing n with
  | @done it it' s s' h =>
    cases n with
    | zero => simp at hn
    | succ n =>
      refine ⟨it', ?_⟩
      simp only [take, bind, StateT.bind, h]
      rfl
  | @more it it' s s₁ s' r rs h _ ih =>
    cases n with
    | zero => simp at hn
    | succ n =>
      obtain ⟨d, rfl⟩ := hok _ List.mem_cons_self
      obtain ⟨it'', htake⟩ := ih (fun r hr => hok r (List.mem_cons_of_mem _ hr))
        (Nat.lt_of_succ_lt_succ hn)
      refine ⟨it'', ?_⟩
      simp only [take, bind, StateT.bind, h, htake]
      rfl

lemma Drains.toList_eq (h : Drains e it s rs s') (hok : ∀ r ∈ rs, ∃ d, r = .ok d)
    (hlength : rs.length ≤ it.buffer.length + e.extent s) : it.toList e s = (rs, s') := by
  obtain ⟨it', htake⟩ := h.take_eq hok (Nat.lt_succ_of_le hlength)
  rw [toList, htake]

end Enumeration

end FieldSearch
