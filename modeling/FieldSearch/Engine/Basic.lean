import FieldSearch.Error
import FieldSearch.Query.Basic
import FieldSearch.Query.Sort

/-!
# Engines

An engine over a state `σ` takes documents and answers searches. Reading happens under a lease,
which is acquired first and released last. Every call may fail, and may leave the state changed
when it does.
-/

namespace FieldSearch

/-- A call of an engine. -/
abbrev Answer (σ : Type) := ExceptT Error (StateM σ)

theorem Answer.bind_ok {σ α β : Type} {x : Answer σ α} {f : α → Answer σ β} {s s₁ : σ} {a : α}
    (h : x s = (.ok a, s₁)) : (x >>= f) s = f a s₁ := by
  simp only [bind, ExceptT.bind, ExceptT.mk, StateT.bind, h, ExceptT.bindCont]

theorem Answer.bind_error {σ α β : Type} {x : Answer σ α} {f : α → Answer σ β} {s s₁ : σ}
    {e : Error} (h : x s = (.error e, s₁)) : (x >>= f) s = (.error e, s₁) := by
  simp only [bind, ExceptT.bind, ExceptT.mk, StateT.bind, h, ExceptT.bindCont]
  rfl

/-- Two steps end with the failure of the first one, or the second one goes on with its result. -/
theorem Answer.bind_cases {σ α β : Type} {x : Answer σ α} {f : α → Answer σ β} {s s' : σ}
    {r : Except Error β} (h : (x >>= f) s = (r, s')) :
    (∃ e, x s = (.error e, s') ∧ r = .error e) ∨
      ∃ a s₁, x s = (.ok a, s₁) ∧ f a s₁ = (r, s') := by
  rcases hx : x s with ⟨result, s₁⟩
  cases result with
  | error e =>
    rw [Answer.bind_error hx] at h
    obtain ⟨rfl, rfl⟩ := Prod.mk.inj h
    exact .inl ⟨e, rfl, rfl⟩
  | ok a =>
    rw [Answer.bind_ok hx] at h
    exact .inr ⟨a, s₁, rfl, h⟩

/-- What a search finds: the number of documents that match, and the addresses of the first ones
in order. -/
structure TopDocs where
  total : Nat
  hits : List Nat
deriving DecidableEq, Repr

/-- The calls of an engine. -/
structure Engine (σ : Type) where
  /-- Adds a document. -/
  write : Document → Answer σ Unit
  /-- Deletes the documents that match, and counts them. -/
  deleteBy : Query → Answer σ Nat
  /-- Puts a document in the place of those that match, and counts them. -/
  replaceBy : Query → Document → Answer σ Nat
  /-- Starts a lease. -/
  acquire : Answer σ Unit
  /-- Ends a lease. -/
  release : σ → σ
  /-- The first documents, at most as many as the last argument says, that match a query and a
  filter, in an order. -/
  search : Query → Option Query → SortSpec → Nat → Answer σ TopDocs
  /-- The number of documents that match a query and a filter. -/
  count : Query → Option Query → Answer σ Nat
  /-- The stored fields of the document at an address. -/
  doc : Nat → Answer σ Document
  /-- A bound for the number of hits of a search. -/
  extent : σ → Nat

namespace Engine

variable {σ α : Type}

/-- Replacing by deleting first and writing then. When the write fails, the documents are gone. -/
def deleteThenWrite (write : Document → Answer σ Unit) (deleteBy : Query → Answer σ Nat)
    (q : Query) (d : Document) : Answer σ Nat := do
  let deleted ← deleteBy q
  write d
  return deleted

/-- A call under a lease, which ends whatever comes of the call. -/
def leased (e : Engine σ) (call : Answer σ α) : Answer σ α := fun s =>
  match e.acquire s with
  | (.error err, s) => (.error err, s)
  | (.ok (), s) =>
    let (r, s) := call s
    (r, e.release s)

theorem leased_eq {e : Engine σ} {call : Answer σ α} {s s₁ s₂ : σ} {r : Except Error α}
    (hacquire : e.acquire s = (.ok (), s₁)) (hcall : call s₁ = (r, s₂)) :
    e.leased call s = (r, e.release s₂) := by
  simp only [leased, hacquire, hcall]

end Engine

end FieldSearch
