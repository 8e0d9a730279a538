import FieldSearch.Mapping.Mapper
import FieldSearch.Query.Translate
import FieldSearch.Search.Executor

/-!
# Typed queries

A query for the objects of one type: a context, the filter for the type, and the mapper that turns
documents into objects. Refining a query gives a new one.
-/

namespace FieldSearch

/-- A query for objects. -/
structure TypedQuery where
  mapper : DocumentMapper
  config : ExecutorConfig
  typeFilter : Query
  context : QueryContext := {}

namespace TypedQuery

variable {σ ω : Type}

/-! ## Refinement -/

/-- The query with a predicate in the place of any earlier one. -/
def filter (q : TypedQuery) (e : Expr ω) : Translation ω TypedQuery := do
  let predicate ← e.translate
  return { q with context := q.context.setPredicate predicate }

/-- The query ordered by a selector, earlier keys dropped. -/
def orderBy (q : TypedQuery) (e : Expr ω) (descending : Bool) : Except Error TypedQuery :=
  (e.sortKey descending).map fun key => { q with context := q.context.orderBy key }

/-- The query ordered by one more selector. -/
def thenBy (q : TypedQuery) (e : Expr ω) (descending : Bool) : Except Error TypedQuery :=
  (e.sortKey descending).map fun key => { q with context := q.context.thenBy key }

/-- The query without its first `n` results. -/
def skip (q : TypedQuery) (n : Nat) : TypedQuery := { q with context := q.context.setSkip n }

/-- The query with at most `n` results. -/
def take (q : TypedQuery) (n : Nat) : TypedQuery := { q with context := q.context.setTake n }

/-! ## Results -/

/-- The enumeration of the result documents. -/
def documents (q : TypedQuery) : Enumeration :=
  .ofContext q.config q.context (some q.typeFilter)

/-- The object of a result. -/
def object (q : TypedQuery) (r : Except Error Document) : Except Error Value :=
  r.bind q.mapper.toObject

/-- The next result as an object. -/
def nextObject (q : TypedQuery) (e : Engine σ) (it : Enumeration) :
    StateM σ (Option (Except Error Value) × Enumeration) := do
  let (r, it) ← it.next e
  return (r.map q.object, it)

/-- The results up to the end or the first failure to get a document or an object. Only as many
documents are asked for as are needed; the first argument bounds their number. -/
def collect (q : TypedQuery) (e : Engine σ) : Nat → Enumeration → Answer σ (List Value)
  | 0, _ => pure []
  | n + 1, it => do
    match ← q.nextObject e it with
    | (none, _) => pure []
    | (some (.error err), _) => throw err
    | (some (.ok v), it) => do return v :: (← collect q e n it)

/-- All results. -/
def toList (q : TypedQuery) (e : Engine σ) : Answer σ (List Value) := fun s =>
  q.collect e (e.extent s + 1) q.documents s

/-- The first result, if there is one: the result of a query that takes at most one. -/
def first (q : TypedQuery) (e : Engine σ) : Answer σ (Option Value) := do
  let one := q.take (min (q.context.take.getD 1) 1)
  match ← one.nextObject e one.documents with
  | (none, _) => pure none
  | (some (.error err), _) => throw err
  | (some (.ok v), _) => pure (some v)

/-- The number of results. -/
def count (q : TypedQuery) (e : Engine σ) : Answer σ Nat :=
  q.context.count e (some q.typeFilter)

end TypedQuery

end FieldSearch
