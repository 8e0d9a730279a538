import FieldSearch.Number.Count
import FieldSearch.Query.Basic
import FieldSearch.Query.Sort

/-!
# Query contexts

What a query asks for: a predicate, an order, and a window of the results. Contexts are values:
refining one gives another, and the first stays as it is.
-/

namespace FieldSearch

/-- How far a context has come; a later part may be set without the earlier ones. -/
inductive ContextState where
  | fresh
  | predicateSet
  | sorted
  | paged
deriving DecidableEq, Repr

/-- The name of a state. -/
def ContextState.name : ContextState → String
  | fresh => "Fresh"
  | predicateSet => "PredicateSet"
  | sorted => "Sorted"
  | paged => "Paged"

/-- Predicate, order and window of a query. -/
structure QueryContext where
  predicate : Query := .all
  sort : SortSpec := .natural
  skip : Option Nat := none
  take : Option Nat := none
deriving Repr

namespace QueryContext

/-- The context with another predicate. -/
def setPredicate (c : QueryContext) (q : Query) : QueryContext := { c with predicate := q }

/-- The context ordered by one key. -/
def orderBy (c : QueryContext) (key : SortKey) : QueryContext := { c with sort := .ofKey key }

/-- The context with one more key of its order. -/
def thenBy (c : QueryContext) (key : SortKey) : QueryContext := { c with sort := c.sort.push key }

/-- The context that leaves out the first `n` results. -/
def setSkip (c : QueryContext) (n : Nat) : QueryContext := { c with skip := some n }

/-- The context with at most `n` results. -/
def setTake (c : QueryContext) (n : Nat) : QueryContext := { c with take := some n }

/-- How far the context has come. -/
def state (c : QueryContext) : ContextState :=
  if c.skip.isSome || c.take.isSome then .paged
  else if !c.sort.isNatural then .sorted
  else if !c.predicate.isAll then .predicateSet
  else .fresh

end QueryContext

/-- The window of `total` results that skipping and taking leave: its start and its end. -/
def window (total : Nat) (skip take : Option Nat) : Nat × Nat :=
  let start := min (skip.getD 0) total
  match take with
  | none => (start, total)
  | some n => (start, min (saturatingAdd start n) total)

end FieldSearch
