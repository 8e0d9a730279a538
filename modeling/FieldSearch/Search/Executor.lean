import FieldSearch.Search.Enumeration

/-!
# Counting results

The number of results of a context is the number of documents that match, cut to the window of
the context. No document is loaded for it, and no results are asked for when none may be taken.
-/

namespace FieldSearch

variable {σ : Type}

/-- The number of documents that match a context and a filter. In an order it is the total of a
search for one hit. -/
def Engine.total (e : Engine σ) (c : QueryContext) (filter : Option Query) : Answer σ Nat :=
  if c.sort.isNatural then e.count c.predicate filter
  else do
    let found ← e.search c.predicate filter c.sort 1
    return found.total

/-- The number of results of a context under a filter. -/
def QueryContext.count (e : Engine σ) (c : QueryContext) (filter : Option Query) : Answer σ Nat :=
  if c.take = some 0 then pure 0
  else do
    let total ← e.leased (e.total c filter)
    let (start, stop) := window total c.skip c.take
    return stop - start

end FieldSearch
