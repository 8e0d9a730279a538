import FieldSearch.Config
import FieldSearch.Engine.Basic
import FieldSearch.Number.Count
import FieldSearch.Query.Context

/-!
# Enumeration

An enumeration yields the results of a query one by one and asks the engine only when it has
nothing left to yield. With a limit on the results it makes one search for all of them; without,
it fetches batch after batch, each by a search for everything up to the end of the batch, until a
batch falls short. A failure is yielded once and ends the enumeration.
-/

namespace FieldSearch

/-- How results are fetched. -/
inductive FetchMode where
  /-- All at once, at most `take`. -/
  | bounded (take : Nat)
  /-- In batches. -/
  | batched (size : Nat)
deriving DecidableEq, Repr

/-- The most results of one fetch. -/
def FetchMode.size : FetchMode → Nat
  | bounded take => take
  | batched size => size

/-- The text of a fetch mode for inspection. -/
def FetchMode.inspect : FetchMode → String
  | bounded take => "Bounded \x7b take: " ++ toString take ++ " \x7d"
  | batched size => "Batched \x7b batch_size: " ++ toString size ++ " \x7d"

/-- An enumeration between two results. -/
structure Enumeration where
  predicate : Query
  filter : Option Query
  sort : SortSpec
  mode : FetchMode
  /-- The rank of the next hit to fetch. -/
  offset : Nat
  /-- Documents that are fetched and not yet yielded. -/
  buffer : List Document := []
  finished : Bool := false
deriving Repr

namespace Enumeration

variable {σ : Type}

/-- The enumeration of a context's results under a filter. -/
def ofContext (config : ExecutorConfig) (c : QueryContext) (filter : Option Query) :
    Enumeration where
  predicate := c.predicate
  filter := filter
  sort := c.sort
  mode :=
    match c.take with
    | some take => .bounded take
    | none => .batched (max config.batchSize 1)
  offset := c.skip.getD 0
  finished := c.take = some 0

/-- The text of the progress of an enumeration for inspection. -/
def inspectProgress (it : Enumeration) : String :=
  "mode: " ++ it.mode.inspect ++ ", offset: " ++ toString it.offset ++ ", buffered: "
    ++ toString it.buffer.length ++ ", finished: " ++ (if it.finished then "true" else "false")

/-- The documents at given addresses, in order. -/
def load (e : Engine σ) : List Nat → Answer σ (List Document)
  | [] => pure []
  | address :: rest => do
    let d ← e.doc address
    let ds ← load e rest
    return d :: ds

/-- The next documents: a search up to the end of the batch, and the documents of the hits from
the offset on. -/
def fetch (e : Engine σ) (it : Enumeration) : Answer σ (List Document) := do
  let found ← e.search it.predicate it.filter it.sort (saturatingAdd it.offset it.mode.size)
  let hits := found.hits.drop it.offset
  load e (match it.mode with
    | .bounded take => hits.take take
    | .batched _ => hits)

/-- Whether nothing can follow a fetch of so many documents. -/
def endsAfter (mode : FetchMode) (fetched : Nat) : Bool :=
  match mode with
  | .bounded _ => true
  | .batched size => fetched < size

/-- The next result: a document or a failure, or nothing at the end. -/
def next (e : Engine σ) (it : Enumeration) :
    StateM σ (Option (Except Error Document) × Enumeration) := fun s =>
  match it.buffer with
  | d :: ds => ((some (.ok d), { it with buffer := ds }), s)
  | [] =>
    if it.finished then ((none, it), s)
    else
      match e.leased (it.fetch e) s with
      | (.error err, s) => ((some (.error err), { it with finished := true }), s)
      | (.ok ds, s) =>
        let it :=
          { it with
            offset := it.offset + ds.length
            finished := endsAfter it.mode ds.length
            buffer := ds.tail }
        ((ds.head?.map .ok, it), s)

/-- At most `n` further results, up to the end or a failure, which is the last result, and the
enumeration behind them. -/
def take (e : Engine σ) :
    Nat → Enumeration → StateM σ (List (Except Error Document) × Enumeration)
  | 0, it => pure ([], it)
  | n + 1, it => do
    match ← it.next e with
    | (none, it) => pure ([], it)
    | (some (.error err), it) => pure ([.error err], it)
    | (some (.ok d), it) => do
      let (rs, it) ← take e n it
      return (.ok d :: rs, it)

/-- All further results. There are not more than documents in the buffer and hits of a search. -/
def toList (e : Engine σ) (it : Enumeration) : StateM σ (List (Except Error Document)) := fun s =>
  let ((rs, _), s) := it.take e (it.buffer.length + e.extent s + 1) s
  (rs, s)

end Enumeration

end FieldSearch
