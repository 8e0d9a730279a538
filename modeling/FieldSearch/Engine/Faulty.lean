import FieldSearch.Engine.Basic

/-!
# Engines with faults

An engine with switches that make its calls fail before they reach the engine inside. Replacing
is deleting and writing, each with its own switch.
-/

namespace FieldSearch

/-- A call that can be made to fail. -/
inductive Fault where
  | lease
  | search
  | count
  | write
  | delete
  | doc
deriving DecidableEq, Repr

/-- The name of a call in the message of its failure. -/
def Fault.name : Fault → String
  | lease => "lease"
  | search => "search"
  | count => "count"
  | write => "write"
  | delete => "delete"
  | doc => "doc"

/-- The fault of a name. -/
def Fault.ofName? (name : String) : Option Fault :=
  [lease, search, count, write, delete, doc].find? (·.name = name)

/-- The state of an engine with faults. -/
structure Faulty (σ : Type) where
  inner : σ
  faults : List Fault := []

namespace Faulty

variable {σ α : Type}

/-- A call that fails if its switch is on. -/
def call (fault : Fault) (inside : Answer σ α) : Answer (Faulty σ) α := fun s =>
  if s.faults.contains fault then (.error (.stated .engine (fault.name ++ " failed")), s)
  else
    let (r, inner) := inside s.inner
    (r, { s with inner })

/-- The calls of an engine with faults. -/
def engine (e : Engine σ) : Engine (Faulty σ) :=
  let write := fun d => call .write (e.write d)
  let deleteBy := fun q => call .delete (e.deleteBy q)
  { write := write
    deleteBy := deleteBy
    replaceBy := Engine.deleteThenWrite write deleteBy
    acquire := call .lease e.acquire
    release := fun s => { s with inner := e.release s.inner }
    search := fun q filter sort limit => call .search (e.search q filter sort limit)
    count := fun q filter => call .count (e.count q filter)
    doc := fun address => call .doc (e.doc address)
    extent := fun s => e.extent s.inner }

end Faulty

end FieldSearch
