import FieldSearch.Engine.Analysis
import FieldSearch.Engine.Basic
import FieldSearch.Engine.Collector

/-!
# The memory engine

Documents are kept in slots in the order they were written, and their address is the number of
the slot. A deleted document leaves its slot empty, and no slot is used twice. The words of text
fields that are split are found when a document is written.
-/

namespace FieldSearch

/-- A document with the terms of its analyzed fields, under the name of their field. -/
structure IndexedDocument where
  document : Document
  terms : List (String × String)
deriving Repr

namespace IndexedDocument

/-- The terms of one field. -/
def fieldTerms (f : Field) : List (String × String) :=
  if f.option.indexed && f.option.analyzed then
    match f.value with
    | .string text => (analyze text).map (f.name, ·)
    | _ => []
  else []

/-- A document with its terms. -/
def ofDocument (d : Document) : IndexedDocument := ⟨d, d.fields.flatMap fieldTerms⟩

mutual

/-- Whether the document matches a query. -/
def satisfies (d : IndexedDocument) : Query → Bool
  | .all => true
  | .term field term =>
    (d.document.fieldsOf field).any (fun f =>
      f.option.indexed && !f.option.analyzed && f.value.string? = some term)
    || d.terms.contains (field, term)
  | .range r =>
    (d.document.fieldsOf r.field).any fun f => f.option.indexed && r.contains f.value
  | .intersection qs => d.satisfiesAll qs

/-- Whether the document matches every clause. -/
def satisfiesAll (d : IndexedDocument) : List Query → Bool
  | [] => true
  | q :: qs => d.satisfies q && d.satisfiesAll qs

end

/-- Whether the document matches a query and a filter. -/
def passes (d : IndexedDocument) (q : Query) (filter : Option Query) : Bool :=
  (filter.map d.satisfies).getD true && d.satisfies q

end IndexedDocument

/-- The state of the memory engine. -/
structure MemoryEngine where
  /-- The documents by address. -/
  slots : Array (Option IndexedDocument) := #[]
  /-- The number of documents that are not deleted. -/
  live : Nat := 0
  /-- The number of leases that are held. -/
  leases : Nat := 0
  /-- The number of searches so far. -/
  searches : Nat := 0
deriving Repr

namespace MemoryEngine

/-- The engine with a document in a slot of its own. -/
def push (m : MemoryEngine) (d : IndexedDocument) : MemoryEngine :=
  { m with slots := m.slots.push (some d), live := m.live + 1 }

/-- Whether a slot holds a document that matches. -/
def slotMatches (q : Query) (slot : Option IndexedDocument) : Bool :=
  (slot.map (·.satisfies q)).getD false

/-- The number of documents that match. -/
def countMatching (m : MemoryEngine) (q : Query) : Nat := m.slots.countP (slotMatches q)

/-- The engine without the documents that match. -/
def erase (m : MemoryEngine) (q : Query) : MemoryEngine :=
  { m with
    slots := m.slots.map fun slot => if slotMatches q slot then none else slot
    live := m.live - m.countMatching q }

/-- The live documents that match a query and a filter, with their addresses, in order. -/
def matching (m : MemoryEngine) (q : Query) (filter : Option Query) :
    List (Nat × IndexedDocument) :=
  m.slots.toList.zipIdx.filterMap fun (slot, address) =>
    match slot with
    | some d => if d.passes q filter then some (address, d) else none
    | none => none

/-- The first documents of a search. -/
def top (m : MemoryEngine) (q : Query) (filter : Option Query) (sort : SortSpec) (limit : Nat) :
    TopDocs :=
  let found := m.matching q filter
  if sort.isNatural then
    let c := found.foldl (fun c (address, _) => c.collect address)
      ({ limit := limit } : FirstCollector)
    ⟨c.total, c.hits⟩
  else
    let c := found.foldl (fun c (address, d) => c.collect address d.document)
      ({ limit := limit, keys := sort.keys } : BestCollector)
    ⟨c.total, c.addresses⟩

/-- The stored fields of the document at an address. -/
def doc? (m : MemoryEngine) (address : Nat) : Option Document :=
  (m.slots[address]?.join).map (·.document.stored)

/-! ## Calls -/

/-- Adds a document, unless it is empty. -/
def write (d : Document) : Answer MemoryEngine Unit := fun m =>
  if d.isEmpty then (.error .emptyDocument, m) else (.ok (), m.push (.ofDocument d))

/-- Deletes the documents that match. -/
def deleteBy (q : Query) : Answer MemoryEngine Nat := fun m =>
  (.ok (m.countMatching q), m.erase q)

/-- Deletes the documents that match and adds one, or does neither. -/
def replaceBy (q : Query) (d : Document) : Answer MemoryEngine Nat := fun m =>
  if d.isEmpty then (.error .emptyDocument, m)
  else (.ok (m.countMatching q), (m.erase q).push (.ofDocument d))

/-- The calls of the memory engine. -/
def engine : Engine MemoryEngine where
  write := write
  deleteBy := deleteBy
  replaceBy := replaceBy
  acquire := fun m => (.ok (), { m with leases := m.leases + 1 })
  release := fun m => { m with leases := m.leases - 1 }
  search := fun q filter sort limit m =>
    (.ok (m.top q filter sort limit), { m with searches := m.searches + 1 })
  count := fun q filter m => (.ok (m.matching q filter).length, m)
  doc := fun address m =>
    match m.doc? address with
    | some d => (.ok d, m)
    | none => (.error (.noDocument address), m)
  extent := fun m => m.slots.size

end MemoryEngine

end FieldSearch
