import FieldSearch.Config
import FieldSearch.Mapping.Conventions
import FieldSearch.Mapping.Envelope
import FieldSearch.Mapping.Projection
import FieldSearch.Mapping.Registry

/-!
# Mappers

A mapper turns objects into documents and back. `FieldMapper` does it for every type: it projects
the leaves of an object into fields and reads the object back from the payload.
`DocumentMapper` is what writing and querying ask of a mapper, so that another one can take its
place where an index is used.
-/

namespace FieldSearch

/-- What writing and querying ask of a mapper. Building a document may take a stamp from the
clock. -/
structure DocumentMapper where
  toDocument : Value → RecordedTypes → WriteClock → Except Error Document × WriteClock
  toObject : Document → Except Error Value

/-- The mapper for every type of objects. -/
structure FieldMapper where
  config : MappingConfig := {}
  conventions : FieldConventions := {}

namespace FieldMapper

/-- The fields of an object. -/
def project (m : FieldMapper) (v : Value) : Except Error Document :=
  (Projection.ofValue m.config.maxDepth v).toExcept.map fun leaves =>
    ⟨leaves.map m.conventions.field⟩

/-- The fields of an object and its envelope. -/
def toDocument (m : FieldMapper) (v : Value) (types : RecordedTypes) (clock : WriteClock) :
    Except Error Document × WriteClock :=
  match m.project v with
  | .error e => (.error e, clock)
  | .ok d =>
    match Envelope.wrap m.config.storeSource types v clock d with
    | (.error e, _, clock) => (.error e, clock)
    | (.ok (), d, clock) => (.ok d, clock)

/-- The object of a document, read as a type. -/
def reconstruct (t : ObjectType) (d : Document) : Except Error Value := Envelope.decode t d

/-- The object of a document, read as the type recorded for it: the one in the envelope, or the
one in the payload. -/
def reconstructDynamic (registry : TypeRegistry) (d : Document) :
    Except Error (ObjectType × Value) := do
  let (type, tree) ← Envelope.decodeTree d
  registry.decode ((Envelope.actualType? d).getD type) tree

/-- The mapper as it is asked for one type of objects. -/
def documentMapper (m : FieldMapper) (t : ObjectType) : DocumentMapper where
  toDocument := m.toDocument
  toObject := reconstruct t

end FieldMapper

end FieldSearch
