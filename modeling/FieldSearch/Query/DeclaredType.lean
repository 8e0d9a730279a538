import FieldSearch.Error
import FieldSearch.Mapping.Leaf
import FieldSearch.Object.Schema

/-!
# Declared types of properties

What a property path ends in, as far as queries are concerned: a leaf, possibly in options and
sequences, or something that has no field.
-/

namespace FieldSearch

/-- The declared type of a property. -/
inductive DeclaredType where
  | leaf (kind : LeafKind)
  /-- Many values, each compared on its own. -/
  | sequence (element : DeclaredType)
  /-- A value that may be absent. -/
  | optional (content : DeclaredType)
  /-- A composite, which paths only pass through. -/
  | object (name : String)
  /-- A type without fields. -/
  | unsupported (name : String)
deriving DecidableEq, Repr

namespace DeclaredType

/-- The kind of the leaves of a declared type, looking through sequences and options. -/
def classify : DeclaredType → Except Error LeafKind
  | leaf kind => .ok kind
  | sequence t | optional t => t.classify
  | object name => .error (.compositeProperty name)
  | unsupported name => .error (.unmappedProperty name)

/-- Date-times that are written as text, not as ticks. -/
def bareInstant : DeclaredType :=
  unsupported "DateTime<Utc> (declare it as Ticks<DateTime<Utc>>)"

/-- Durations that are not written as ticks. -/
def bareDuration : DeclaredType := unsupported "TimeDelta (declare it as Ticks<TimeDelta>)"

/-- The declared type of a shape. -/
def ofSchema : Schema → DeclaredType
  | .bool => leaf .boolean
  | .signed bits => if bits ≤ 64 then leaf .integer else unsupported s!"i{bits}"
  | .unsigned bits => if bits ≤ 64 then leaf .integer else unsupported s!"u{bits}"
  | .single => leaf .float
  | .double => leaf .double
  | .char | .text | .uuid => leaf .string
  | .instant => bareInstant
  | .instantTicks => leaf .dateTime
  | .durationTicks => leaf .duration
  | .option s => optional (ofSchema s)
  | .sequence s => sequence (ofSchema s)
  | .record type _ | .inline type _ | .choice type _ | .named type | .unitRecord type
  | .wrapped type _ | .tupleRecord type _ => object type
  | .unit => object "unit"
  | .table _ => object "map"
  | .tuple _ | .inlineTuple _ => object "tuple"
  | .any => object "value"

end DeclaredType

end FieldSearch
