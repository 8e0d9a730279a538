import FieldSearch.Number.Integer
import FieldSearch.Number.Shortest

/-!
# Fields

A field is a named value with options for the engine. Booleans, date-times and durations have no
values of their own; they are kept as integers.
-/

namespace FieldSearch

/-- The comparison family of a value. -/
inductive SemanticType where
  | long
  | float
  | double
  | string
deriving DecidableEq, Repr

namespace SemanticType

/-- Whether values of the family take part in ranges. -/
def isNumeric : SemanticType → Bool
  | string => false
  | _ => true

/-- The name of the family in messages. -/
def name : SemanticType → String
  | long => "long"
  | float => "float"
  | double => "double"
  | string => "string"

end SemanticType

/-- A typed value of a field. -/
inductive FieldValue where
  | long (n : Int64)
  | float (x : Single)
  | double (x : Double)
  | string (s : String)
deriving DecidableEq, Repr

namespace FieldValue

/-- The family of a value. -/
def semanticType : FieldValue → SemanticType
  | long _ => .long
  | float _ => .float
  | double _ => .double
  | string _ => .string

/-- The text of a string value. -/
def string? : FieldValue → Option String
  | string s => some s
  | _ => none

/-- The integer of an integer value. -/
def long? : FieldValue → Option Int64
  | long n => some n
  | _ => none

/-- A numeric value as a double. -/
def toDouble? : FieldValue → Option Double
  | long n => some (Format.double.ofInt n.toInt)
  | float x => some x.toDouble
  | double x => some x
  | string _ => none

/-- The text of a value. -/
def display : FieldValue → String
  | long n => toString n.toInt
  | float x => x.display
  | double x => x.display
  | string s => s

/-- Equality of values as values: floats compare as numbers, so NaN differs from itself. -/
def equal : FieldValue → FieldValue → Bool
  | long m, long n => m = n
  | float x, float y => x.equal y
  | double x, double y => x.equal y
  | string s, string t => s = t
  | _, _ => false

end FieldValue

/-- What the engine does with a field: match it, give it back, split it into words. -/
structure FieldOption where
  indexed : Bool
  stored : Bool
  analyzed : Bool
deriving DecidableEq, Repr

namespace FieldOption

/-- Indexed as it is, not stored. -/
def exact : FieldOption := ⟨true, false, false⟩

/-- Stored, never matched. -/
def storedOnly : FieldOption := ⟨false, true, false⟩

/-- The option with the stored flag set to a value. -/
def withStored (o : FieldOption) (stored : Bool) : FieldOption := { o with stored }

/-- The option with the analyzed flag set to a value. -/
def withAnalyzed (o : FieldOption) (analyzed : Bool) : FieldOption := { o with analyzed }

end FieldOption

/-- A named value with its options. The name is a dotted path. -/
structure Field where
  name : String
  value : FieldValue
  option : FieldOption
deriving DecidableEq, Repr

/-- Equality of fields, values compared as values. -/
def Field.equal (f g : Field) : Bool :=
  f.name = g.name && f.value.equal g.value && f.option = g.option

end FieldSearch
