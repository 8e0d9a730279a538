import FieldSearch.Document.Field

/-!
# Leaves

A leaf is a scalar of an object under its path. Its kind is what it was before it became a field
value.
-/

namespace FieldSearch

/-- What a leaf is. -/
inductive LeafKind where
  | integer
  | float
  | double
  | string
  | boolean
  | dateTime
  | duration
deriving DecidableEq, Repr

namespace LeafKind

/-- The family a leaf of the kind is kept under. -/
def semanticType : LeafKind → SemanticType
  | integer | boolean | dateTime | duration => .long
  | float => .float
  | double => .double
  | string => .string

/-- The name of the kind. -/
def name : LeafKind → String
  | integer => "Integer"
  | float => "Float"
  | double => "Double"
  | string => "String"
  | boolean => "Boolean"
  | dateTime => "DateTime"
  | duration => "Duration"

end LeafKind

/-- A scalar of an object under its path. -/
structure Leaf where
  path : String
  kind : LeafKind
  value : FieldValue
deriving DecidableEq, Repr

end FieldSearch
