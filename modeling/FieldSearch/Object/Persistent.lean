import FieldSearch.Json.Reader
import FieldSearch.Json.Writer
import FieldSearch.Object.Schema

/-!
# Persistent types

Types of the library whose values can be kept as JSON: each comes with its shape and with the way
from its values to object values and back.
-/

namespace FieldSearch

/-- A type whose values can be kept as JSON. -/
class Persistent (α : Type) where
  /-- The shape of the values. -/
  schema : Schema
  /-- The shapes that the shape refers to by name. -/
  catalog : Catalog := fun _ => none
  toValue : α → Value
  ofValue? : Value → Option α

namespace Persistent

variable {α : Type} [Persistent α]

/-- The JSON tree of a value. -/
def toJson? (a : α) : Option Json := (toValue a).json?

/-- The value of a JSON tree. -/
def ofJson? (j : Json) : Option α := do
  ofValue? (← Schema.read (catalog α) .written (schema α) j)

/-- The JSON text of a value. -/
def write? (a : α) : Option String := (toJson? a).map Json.text

/-- The value of a JSON text. -/
def read? (text : String) : Option α := do ofJson? (← Json.parse text)

/-- An option as an object value. -/
def optionValue (a : Option α) : Value :=
  match a with
  | none => .absent
  | some a => .present (toValue a)

/-- The option of an object value. -/
def optionOf? : Value → Option (Option α)
  | .absent => some none
  | .present v => (ofValue? v).map some
  | _ => none

/-- The list of a sequence of object values. -/
def listOf? : Value → Option (List α)
  | .sequence vs => vs.mapM ofValue?
  | _ => none

end Persistent

/-- The shape of a choice without contents. -/
def Schema.names (type : String) (tags : List String) : Schema :=
  .choice type (tags.map (·, none))

instance : Persistent UInt64 where
  schema := .unsigned 64
  toValue n := .nat n
  ofValue? v := match v with
    | .nat n => some n
    | _ => none

end FieldSearch
