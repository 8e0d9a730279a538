import FieldSearch.Object.Schema

/-!
# Type identities

An identity is a type name with the name of its module behind it. The module is the part of the
name before the first `::`, and the mark of a dynamic type does not belong to the name.
-/

namespace FieldSearch

/-- The identity under which objects of a type are recorded. -/
structure TypeIdentity where
  text : String
deriving DecidableEq, Repr

namespace TypeIdentity

/-- The part of a name before the first `::`. -/
def moduleOf : List Char → List Char
  | ':' :: ':' :: _ => []
  | c :: cs => c :: moduleOf cs
  | [] => []

/-- A type name without one leading mark of a dynamic type. -/
def plainName : List Char → List Char
  | 'd' :: 'y' :: 'n' :: ' ' :: name => name
  | name => name

/-- An identity from its parts. -/
def ofParts (name module : String) : TypeIdentity := ⟨name ++ ", " ++ module⟩

/-- The identity of a type name. -/
def ofTypeName (full : String) : TypeIdentity :=
  let name := plainName full.toList
  ofParts (String.ofList name) (String.ofList (moduleOf name))

end TypeIdentity

/-- A type of objects: its name, and the shape its objects are read by. -/
structure ObjectType where
  name : String
  schema : Schema
  catalog : Catalog := fun _ => none

namespace ObjectType

/-- The identity of a type. -/
def identity (t : ObjectType) : TypeIdentity := .ofTypeName t.name

end ObjectType

/-- The identities recorded for one object: the type of the object, and the type it was written
through. -/
structure RecordedTypes where
  actual : TypeIdentity
  declared : TypeIdentity
deriving DecidableEq, Repr

/-- An object written through its own type. -/
def RecordedTypes.of (t : TypeIdentity) : RecordedTypes := ⟨t, t⟩

end FieldSearch
