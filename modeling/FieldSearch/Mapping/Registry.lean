import FieldSearch.Error
import FieldSearch.Object.Identity

/-!
# Registry

The types that objects can be read back as, by the identity recorded with them. A later entry
takes the place of an earlier one for the same identity.
-/

namespace FieldSearch

/-- Types by identity, the latest first. -/
structure TypeRegistry where
  entries : List (TypeIdentity × ObjectType) := []

namespace TypeRegistry

/-- Adds a type under a given identity. -/
def registerAs (r : TypeRegistry) (identity : TypeIdentity) (t : ObjectType) : TypeRegistry :=
  ⟨(identity, t) :: r.entries⟩

/-- Adds a type under its own identity. -/
def register (r : TypeRegistry) (t : ObjectType) : TypeRegistry := r.registerAs t.identity t

/-- The type of an identity. -/
def type? (r : TypeRegistry) (identity : TypeIdentity) : Option ObjectType :=
  r.entries.lookup identity

/-- Whether an identity has a type. -/
def contains (r : TypeRegistry) (identity : TypeIdentity) : Bool := (r.type? identity).isSome

/-- The object of a settled tree, read as the type of an identity. -/
def decode (r : TypeRegistry) (identity : TypeIdentity) (j : Json) :
    Except Error (ObjectType × Value) :=
  match r.type? identity with
  | none => .error (.noDecoder identity.text)
  | some t =>
    match Schema.read t.catalog .settled t.schema j with
    | some v => .ok (t, v)
    | none => .error (.undecodable t.name)

end TypeRegistry

end FieldSearch
