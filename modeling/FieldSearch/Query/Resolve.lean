import FieldSearch.Document.Path
import FieldSearch.Query.Expr
import FieldSearch.Query.Sort

/-!
# Resolving property paths

A chain of members down from the parameter names the field of a property; the declared type of
its last member says what leaves the field holds.
-/

namespace FieldSearch

/-- The field of a property. -/
structure MappedField where
  name : String
  kind : LeafKind
deriving DecidableEq, Repr

/-- The family of a property's field. -/
def MappedField.semanticType (f : MappedField) : SemanticType := f.kind.semanticType

namespace Expr

variable {ω : Type}

/-- The names of a path from the parameter down; nothing if the expression is no path. A member
without a name is an error, found before anything below it is looked at. -/
def names : Expr ω → Except Error (Option (List String))
  | parameter => .ok (some [])
  | member target name _ =>
    if name = "" then .error .emptyPropertyName
    else target.names.map fun ns => ns.map (· ++ [name])
  | _ => .ok none

/-- The field of an expression; nothing if it is not a path of one member at least. -/
def resolve (e : Expr ω) : Except Error (Option MappedField) :=
  match e with
  | member _ _ type =>
    match e.names with
    | .error err => .error err
    | .ok none => .ok none
    | .ok (some ns) => type.classify.map fun kind => some ⟨Path.ofNames ns, kind⟩
  | _ => .ok none

/-- The sort key of an expression, which has to be a path. -/
def sortKey (e : Expr ω) (descending : Bool) : Except Error SortKey :=
  match e.resolve with
  | .error err => .error err
  | .ok none => .error (.notSortPath e.display)
  | .ok (some f) => .ok ⟨f.name, f.semanticType, descending⟩

end Expr

end FieldSearch
