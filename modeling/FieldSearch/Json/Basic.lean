import FieldSearch.Number.Shortest

/-!
# JSON trees

A tree keeps what the text says: members in written order with repeated names, numerals as
literals. Whether a numeral fits a number type, whether names repeat and how deep the tree may be
is decided where a tree is read as a value.
-/

namespace FieldSearch

/-- The text of a string token; nothing if one of its escapes names half of a surrogate pair. -/
abbrev JsonText := Option String

/-- A JSON tree. -/
inductive Json where
  | null
  | bool (b : Bool)
  | number (n : Numeral)
  | string (s : JsonText)
  | array (items : List Json)
  | object (members : List (JsonText × Json))
  /-- An object with one value and no name before it, which can be written but not read. -/
  | nameless (value : Json)
deriving Repr, Inhabited

namespace Json

/-- Doubles in JSON: without an exponent from `1e-5` to below `1e16`, whole numbers with `.0`. -/
def doubleLayout : FloatLayout where
  plain := some (-5, 15)
  keepFraction := true
  tie := .even

/-- Singles in JSON: without an exponent from `1e-6` to below `1e13`, whole numbers with `.0`. -/
def singleLayout : FloatLayout where
  plain := some (-6, 12)
  keepFraction := true
  tie := .even

/-- The tree of a float; what is no number is null. -/
def ofFloat {f : Format} (layout : FloatLayout) (x : Binary f) : Json :=
  if x.isFinite then .number (layout.numeral x) else .null

/-- The tree of an integer. -/
def ofInt (n : Int) : Json := .number (.ofInt n)

/-- The tree of a text. -/
def ofString (s : String) : Json := .string (some s)

/-- The tree of named members. -/
def ofMembers (ms : List (String × Json)) : Json := .object (ms.map fun (name, j) => (some name, j))

end Json

end FieldSearch
