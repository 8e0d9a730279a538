import FieldSearch.Document.Field

/-!
# Sort orders

An order is a list of keys, the first one deciding first. Without keys documents keep the order
of their addresses.
-/

namespace FieldSearch

/-- One key of an order: the field, the family its values are compared in, and the direction. -/
structure SortKey where
  field : String
  kind : SemanticType
  descending : Bool
deriving DecidableEq, Repr

/-- The text of a key. -/
def SortKey.display (k : SortKey) : String :=
  k.field ++ "(" ++ k.kind.name ++ ")" ++ if k.descending then " desc" else ""

/-- The keys of an order, the first one deciding first. -/
structure SortSpec where
  keys : List SortKey := []
deriving DecidableEq, Repr

namespace SortSpec

/-- The order of addresses. -/
def natural : SortSpec := {}

/-- Whether the order is that of addresses. -/
def isNatural (s : SortSpec) : Bool := s.keys.isEmpty

/-- The order of one key. -/
def ofKey (key : SortKey) : SortSpec := ⟨[key]⟩

/-- The order with one more key, which decides last. -/
def push (s : SortSpec) (key : SortKey) : SortSpec := ⟨s.keys ++ [key]⟩

/-- The text of an order. -/
def display (s : SortSpec) : String :=
  if s.isNatural then "<natural>" else ", ".intercalate (s.keys.map SortKey.display)

end SortSpec

end FieldSearch
