import FieldSearch.Document.Basic
import FieldSearch.Number.Numeral
import FieldSearch.Query.Sort

/-!
# Ranks

The rank of a document under an order: the first value of each key's field, brought into the
key's family. Values that are missing or do not fit come first, and documents that no key tells
apart go by address.
-/

namespace FieldSearch

/-- A value as a sort key sees it. -/
inductive SortValue where
  | missing
  | integer (n : Int64)
  | real (x : Double)
  | text (s : String)
deriving DecidableEq, Repr

namespace SortValue

/-- A value in the family of a key. -/
def ofValue (kind : SemanticType) (v : FieldValue) : SortValue :=
  match kind with
  | .long =>
    match v with
    | .long n => integer n
    | .float x => integer x.toDouble.toWord
    | .double x => integer x.toWord
    | .string s => ((readWord? s).map integer).getD missing
  | .float | .double =>
    match v with
    | .string s => ((readDouble? s).map real).getD missing
    | v => (v.toDouble?.map real).getD missing
  | .string => text v.display

/-- The place of a value's family; values of one key share theirs, missing ones apart. -/
def family : SortValue → Nat
  | missing => 0
  | integer _ => 1
  | real _ => 2
  | text _ => 3

/-- The order of sort values. Reals are in total order and text by code points. -/
def order : SortValue → SortValue → Ordering
  | integer m, integer n => compare m.toInt n.toInt
  | real x, real y => x.totalOrder y
  | text s, text t => compare s t
  | v, w => compare v.family w.family

end SortValue

/-- A document as an order sees it: its address, and the value and direction of each key. -/
structure Ranked where
  address : Nat
  values : List (SortValue × Bool)
deriving DecidableEq, Repr

namespace Ranked

/-- A document under a list of keys. -/
def ofDocument (keys : List SortKey) (address : Nat) (d : Document) : Ranked where
  address := address
  values := keys.map fun key =>
    (match d.field? key.field with
      | some f => .ofValue key.kind f.value
      | none => .missing, key.descending)

/-- The order of value lists, key by key; a descending key turns its order around. -/
def orderValues : List (SortValue × Bool) → List (SortValue × Bool) → Ordering
  | (v, descending) :: vs, (w, _) :: ws =>
    (if descending then w.order v else v.order w).then (orderValues vs ws)
  | _, _ => .eq

/-- The order of ranks: by the keys, then by address. -/
def order (a b : Ranked) : Ordering :=
  (orderValues a.values b.values).then (compare a.address b.address)

end Ranked

end FieldSearch
