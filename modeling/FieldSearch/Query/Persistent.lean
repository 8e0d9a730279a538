import FieldSearch.Document.Persistent
import FieldSearch.Query.Basic
import FieldSearch.Query.Sort

/-!
# Queries as JSON
-/

namespace FieldSearch

open Persistent (toValue ofValue?)

instance : Persistent NumericValue where
  schema := .choice "NumericValue"
    [("Long", some (.signed 64)), ("Float", some .single), ("Double", some .double)]
  toValue
    | .long n => .variant "NumericValue" "Long" (.int n)
    | .float x => .variant "NumericValue" "Float" (.single x)
    | .double x => .variant "NumericValue" "Double" (.double x)
  ofValue?
    | .variant _ "Long" (.int n) => some (.long n)
    | .variant _ "Float" (.single x) => some (.float x)
    | .variant _ "Double" (.double x) => some (.double x)
    | _ => none

instance : Persistent NumericRange where
  schema := .record "NumericRange"
    [("field", .text, none), ("kind", Persistent.schema SemanticType, none),
      ("min", .option (Persistent.schema NumericValue), none),
      ("max", .option (Persistent.schema NumericValue), none),
      ("min_inclusive", .bool, none), ("max_inclusive", .bool, none)]
  toValue r := .record "NumericRange"
    [("field", .text r.field), ("kind", toValue r.kind),
      ("min", Persistent.optionValue r.min), ("max", Persistent.optionValue r.max),
      ("min_inclusive", .bool r.minInclusive), ("max_inclusive", .bool r.maxInclusive)]
  ofValue?
    | .record _ [(_, .text field), (_, kind), (_, min), (_, max), (_, .bool minInclusive),
        (_, .bool maxInclusive)] => do
      return ⟨field, ← ofValue? kind, ← Persistent.optionOf? min, ← Persistent.optionOf? max,
        minInclusive, maxInclusive⟩
    | _ => none

namespace Query

/-- The shape of a query; the clauses of an intersection are queries again. -/
def schema : Schema := .choice "Query"
  [("MatchAll", none),
    ("Term", some (.inline "Term" [("field", .text, none), ("term", .text, none)])),
    ("NumericRange", some (Persistent.schema NumericRange)),
    ("Intersection", some (.sequence (.named "Query")))]

mutual

/-- A query as an object value. -/
def toValue : Query → Value
  | all => .unitVariant "Query" "MatchAll"
  | term field t =>
    .variant "Query" "Term" (.record "Term" [("field", .text field), ("term", .text t)])
  | range r => .variant "Query" "NumericRange" (Persistent.toValue r)
  | intersection qs => .variant "Query" "Intersection" (.sequence (toValues qs))

/-- Queries as object values. -/
def toValues : List Query → List Value
  | [] => []
  | q :: qs => q.toValue :: toValues qs

end

mutual

/-- The query of an object value. -/
def ofValue? : Value → Option Query
  | .unitVariant _ "MatchAll" => some all
  | .variant _ "Term" (.record _ [(_, .text field), (_, .text t)]) => some (term field t)
  | .variant _ "NumericRange" v => (Persistent.ofValue? v).map range
  | .variant _ "Intersection" (.sequence vs) => (ofValues? vs).map intersection
  | _ => none

/-- The queries of object values. -/
def ofValues? : List Value → Option (List Query)
  | [] => some []
  | v :: vs => do return (← ofValue? v) :: (← ofValues? vs)

end

end Query

instance : Persistent Query where
  schema := Query.schema
  catalog type := if type = "Query" then some Query.schema else none
  toValue := Query.toValue
  ofValue? := Query.ofValue?

instance : Persistent SortKey where
  schema := .record "SortKey"
    [("field", .text, none), ("kind", Persistent.schema SemanticType, none),
      ("descending", .bool, none)]
  toValue k := .record "SortKey"
    [("field", .text k.field), ("kind", toValue k.kind), ("descending", .bool k.descending)]
  ofValue?
    | .record _ [(_, .text field), (_, kind), (_, .bool descending)] => do
      return ⟨field, ← ofValue? kind, descending⟩
    | _ => none

instance : Persistent SortSpec where
  schema := .record "SortSpec" [("keys", .sequence (Persistent.schema SortKey), none)]
  toValue s := .record "SortSpec" [("keys", .sequence (s.keys.map toValue))]
  ofValue?
    | .record _ [(_, keys)] => (Persistent.listOf? keys).map .mk
    | _ => none

end FieldSearch
