import FieldSearch.Document.Basic
import FieldSearch.Object.Persistent

/-!
# Documents as JSON
-/

namespace FieldSearch

open Persistent (toValue ofValue?)

instance : Persistent SemanticType where
  schema := .names "SemanticType" ["Long", "Float", "Double", "String"]
  toValue
    | .long => .unitVariant "SemanticType" "Long"
    | .float => .unitVariant "SemanticType" "Float"
    | .double => .unitVariant "SemanticType" "Double"
    | .string => .unitVariant "SemanticType" "String"
  ofValue?
    | .unitVariant _ "Long" => some .long
    | .unitVariant _ "Float" => some .float
    | .unitVariant _ "Double" => some .double
    | .unitVariant _ "String" => some .string
    | _ => none

instance : Persistent FieldValue where
  schema := .choice "FieldValue"
    [("Long", some (.signed 64)), ("Float", some .single), ("Double", some .double),
      ("String", some .text)]
  toValue
    | .long n => .variant "FieldValue" "Long" (.int n)
    | .float x => .variant "FieldValue" "Float" (.single x)
    | .double x => .variant "FieldValue" "Double" (.double x)
    | .string s => .variant "FieldValue" "String" (.text s)
  ofValue?
    | .variant _ "Long" (.int n) => some (.long n)
    | .variant _ "Float" (.single x) => some (.float x)
    | .variant _ "Double" (.double x) => some (.double x)
    | .variant _ "String" (.text s) => some (.string s)
    | _ => none

instance : Persistent FieldOption where
  schema := .record "FieldOption"
    [("indexed", .bool, none), ("stored", .bool, none), ("analyzed", .bool, none)]
  toValue o := .record "FieldOption"
    [("indexed", .bool o.indexed), ("stored", .bool o.stored), ("analyzed", .bool o.analyzed)]
  ofValue?
    | .record _ [(_, .bool indexed), (_, .bool stored), (_, .bool analyzed)] =>
      some ⟨indexed, stored, analyzed⟩
    | _ => none

instance : Persistent Field where
  schema := .record "Field"
    [("name", .text, none), ("value", Persistent.schema FieldValue, none),
      ("option", Persistent.schema FieldOption, none)]
  toValue f := .record "Field"
    [("name", .text f.name), ("value", toValue f.value), ("option", toValue f.option)]
  ofValue?
    | .record _ [(_, .text name), (_, value), (_, option)] => do
      return ⟨name, ← ofValue? value, ← ofValue? option⟩
    | _ => none

instance : Persistent Document where
  schema := .record "Document" [("fields", .sequence (Persistent.schema Field), none)]
  toValue d := .record "Document" [("fields", .sequence (d.fields.map toValue))]
  ofValue?
    | .record _ [(_, fields)] => (Persistent.listOf? fields).map .mk
    | _ => none

end FieldSearch
