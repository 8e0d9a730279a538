import FieldSearch.Config
import FieldSearch.Mapping.Leaf
import FieldSearch.Object.Identity
import FieldSearch.Object.Persistent

/-!
# Identities, kinds and settings as JSON
-/

namespace FieldSearch

open Persistent (toValue ofValue?)

instance : Persistent TypeIdentity where
  schema := .text
  toValue t := .text t.text
  ofValue?
    | .text s => some ⟨s⟩
    | _ => none

instance : Persistent LeafKind where
  schema := .names "LeafKind"
    ["Integer", "Float", "Double", "String", "Boolean", "DateTime", "Duration"]
  toValue kind := .unitVariant "LeafKind" kind.name
  ofValue?
    | .unitVariant _ "Integer" => some .integer
    | .unitVariant _ "Float" => some .float
    | .unitVariant _ "Double" => some .double
    | .unitVariant _ "String" => some .string
    | .unitVariant _ "Boolean" => some .boolean
    | .unitVariant _ "DateTime" => some .dateTime
    | .unitVariant _ "Duration" => some .duration
    | _ => none

instance : Persistent MappingConfig where
  schema := .record "MappingConfig"
    [("store_source", .bool, none), ("max_depth", .unsigned 64, none)]
  toValue c := .record "MappingConfig"
    [("store_source", .bool c.storeSource), ("max_depth", .nat (.ofNat c.maxDepth))]
  ofValue?
    | .record _ [(_, .bool storeSource), (_, .nat maxDepth)] => some ⟨storeSource, maxDepth.toNat⟩
    | _ => none

instance : Persistent ExecutorConfig where
  schema := .record "ExecutorConfig" [("batch_size", .unsigned 64, none)]
  toValue c := .record "ExecutorConfig" [("batch_size", .nat (.ofNat c.batchSize))]
  ofValue?
    | .record _ [(_, .nat batchSize)] => some ⟨batchSize.toNat⟩
    | _ => none

/-- The two groups of settings may be left out, their settings not. -/
instance : Persistent IndexConfig where
  schema := .record "IndexConfig"
    [("mapping", Persistent.schema MappingConfig, some (toValue ({} : MappingConfig))),
      ("executor", Persistent.schema ExecutorConfig, some (toValue ({} : ExecutorConfig)))]
  toValue c := .record "IndexConfig"
    [("mapping", toValue c.mapping), ("executor", toValue c.executor)]
  ofValue?
    | .record _ [(_, mapping), (_, executor)] => do
      return ⟨← ofValue? mapping, ← ofValue? executor⟩
    | _ => none

end FieldSearch
