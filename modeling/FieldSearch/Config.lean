/-!
# Configuration

Settings of the mapper and of query execution. A setting that is not given has its default.
-/

namespace FieldSearch

/-- Settings of the mapper. -/
structure MappingConfig where
  /-- Whether documents carry the payload that objects are read back from. -/
  storeSource : Bool := true
  /-- The containers that an object may nest. -/
  maxDepth : Nat := 64
deriving DecidableEq, Repr

/-- Settings of query execution. -/
structure ExecutorConfig where
  /-- The hits fetched at once while nothing limits their number. -/
  batchSize : Nat := 2000
deriving DecidableEq, Repr

/-- Settings of an index. -/
structure IndexConfig where
  mapping : MappingConfig := {}
  executor : ExecutorConfig := {}
deriving DecidableEq, Repr

/-- The configuration with the given settings; a batch has at least one hit. -/
def IndexConfig.build (storeSource : Option Bool) (maxDepth batchSize : Option Nat) :
    IndexConfig :=
  let mapping : MappingConfig := {}
  let executor : ExecutorConfig := {}
  { mapping :=
      { storeSource := storeSource.getD mapping.storeSource
        maxDepth := maxDepth.getD mapping.maxDepth }
    executor := { batchSize := (batchSize.map (max 1)).getD executor.batchSize } }

end FieldSearch
