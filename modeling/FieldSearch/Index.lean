import FieldSearch.Search.Typed

/-!
# Object indexes

An index writes objects to an engine and queries them by type. Its actions run in a state of three
parts: the engine's, the write clock, and the surroundings of captured operands. An action that
fails keeps what changed in the state before the failure.
-/

namespace FieldSearch

/-- An index of objects on an engine. -/
structure ObjectIndex (σ : Type) where
  engine : Engine σ
  mapper : FieldMapper
  config : IndexConfig

/-- The state of an index in surroundings `ω`. -/
structure IndexState (σ ω : Type) where
  engine : σ
  clock : WriteClock
  surroundings : ω

/-- An action of an index. -/
abbrev IndexAction (σ ω : Type) := ExceptT Error (StateM (IndexState σ ω))

namespace IndexAction

variable {σ ω α : Type}

/-- A call of the engine. -/
def ofAnswer (call : Answer σ α) : IndexAction σ ω α := fun s =>
  let (r, engine) := call s.engine
  (r, { s with engine })

/-- A translation in the surroundings. -/
def ofTranslation (t : Translation ω α) : IndexAction σ ω α := fun s =>
  let (r, surroundings) := t s.surroundings
  (r, { s with surroundings })

/-- A step that may take stamps from the clock. -/
def ofClock (f : WriteClock → Except Error α × WriteClock) : IndexAction σ ω α := fun s =>
  let (r, clock) := f s.clock
  (r, { s with clock })

end IndexAction

namespace ObjectIndex

variable {σ ω : Type}

/-- An index with a mapper, whose configuration is the one that counts. -/
def withMapper (engine : Engine σ) (config : IndexConfig) (mapper : FieldMapper) :
    ObjectIndex σ :=
  ⟨engine, mapper, { config with mapping := mapper.config }⟩

/-- An index with the default conventions. -/
def new (engine : Engine σ) (config : IndexConfig) : ObjectIndex σ :=
  withMapper engine config { config := config.mapping }

/-! ## Writing -/

/-- The document of an object, by a given mapper. -/
def document (m : DocumentMapper) (types : RecordedTypes) (v : Value) : IndexAction σ ω Document :=
  .ofClock (m.toDocument v types)

/-- Adds an object by a given mapper, under recorded types. -/
def addRecorded (i : ObjectIndex σ) (m : DocumentMapper) (types : RecordedTypes) (v : Value) :
    IndexAction σ ω Unit := do
  let d ← document m types v
  .ofAnswer (i.engine.write d)

/-- Adds an object of a type. -/
def add (i : ObjectIndex σ) (t : ObjectType) (v : Value) : IndexAction σ ω Unit :=
  i.addRecorded (i.mapper.documentMapper t) (.of t.identity) v

/-- Adds an object of a type as one of a declared type. -/
def addAs (i : ObjectIndex σ) (declared : TypeIdentity) (t : ObjectType) (v : Value) :
    IndexAction σ ω Unit :=
  i.addRecorded (i.mapper.documentMapper t) ⟨t.identity, declared⟩ v

/-- Adds an object of a type by another mapper. -/
def addWith (i : ObjectIndex σ) (m : DocumentMapper) (t : ObjectType) (v : Value) :
    IndexAction σ ω Unit :=
  i.addRecorded m (.of t.identity) v

/-- Adds objects of a type and counts them. All of them are mapped before the first one is
written. -/
def addAll (i : ObjectIndex σ) (t : ObjectType) (vs : List Value) : IndexAction σ ω Nat := do
  let ds ← vs.mapM (document (i.mapper.documentMapper t) (.of t.identity))
  ds.forM fun d => .ofAnswer (i.engine.write d)
  return ds.length

/-- The query for the objects of a type that a key predicate holds of. -/
def keyQuery (t : TypeIdentity) (key : Expr ω) : IndexAction σ ω Query := do
  let q ← .ofTranslation key.translate
  return q.intersect (.ofActualType t)

/-- Puts an object in the place of those of its type that a key holds of, and counts these. -/
def update (i : ObjectIndex σ) (t : ObjectType) (key : Expr ω) (v : Value) :
    IndexAction σ ω Nat := do
  let q ← keyQuery t.identity key
  let d ← document (i.mapper.documentMapper t) (.of t.identity) v
  .ofAnswer (i.engine.replaceBy q d)

/-- Deletes the objects of a type that a key holds of, and counts them. -/
def delete (i : ObjectIndex σ) (t : TypeIdentity) (key : Expr ω) : IndexAction σ ω Nat := do
  let q ← keyQuery t key
  .ofAnswer (i.engine.deleteBy q)

/-- Deletes the objects of a type, and counts them. -/
def deleteAll (i : ObjectIndex σ) (t : TypeIdentity) : IndexAction σ ω Nat :=
  .ofAnswer (i.engine.deleteBy (.ofActualType t))

/-! ## Querying -/

/-- The query for the objects of a type. -/
def query (i : ObjectIndex σ) (t : ObjectType) : TypedQuery where
  mapper := i.mapper.documentMapper t
  config := i.config.executor
  typeFilter := .ofActualType t.identity

/-- The query for the objects that were added as a declared type, read as a type. -/
def queryDeclared (i : ObjectIndex σ) (declared : TypeIdentity) (t : ObjectType) : TypedQuery :=
  { i.query t with typeFilter := .ofDeclaredType declared }

/-- The query for the objects of a type by another mapper. -/
def queryWith (i : ObjectIndex σ) (m : DocumentMapper) (t : ObjectType) : TypedQuery :=
  { i.query t with mapper := m }

end ObjectIndex

end FieldSearch
