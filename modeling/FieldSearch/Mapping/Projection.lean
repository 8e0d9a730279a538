import FieldSearch.Document.Path
import FieldSearch.Mapping.Leaf
import FieldSearch.Mapping.Reserved
import FieldSearch.Object.Value

/-!
# Projection

The walk through an object that finds its leaves. Records, maps and variants with content add a
name to the path; sequences and tuples give every element the path of the whole; options and
wrapping types are looked through, and what is absent has no leaves. The walk stops at the first
failure and keeps the leaves found before it.
-/

namespace FieldSearch

/-- The leaves found, in order, and the failure that ended the walk, if one did. -/
structure Projection where
  leaves : List Leaf
  failure : Option Error
deriving DecidableEq, Repr

namespace Projection

/-- A walk that finds nothing. -/
def nothing : Projection := ⟨[], none⟩

/-- A walk that fails at once. -/
def fail (e : Error) : Projection := ⟨[], some e⟩

/-- A walk followed by another one, unless it failed. -/
def followedBy (p q : Projection) : Projection :=
  match p.failure with
  | some _ => p
  | none => ⟨p.leaves ++ q.leaves, q.failure⟩

/-- A walk that goes on only if a check passes. -/
def guarded (check : Option Error) (p : Projection) : Projection :=
  match check with
  | some e => fail e
  | none => p

/-- One leaf. Paths without a name, with an empty segment or of the envelope are refused. A tick
marker names the kind of an integer leaf. -/
def leaf (path : String) (marker : Option LeafKind) (kind : LeafKind) (value : FieldValue) :
    Projection :=
  let kind := match marker, value with
    | some marker, .long _ => marker
    | _, _ => kind
  if path = "" then fail .scalarRoot
  else if Path.hasEmptySegment path then fail (.emptySegment path)
  else if isReserved path then fail (.reservedPath path)
  else ⟨[⟨path, kind, value⟩], none⟩

/-- A leaf of an unsigned integer, which has to be a signed word. -/
def unsignedLeaf (path : String) (marker : Option LeafKind) (n : UInt64) : Projection :=
  match word? n.toNat with
  | some w => leaf path marker .integer (.long w)
  | none => fail (.unsupportedLeaf s!"unsigned value {n.toNat} beyond i64" (Path.display path))

/-- The kind that a wrapping type announces. -/
def markedBy (type : String) (marker : Option LeafKind) : Option LeafKind :=
  if type = Value.instantMarker then some .dateTime
  else if type = Value.durationMarker then some .duration
  else marker

/-- The failure of going one container deeper than the limit allows. -/
def tooDeep (limit : Nat) (path : String) (depth : Nat) : Option Error :=
  if limit ≤ depth then some (.nestedTooDeep (Path.display path) limit) else none

/-- The failure of a sequence at the root, or of going too deep. -/
def noSequence (limit : Nat) (path : String) (depth : Nat) : Option Error :=
  if path = "" then some .sequenceRoot else tooDeep limit path depth

/-- The path segment of a map key. Only scalars other than floats are accepted, in options and
wrapping types too. -/
def segment : Value → Except Error String
  | .bool b => .ok (if b then "true" else "false")
  | .int n => .ok (toString n.toInt)
  | .nat n => .ok (toString n.toNat)
  | .wide signed _ => .error (.wideKey (if signed then "i128" else "u128"))
  | .single _ | .double _ => .error (.unsupportedKey "float")
  | .char c => .ok (String.singleton c)
  | .text s => .ok s
  | .bytes _ => .error (.unsupportedKey "byte buffer")
  | .absent => .error (.unsupportedKey "null")
  | .present v | .wrapped _ v => segment v
  | .unit => .error (.unsupportedKey "unit")
  | .unitRecord type | .tupleRecord type _ | .record type _ | .variant type _ _ =>
    .error (.unsupportedKey type)
  | .unitVariant _ tag => .ok tag
  | .sequence _ => .error (.unsupportedKey "sequence")
  | .tuple _ => .error (.unsupportedKey "tuple")
  | .map _ | .keyless _ => .error (.unsupportedKey "map")
  | .refusal reason => .error (.refused reason)

mutual

/-- The walk through a value at a path and depth, under a marker if a wrapping type set one. -/
def walk (limit : Nat) (path : String) (depth : Nat) (marker : Option LeafKind) :
    Value → Projection
  | .bool b => leaf path marker .boolean (.long (if b then 1 else 0))
  | .int n => leaf path marker .integer (.long n)
  | .nat n => unsignedLeaf path marker n
  | .wide _ _ => fail (.unsupportedLeaf "128-bit integer" (Path.display path))
  | .single x => leaf path marker .float (.float x)
  | .double x => leaf path marker .double (.double x)
  | .char c => leaf path marker .string (.string (String.singleton c))
  | .text s => leaf path marker .string (.string s)
  | .bytes _ => fail (.unsupportedLeaf "byte buffer" (Path.display path))
  | .absent | .unit | .unitRecord _ => nothing
  | .present v => walk limit path depth marker v
  | .wrapped type v => walk limit path depth (markedBy type marker) v
  | .sequence vs | .tuple vs | .tupleRecord _ vs =>
    guarded (noSequence limit path depth) (walkItems limit path (depth + 1) vs)
  | .map entries =>
    guarded (tooDeep limit path depth) (walkEntries limit path (depth + 1) entries)
  | .keyless _ => guarded (tooDeep limit path depth) (fail .valueWithoutKey)
  | .record _ fields =>
    guarded (tooDeep limit path depth) (walkFields limit path (depth + 1) fields)
  | .unitVariant _ tag => leaf path marker .string (.string tag)
  | .variant _ tag v =>
    guarded (tooDeep limit path depth) (walk limit (Path.join path tag) (depth + 1) none v)
  | .refusal reason => fail (.refused reason)

/-- The walk through elements, which share one path. -/
def walkItems (limit : Nat) (path : String) (depth : Nat) : List Value → Projection
  | [] => nothing
  | v :: vs => (walk limit path depth none v).followedBy (walkItems limit path depth vs)

/-- The walk through the entries of a map. -/
def walkEntries (limit : Nat) (path : String) (depth : Nat) :
    List (Value × Value) → Projection
  | [] => nothing
  | (k, v) :: entries =>
    match segment k with
    | .error e => fail e
    | .ok name =>
      (walk limit (Path.join path name) depth none v).followedBy
        (walkEntries limit path depth entries)

/-- The walk through the fields of a record. -/
def walkFields (limit : Nat) (path : String) (depth : Nat) :
    List (String × Value) → Projection
  | [] => nothing
  | (name, v) :: fields =>
    (walk limit (Path.join path name) depth none v).followedBy
      (walkFields limit path depth fields)

end

/-- The walk through a whole object. -/
def ofValue (limit : Nat) (v : Value) : Projection := walk limit "" 0 none v

/-- The leaves, or the failure. -/
def toExcept (p : Projection) : Except Error (List Leaf) :=
  match p.failure with
  | some e => .error e
  | none => .ok p.leaves

end Projection

end FieldSearch
