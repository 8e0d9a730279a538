import FieldSearch.Json.Settle
import FieldSearch.Object.Uuid
import FieldSearch.Object.Value
import FieldSearch.Time.Reading

/-!
# Schemas

A `Schema` is the shape of a type; `Schema.read` builds a value of that shape from a JSON tree.

Records are read from objects, in which unknown members are passed over and known ones must not
repeat, or from arrays of all their fields in order. A variant without content is read from its
name, others from an object of one member. At most `deepest` containers may be nested, but what is
passed over is not looked into.

A tree that was settled before is read in the same way but for the content of variants: fields are
not taken from an array then, and an empty array is not taken for values.
-/

namespace FieldSearch

/-- The shape of a type. -/
inductive Schema where
  | bool
  /-- Integers of a signed type of so many bits. -/
  | signed (bits : Nat)
  /-- Integers of an unsigned type of so many bits. -/
  | unsigned (bits : Nat)
  | single
  | double
  | char
  | text
  | uuid
  /-- Date-times as text. -/
  | instant
  | instantTicks
  | durationTicks
  | option (s : Schema)
  | unit
  /-- A type without content. -/
  | unitRecord (type : String)
  /-- A type around one value. -/
  | wrapped (type : String) (s : Schema)
  | sequence (s : Schema)
  /-- Maps from text, sorted by key. -/
  | table (s : Schema)
  | tuple (ss : List Schema)
  /-- A type of values without names. -/
  | tupleRecord (type : String) (ss : List Schema)
  /-- A record: each field with its schema and the value it has when it is left out, if any. -/
  | record (type : String) (fields : List (String × Schema × Option Value))
  /-- The record that a variant holds; a settled tree has to give it as an object. -/
  | inline (tag : String) (fields : List (String × Schema × Option Value))
  /-- The values without names that a variant holds; a settled tree has to give one at least. -/
  | inlineTuple (ss : List Schema)
  /-- A choice of variants, each with the schema of its content, if it has any. -/
  | choice (type : String) (variants : List (String × Option Schema))
  /-- A record or choice by name. -/
  | named (type : String)
  /-- Any value at all. -/
  | any

/-- Records and choices by name. -/
abbrev Catalog := String → Option Schema

/-- Whether a tree is read as it was written or settled before. -/
inductive Origin where
  | written
  | settled
deriving DecidableEq, Repr

/-- The containers that may be nested in a text that is read. -/
def deepest : Nat := 127

namespace Json

/-- The trees of the fields of a record, missing ones without a tree: of an object, whose known
names must not repeat, or of an array of values in field order. The flag says that it was an
object. -/
def fields? (names : List String) : Json → Option (Bool × List (Option Json))
  | .object ms => do
    let ms ← namedMembers? ms
    let js ← names.mapM fun name =>
      match ms.filter (·.1 = name) with
      | [] => some none
      | [(_, j)] => some (some j)
      | _ => none
    return (true, js)
  | .array js =>
    if js.length ≤ names.length then
      some (false, js.map some ++ List.replicate (names.length - js.length) none)
    else none
  | _ => none

/-- A number as a double: an integer is rounded to the nearest, another numeral goes through its
leading digits. -/
def double? (n : Numeral) : Option Double :=
  match n.integer? with
  | some i => some (Format.double.ofInt i)
  | none => n.scaled?

/-- A number as a single. -/
def single? (n : Numeral) : Option Single :=
  match n.integer? with
  | some i => some (Format.single.ofInt i)
  | none => n.scaled?.map (·.toSingle)

end Json

namespace Schema

/-- Whether a field of this shape may be left out of an object. -/
def isOption : Schema → Bool
  | option _ => true
  | _ => false

/-- A number as a value of any type. -/
def readNumber (n : Numeral) : Option Value :=
  match n.integer? with
  | some i => some (if 0 ≤ i then .nat (.ofNat i.toNat) else .int (.ofInt i))
  | none => n.scaled?.map .double

/-- An integer with given bounds. -/
def readInteger (low high : Int) (j : Json) : Option Int :=
  j.integer?.filter fun i => low ≤ i && i ≤ high

section Levels

variable (catalog : Catalog) (origin : Origin)

/-- The fields of a record, each read by `inner`. -/
def readFields (inner : Schema → Json → Option Value)
    (fields : List (String × Schema × Option Value)) (j : Json) :
    Option (List (String × Value)) := do
  let (isObject, js) ← j.fields? (fields.map (·.1))
  (fields.zip js).mapM fun ((name, s, default), j) =>
    match j, default with
    | some j, _ => (inner s j).map (name, ·)
    | none, some v => some (name, v)
    | none, none => if isObject && s.isOption then some (name, .absent) else none

/-- Values in order, each read by `inner` under its own shape. -/
def readTuple (inner : Schema → Json → Option Value) (ss : List Schema) (js : List Json) :
    Option (List Value) :=
  if js.length = ss.length then (ss.zip js).mapM fun (s, j) => inner s j else none

/-- The scalars, and one level of containers. What a container holds is read by `inner`, if it
may hold anything. -/
def readBody (inner : Option (Schema → Json → Option Value)) (s : Schema) (j : Json) :
    Option Value :=
  match s, j with
  | .bool, .bool b => some (.bool b)
  | .signed bits, j =>
    (readInteger (-Nat.pow 2 (bits - 1)) (Nat.pow 2 (bits - 1) - 1) j).map fun i => .int (.ofInt i)
  | .unsigned bits, j => (readInteger 0 (Nat.pow 2 bits - 1) j).map fun i => .nat (.ofNat i.toNat)
  | .single, .number n => (Json.single? n).map .single
  | .double, .number n => (Json.double? n).map .double
  | .char, j =>
    match j.string?.map String.toList with
    | some [c] => some (.char c)
    | _ => none
  | .text, j => j.string?.map .text
  | .uuid, j => (j.string?.bind Uuid.read?).map .text
  | .instant, j => (j.string?.bind Instant.read?).map .ofInstant
  | .instantTicks, j =>
    ((readInteger (-wordEnd) (wordEnd - 1) j).bind fun t => Instant.ofTicks? (.ofInt t)).map
      .ofInstantTicks
  | .durationTicks, j =>
    ((readInteger (-wordEnd) (wordEnd - 1) j).bind fun t => Duration.ofTicks? (.ofInt t)).map
      .ofDurationTicks
  | .sequence s, .array js => do
    let inner ← inner
    return .sequence (← js.mapM (inner s))
  | .table s, .object ms => do
    let inner ← inner
    let entries ← (← Json.namedMembers? ms).mapM fun (name, j) => (inner s j).map (name, ·)
    return .map ((sortEntries entries).map fun (name, v) => (.text name, v))
  | .unit, .null => some .unit
  | .unitRecord type, .null => some (.unitRecord type)
  | .tuple ss, .array js => do
    return .tuple (← readTuple (← inner) ss js)
  | .tupleRecord type ss, .array js => do
    return .tupleRecord type (← readTuple (← inner) ss js)
  | .record type fields, j => do
    return .record type (← readFields (← inner) fields j)
  | .inline tag fields, j =>
    match origin, j with
    | .settled, .array _ => none
    | _, j => do return .record tag (← readFields (← inner) fields j)
  | .inlineTuple ss, .array js =>
    match origin, js with
    | .settled, [] => none
    | _, js => do return .tuple (← readTuple (← inner) ss js)
  | .choice type variants, .string tag => do
    let tag ← tag
    match variants.lookup tag with
    | some none => some (.unitVariant type tag)
    | _ => none
  | .choice type variants, .object [(tag, j)] => do
    let inner ← inner
    let tag ← tag
    match ← variants.lookup tag, j with
    | none, .null => return .unitVariant type tag
    | none, _ => none
    | some s, j => return .variant type tag (← inner s j)
  | .any, .null => some .unit
  | .any, .bool b => some (.bool b)
  | .any, .number n => readNumber n
  | .any, .string s => s.map .text
  | .any, .array js => do
    let inner ← inner
    return .sequence (← js.mapM (inner .any))
  | .any, .object ms => do
    let inner ← inner
    let entries ← (← Json.namedMembers? ms).mapM fun (name, j) => (inner .any j).map (name, ·)
    return .map ((sortEntries entries).map fun (name, v) => (.text name, v))
  | _, _ => none

/-- Options, wrapping types and named shapes around the rest; none is a container. -/
def readWith (inner : Option (Schema → Json → Option Value)) : Schema → Json → Option Value
  | .option _, .null => some .absent
  | .option s, j => (readWith inner s j).map .present
  | .wrapped type s, j => (readWith inner s j).map (.wrapped type)
  | .named type, j => (catalog type).bind fun s => readBody origin inner s j
  | s, j => readBody origin inner s j

/-- Reads a value of a shape from a tree in which at most `depth` containers are nested. -/
def readDeep : Nat → Schema → Json → Option Value
  | 0 => readWith catalog origin none
  | depth + 1 => readWith catalog origin (some (readDeep depth))

/-- Reads a value of a shape. -/
def read (s : Schema) (j : Json) : Option Value := readDeep catalog origin deepest s j

end Levels

end Schema

end FieldSearch
