import FieldSearch.Error
import FieldSearch.Json.Basic
import FieldSearch.Time.Text
import FieldSearch.Time.Ticks

/-!
# Object values

A `Value` is an object as its type describes it while it is written: scalars, optional values,
sequences, tuples, maps, records and the variants of a choice. Names of types and variants are
part of the tree. `Value.refusal` stands for a value that cannot be written.

* `Value.json?` — the JSON tree of a value, if it can be written.
* `Value.keyText?` — the text of a value in the place of a member name.
-/

namespace FieldSearch

/-- An object as its type describes it. -/
inductive Value where
  | bool (b : Bool)
  /-- An integer of a signed type of up to 64 bits. -/
  | int (n : Int64)
  /-- An integer of an unsigned type of up to 64 bits. -/
  | nat (n : UInt64)
  /-- An integer of a type of 128 bits. -/
  | wide (signed : Bool) (n : Int)
  | single (x : Single)
  | double (x : Double)
  | char (c : Char)
  | text (s : String)
  | bytes (bs : List UInt8)
  | absent
  | present (v : Value)
  | unit
  /-- A type without content. -/
  | unitRecord (type : String)
  /-- A type around one value. -/
  | wrapped (type : String) (v : Value)
  | sequence (vs : List Value)
  | tuple (vs : List Value)
  /-- A type of values without names. -/
  | tupleRecord (type : String) (vs : List Value)
  | map (entries : List (Value × Value))
  /-- A map whose value is given without a key. -/
  | keyless (v : Value)
  | record (type : String) (fields : List (String × Value))
  /-- A variant without content. -/
  | unitVariant (type tag : String)
  /-- A variant with content: one value, or a tuple or record of several. -/
  | variant (type tag : String) (v : Value)
  /-- A value that cannot be written, and why. -/
  | refusal (reason : String)
deriving Repr

namespace Value

/-! ## Dates -/

/-- The type name that marks tick counts of date-times. -/
def instantMarker : String := "$ticks:datetime"

/-- The type name that marks tick counts of durations. -/
def durationMarker : String := "$ticks:duration"

/-- A date-time as its tick count. -/
def ofInstantTicks (x : Instant) : Value :=
  match x.toTicks? with
  | some t => wrapped instantMarker (int t)
  | none => refusal (Error.outsideTicks x.spaced).detail

/-- A duration as its tick count. -/
def ofDurationTicks (d : Duration) : Value :=
  match d.toTicks? with
  | some t => wrapped durationMarker (int t)
  | none => refusal (Error.outsideTicks d.text).detail

/-- A date-time as text. -/
def ofInstant (x : Instant) : Value := text (x.rfc3339 "Z")

/-! ## JSON -/

/-- A finite float as a member name. -/
def floatKey? {f : Format} (layout : FloatLayout) (x : Binary f) : Option String :=
  if x.isFinite then some (String.ofList (layout.numeral x).render) else none

/-- The text of a scalar in the place of a member name. -/
def keyText? : Value → Option String
  | bool b => some (if b then "true" else "false")
  | int n => some (toString n.toInt)
  | nat n => some (toString n.toNat)
  | wide _ n => some (toString n)
  | single x => floatKey? Json.singleLayout x
  | double x => floatKey? Json.doubleLayout x
  | char c => some (String.singleton c)
  | text s => some s
  | unitVariant _ tag => some tag
  | wrapped _ v | present v => v.keyText?
  | bytes _ | absent | unit | unitRecord _ | sequence _ | tuple _ | tupleRecord .. | map _
  | keyless _ | record .. | variant .. | refusal _ => none

mutual

/-- The JSON tree of a value. Options and wrapping types leave no trace; a variant with content
is an object of one member. -/
def json? : Value → Option Json
  | bool b => some (.bool b)
  | int n => some (.ofInt n.toInt)
  | nat n => some (.ofInt n.toNat)
  | wide _ n => some (.ofInt n)
  | single x => some (.ofFloat Json.singleLayout x)
  | double x => some (.ofFloat Json.doubleLayout x)
  | char c => some (.ofString (String.singleton c))
  | text s => some (.ofString s)
  | bytes bs => some (.array (bs.map fun b => .ofInt b.toNat))
  | absent | unit | unitRecord _ => some .null
  | present v | wrapped _ v => v.json?
  | sequence vs | tuple vs | tupleRecord _ vs => (jsonItems? vs).map .array
  | map entries => (jsonEntries? entries).map .object
  | keyless v => v.json?.map .nameless
  | record _ fields => (jsonFields? fields).map .object
  | unitVariant _ tag => some (.ofString tag)
  | variant _ tag v => v.json?.map fun j => .object [(some tag, j)]
  | refusal _ => none

/-- The trees of values in order. -/
def jsonItems? : List Value → Option (List Json)
  | [] => some []
  | v :: vs => do return (← v.json?) :: (← jsonItems? vs)

/-- The members of a map. -/
def jsonEntries? : List (Value × Value) → Option (List (JsonText × Json))
  | [] => some []
  | (k, v) :: entries => do
    return (some (← k.keyText?), ← v.json?) :: (← jsonEntries? entries)

/-- The members of a record. -/
def jsonFields? : List (String × Value) → Option (List (JsonText × Json))
  | [] => some []
  | (name, v) :: fields => do return (some name, ← v.json?) :: (← jsonFields? fields)

end

end Value

end FieldSearch
