import FieldSearch.Document.Basic
import FieldSearch.Json.Reader
import FieldSearch.Json.Writer
import FieldSearch.Mapping.Clock
import FieldSearch.Mapping.Reserved
import FieldSearch.Object.Identity

/-!
# Envelope

The fields that a mapped document carries beside those of its object:

* the identity of the actual type and of the declared type, matched as a whole and stored;
* the payload, a JSON text with the actual type and the object, stored only and left out on
  request;
* the write time in ticks, stored only.

`Envelope.wrap` adds them; `Envelope.decode` reads an object back from the payload.
-/

namespace FieldSearch

namespace Envelope

/-- The payload of an object. -/
def payload? (actual : TypeIdentity) (v : Value) : Option String :=
  v.json?.map fun j =>
    (Json.ofMembers [("type", .ofString actual.text), ("value", j)]).text

/-- The document with the identities of an object. -/
def identify (types : RecordedTypes) (d : Document) : Document :=
  let option := FieldOption.exact.withStored true
  (d.addField actualTypeField (.string types.actual.text) option).addField declaredTypeField
    (.string types.declared.text) option

/-- The document with a payload. -/
def addSource (text : String) (d : Document) : Document :=
  d.addField sourceField (.string text) .storedOnly

/-- The document with a write time. -/
def addTimestamp (t : Int64) (d : Document) : Document :=
  d.addField timestampField (.long t) .storedOnly

/-- Adds the envelope of an object to a document. The document keeps what was added before a
failure, and the clock only advances when the time is added. -/
def wrap (storeSource : Bool) (types : RecordedTypes) (v : Value) (clock : WriteClock)
    (d : Document) : Except Error Unit × Document × WriteClock :=
  let d := identify types d
  if storeSource then
    match payload? types.actual v with
    | none => (.error .json, d, clock)
    | some text => (.ok (), addTimestamp clock.stamp (addSource text d), clock.advance)
  else (.ok (), addTimestamp clock.stamp d, clock.advance)

/-! ## Reading -/

/-- The recorded actual type. -/
def actualType? (d : Document) : Option TypeIdentity := (d.string? actualTypeField).map .mk

/-- The recorded declared type. -/
def declaredType? (d : Document) : Option TypeIdentity := (d.string? declaredTypeField).map .mk

/-- The recorded write time. -/
def timestamp? (d : Document) : Option Int64 := (d.field? timestampField).bind (·.value.long?)

/-- The payload of a document. -/
def source (d : Document) : Except Error String :=
  match d.field? sourceField with
  | none => .error (.noSource ((actualType? d).map (·.text)))
  | some f =>
    match f.value.string? with
    | none => .error .sourceNotText
    | some text => .ok text

/-- The shape of the payload of a type. -/
def payloadSchema (t : ObjectType) : Schema :=
  .record "SourcePayload" [("type", .text, none), ("value", t.schema, none)]

/-- The object of a payload. -/
def readPayload? (t : ObjectType) (text : String) : Option Value := do
  match ← Schema.read t.catalog .written (payloadSchema t) (← Json.parse text) with
  | .record _ [_, (_, v)] => some v
  | _ => none

/-- The object of a document, read as a type. -/
def decode (t : ObjectType) (d : Document) : Except Error Value := do
  let text ← source d
  match readPayload? t text with
  | some v => .ok v
  | none => .error (.undecodable t.name)

/-- The type and the settled tree of a payload. -/
def splitPayload? (text : String) : Option (TypeIdentity × Json) := do
  let (_, js) ← (← Json.parse text).fields? ["type", "value"]
  match js with
  | [some type, some value] =>
    return (⟨← type.string?⟩, ← value.settle (deepest - 1))
  | _ => none

/-- The type and the settled tree of a document's payload. -/
def decodeTree (d : Document) : Except Error (TypeIdentity × Json) := do
  let text ← source d
  match splitPayload? text with
  | some payload => .ok payload
  | none => .error .unparsable

end Envelope

end FieldSearch
