import FieldSearch.Document.Field

/-!
# Documents

A document is a list of fields in the order they were added. A name may occur more than once;
repeated names carry the elements of a property with many values.
-/

namespace FieldSearch

/-- A flat record of fields. -/
structure Document where
  fields : List Field
deriving DecidableEq, Repr, Inhabited

namespace Document

/-- The document without fields. -/
def empty : Document := ⟨[]⟩

/-- The document with one more field at its end. -/
def add (d : Document) (f : Field) : Document := ⟨d.fields ++ [f]⟩

/-- The fields of a name, in order. -/
def fieldsOf (d : Document) (name : String) : List Field := d.fields.filter (·.name = name)

/-- The first field of a name. -/
def field? (d : Document) (name : String) : Option Field := d.fields.find? (·.name = name)

/-- The values of a name, in order. -/
def values (d : Document) (name : String) : List FieldValue := (d.fieldsOf name).map (·.value)

/-- The first value of a name, if it is a string. -/
def string? (d : Document) (name : String) : Option String :=
  (d.field? name).bind (·.value.string?)

/-- Whether the document has a field of a name. -/
def hasField (d : Document) (name : String) : Bool := d.fields.any (·.name = name)

/-- The part of a document that an engine gives back. -/
def stored (d : Document) : Document := ⟨d.fields.filter (·.option.stored)⟩

/-- The number of fields. -/
def size (d : Document) : Nat := d.fields.length

/-- Whether the document has no fields. -/
def isEmpty (d : Document) : Bool := d.fields.isEmpty

/-- Equality of documents, values compared as values. -/
def equal (d e : Document) : Bool :=
  d.fields.length = e.fields.length && (d.fields.zip e.fields).all fun (f, g) => f.equal g

/-! ## Building -/

/-- Adds a value with given options. -/
def addField (d : Document) (name : String) (value : FieldValue) (option : FieldOption) :
    Document :=
  d.add ⟨name, value, option⟩

/-- Adds a string that is matched as a whole. -/
def addString (d : Document) (name text : String) : Document :=
  d.addField name (.string text) .exact

/-- Adds a string that is matched by its words. -/
def addText (d : Document) (name text : String) : Document :=
  d.addField name (.string text) (FieldOption.exact.withAnalyzed true)

/-- Adds an integer. -/
def addLong (d : Document) (name : String) (n : Int64) : Document :=
  d.addField name (.long n) .exact

end Document

end FieldSearch
