/-!
# Envelope field names

The names of the fields that a mapped document carries beside those of its object.
-/

namespace FieldSearch

/-- The field of the actual type. -/
def actualTypeField : String := "$type"

/-- The field of the declared type. -/
def declaredTypeField : String := "$static_type"

/-- The field of the payload. -/
def sourceField : String := "$source"

/-- The field of the write time. -/
def timestampField : String := "$timestamp"

/-- All envelope fields. -/
def reservedFields : List String :=
  [actualTypeField, declaredTypeField, sourceField, timestampField]

/-- Whether a name belongs to the envelope. -/
def isReserved (name : String) : Bool := reservedFields.contains name

end FieldSearch
