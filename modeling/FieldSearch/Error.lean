/-!
# Errors

An `Error` is the cause of a failure. Its kind groups causes by who is at fault: the caller's
input, the shape of an object, an expression, a stored payload, or the engine. `Error.message` is
the wording, the same for everyone who reports the cause.
-/

namespace FieldSearch

/-- What went wrong, in the large. -/
inductive ErrorKind where
  | argumentInvalid
  | unsupportedType
  | unmappableType
  | unsupportedExpression
  | missingSourcePayload
  | corruptSourcePayload
  | engine
  | serialization
  | json
deriving DecidableEq, Repr

/-- The name of a kind. -/
def ErrorKind.name : ErrorKind → String
  | .argumentInvalid => "ArgumentInvalid"
  | .unsupportedType => "UnsupportedType"
  | .unmappableType => "UnmappableType"
  | .unsupportedExpression => "UnsupportedExpression"
  | .missingSourcePayload => "MissingSourcePayload"
  | .corruptSourcePayload => "CorruptSourcePayload"
  | .engine => "Engine"
  | .serialization => "Serialization"
  | .json => "Json"

/-- The words every message of a kind begins with. -/
def ErrorKind.label : ErrorKind → String
  | .argumentInvalid => "Invalid argument: "
  | .unsupportedType => "Unsupported type: "
  | .unmappableType => "Unmappable type: "
  | .unsupportedExpression => "Unsupported expression: "
  | .missingSourcePayload => "Missing source payload: "
  | .corruptSourcePayload => "Corrupt source payload: "
  | .engine => "Engine execution failure: "
  | .serialization => "Serialization error: "
  | .json => "JSON error: "

/-- The cause of a failure. -/
inductive Error where
  /-- A failure that a caller or an engine states in its own words. -/
  | stated (kind : ErrorKind) (text : String)
  /-- A leaf under a path with an empty segment. -/
  | emptySegment (path : String)
  /-- A leaf under the name of an envelope field. -/
  | reservedPath (path : String)
  /-- A scalar without a path. -/
  | scalarRoot
  /-- A sequence without a path. -/
  | sequenceRoot
  /-- A leaf that no field value can hold. -/
  | unsupportedLeaf (what path : String)
  /-- A map key that is no path segment. -/
  | unsupportedKey (what : String)
  /-- An integer of 128 bits as a map key. -/
  | wideKey (type : String)
  /-- A map value that no key precedes. -/
  | valueWithoutKey
  /-- A container below the deepest level allowed. -/
  | nestedTooDeep (path : String) (limit : Nat)
  /-- A value that refuses to be written, in its own words. -/
  | refused (text : String)
  /-- A property without a name. -/
  | emptyPropertyName
  /-- A path that ends in a composite. -/
  | compositeProperty (name : String)
  /-- A path that ends in a type without fields. -/
  | unmappedProperty (name : String)
  /-- An expression where a predicate has to be. -/
  | notPredicate (expr : String)
  /-- An expression where a property path has to be. -/
  | notPath (expr : String)
  /-- A sort selector that is no property path. -/
  | notSortPath (expr : String)
  /-- An expression where an operand has to be. -/
  | notOperand (expr : String)
  /-- A range over a text field. -/
  | textRange (field : String)
  /-- A term without a value. -/
  | nullTerm (field : String)
  /-- A term on a text field that is no text. -/
  | nonTextTerm (field operand : String)
  /-- An operand of another family than its field. -/
  | incomparable (operand type field : String)
  /-- A date-time or duration without ticks. -/
  | outsideTicks (operand : String)
  /-- A document without fields. -/
  | emptyDocument
  /-- An address without a live document. -/
  | noDocument (address : Nat)
  /-- A type identity without a decoder. -/
  | noDecoder (identity : String)
  /-- A document whose payload was not written. -/
  | noSource (type : Option String)
  /-- A payload that is no text. -/
  | sourceNotText
  /-- A payload that is no object of the type. -/
  | undecodable (type : String)
  /-- A payload that is no JSON. -/
  | unparsable
  /-- A failure of reading or writing JSON. -/
  | json
deriving DecidableEq, Repr

namespace Error

/-- The kind of a cause. -/
def kind : Error → ErrorKind
  | stated k _ => k
  | emptySegment _ | reservedPath _ | emptyPropertyName | nullTerm _ | outsideTicks _
  | emptyDocument => .argumentInvalid
  | scalarRoot | sequenceRoot | unsupportedLeaf .. | unsupportedKey _ => .unsupportedType
  | nestedTooDeep .. | compositeProperty _ | unmappedProperty _ | noDecoder _ => .unmappableType
  | notPredicate _ | notPath _ | notSortPath _ | notOperand _ | textRange _ | nonTextTerm ..
  | incomparable .. => .unsupportedExpression
  | noSource _ => .missingSourcePayload
  | sourceNotText | undecodable _ | unparsable => .corruptSourcePayload
  | noDocument _ => .engine
  | wideKey _ | valueWithoutKey | refused _ => .serialization
  | json => .json

/-- Stands for whatever the JSON layer has to say about a failure. -/
def jsonDetail : String := "<json>"

/-- The wording of a cause, without the label of its kind. -/
def detail : Error → String
  | stated _ text => text
  | emptySegment path => s!"field path '{path}' has an empty segment"
  | reservedPath path => s!"field path '{path}' collides with a reserved envelope field"
  | scalarRoot => "a scalar cannot be projected as a document root"
  | sequenceRoot => "a sequence cannot be projected as a document root"
  | unsupportedLeaf what path => s!"{what} at '{path}'"
  | unsupportedKey what => s!"{what} used as a map key"
  | wideKey type => s!"{type} is not supported"
  | valueWithoutKey => "map value without a key"
  | nestedTooDeep path limit =>
    s!"object graph at '{path}' is nested deeper than {limit} levels (cyclic reference?)"
  | refused text => text
  | emptyPropertyName => "empty property name"
  | compositeProperty name =>
    s!"{name} is a composite and cannot be queried or sorted on directly"
  | unmappedProperty name => s!"{name} has no field representation"
  | notPredicate expr => s!"{expr} is not a range, term or conjunction"
  | notPath expr => s!"{expr} is not a property path"
  | notSortPath expr => s!"sort selector {expr} is not a property path"
  | notOperand expr => s!"operand {expr} is neither a constant nor a captured value"
  | textRange field => s!"range over non-numeric field '{field}'"
  | nullTerm field => s!"term on '{field}' has a null operand"
  | nonTextTerm field operand =>
    s!"term on string field '{field}' with non-string operand {operand}"
  | incomparable operand type field =>
    s!"operand {operand} cannot be compared with {type} field '{field}'"
  | outsideTicks operand => s!"{operand} is outside the tick range"
  | emptyDocument => "cannot write an empty document"
  | noDocument address => s!"doc#{address} does not exist"
  | noDecoder identity => s!"no decoder registered for {identity}"
  | noSource (some type) => s!"document of type {type} was written without its source"
  | noSource none => "document was written without its source"
  | sourceNotText => "$source is not a string field"
  | undecodable type => s!"cannot decode {type} payload: {jsonDetail}"
  | unparsable => s!"cannot parse payload: {jsonDetail}"
  | json => jsonDetail

/-- The full wording of a cause. -/
def message (e : Error) : String := e.kind.label ++ e.detail

/-- Whether the engine failed, and not mapping or translation. -/
def isEngine (e : Error) : Bool := e.kind = .engine

end Error

end FieldSearch
