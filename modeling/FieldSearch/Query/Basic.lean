import FieldSearch.Document.Basic
import FieldSearch.Mapping.Reserved
import FieldSearch.Object.Identity

/-!
# Queries

The queries that engines answer: all documents, one term of a field, a numeric range of a field,
and the documents that match every clause. `Query.intersect` combines queries without nesting.
-/

namespace FieldSearch

/-- A bound of a range. -/
inductive NumericValue where
  | long (n : Int64)
  | float (x : Single)
  | double (x : Double)
deriving DecidableEq, Repr

namespace NumericValue

/-- The family of a bound. -/
def semanticType : NumericValue → SemanticType
  | long _ => .long
  | float _ => .float
  | double _ => .double

/-- A bound as a double. -/
def toDouble : NumericValue → Double
  | long n => Format.double.ofInt n.toInt
  | float x => x.toDouble
  | double x => x

/-- A bound as a field value. -/
def toFieldValue : NumericValue → FieldValue
  | long n => .long n
  | float x => .float x
  | double x => .double x

/-- The bound of a numeric field value. -/
def ofFieldValue? : FieldValue → Option NumericValue
  | .long n => some (long n)
  | .float x => some (float x)
  | .double x => some (double x)
  | .string _ => none

/-- How a value compares with a bound. Integers compare as they are, other numbers as doubles;
text and NaN do not compare. -/
def compare? (bound : NumericValue) (value : FieldValue) : Option Ordering :=
  match value, bound with
  | .long v, .long b => some (compare v.toInt b.toInt)
  | .string _, _ => none
  | v, b => v.toDouble?.bind (·.compare? b.toDouble)

/-- The text of a bound. -/
def display (b : NumericValue) : String := b.toFieldValue.display

end NumericValue

/-- A range of a numeric field. A side without a bound is open. -/
structure NumericRange where
  field : String
  kind : SemanticType
  min : Option NumericValue
  max : Option NumericValue
  minInclusive : Bool
  maxInclusive : Bool
deriving DecidableEq, Repr

namespace NumericRange

/-- Whether a value is on the right side of the lower bound. -/
def aboveMin (r : NumericRange) (v : FieldValue) : Bool :=
  match r.min with
  | none => v.semanticType.isNumeric
  | some b =>
    match b.compare? v with
    | some .gt => true
    | some .eq => r.minInclusive
    | _ => false

/-- Whether a value is on the right side of the upper bound. -/
def belowMax (r : NumericRange) (v : FieldValue) : Bool :=
  match r.max with
  | none => v.semanticType.isNumeric
  | some b =>
    match b.compare? v with
    | some .lt => true
    | some .eq => r.maxInclusive
    | _ => false

/-- Whether a value lies in the range. -/
def contains (r : NumericRange) (v : FieldValue) : Bool := r.aboveMin v && r.belowMax v

/-- The range of one value. -/
def point (field : String) (kind : SemanticType) (b : NumericValue) : NumericRange :=
  ⟨field, kind, some b, some b, true, true⟩

/-- The text of a bound, or the mark of an open side. -/
def boundText (b : Option NumericValue) : String := (b.map NumericValue.display).getD "*"

/-- The text of a range. -/
def display (r : NumericRange) : String :=
  r.field ++ ":" ++ (if r.minInclusive then "[" else "\x7b") ++ boundText r.min ++ " TO "
    ++ boundText r.max ++ (if r.maxInclusive then "]" else "\x7d")

end NumericRange

/-- A query that engines answer. -/
inductive Query where
  /-- Every document. -/
  | all
  /-- The documents with a term in a field. -/
  | term (field term : String)
  /-- The documents with a value of a field in a range. -/
  | range (r : NumericRange)
  /-- The documents that match every clause. -/
  | intersection (clauses : List Query)
deriving Repr

namespace Query

/-- Whether the query is the one that matches everything. -/
def isAll : Query → Bool
  | all => true
  | _ => false

/-- The clauses a query brings into an intersection. -/
def clauses : Query → List Query
  | all => []
  | intersection qs => qs
  | q => [q]

/-- The query of a list of clauses, which stands alone if there is one. -/
def ofClauses : List Query → Query
  | [] => all
  | [q] => q
  | qs => intersection qs

/-- The documents that match both queries. -/
def intersect (p q : Query) : Query := ofClauses (p.clauses ++ q.clauses)

mutual

/-- The text of a query. -/
def display : Query → String
  | all => "*:*"
  | term field t => field ++ ":\"" ++ t ++ "\""
  | range r => r.display
  | intersection qs => "(" ++ displayClauses true qs ++ ")"

/-- The clauses with a sign before and a blank between them. -/
def displayClauses (first : Bool) : List Query → String
  | [] => ""
  | q :: qs => (if first then "+" else " +") ++ q.display ++ displayClauses false qs

end

/-- The documents of an actual type. -/
def ofActualType (t : TypeIdentity) : Query := term actualTypeField t.text

/-- The documents written through a declared type. -/
def ofDeclaredType (t : TypeIdentity) : Query := term declaredTypeField t.text

end Query

end FieldSearch
