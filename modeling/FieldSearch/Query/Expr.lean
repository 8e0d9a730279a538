import FieldSearch.Query.DeclaredType
import FieldSearch.Query.Operand

/-!
# Predicate expressions

Expressions over the properties of a queried object. Property paths are chains of members down
from the parameter; predicates are ranges, terms and conjunctions. The other nodes can be written
down and shown, but no query comes of them.

An operand may be captured: it is read from the surroundings `ω` of the expression each time it
is needed, and reading may change them.
-/

namespace FieldSearch

/-- Comparison and arithmetic. -/
inductive BinaryOp where
  | equal
  | notEqual
  | lessThan
  | lessThanOrEqual
  | greaterThan
  | greaterThanOrEqual
  | add
  | subtract
  | multiply
  | divide
deriving DecidableEq, Repr

/-- The sign of an operator. -/
def BinaryOp.symbol : BinaryOp → String
  | equal => "=="
  | notEqual => "!="
  | lessThan => "<"
  | lessThanOrEqual => "<="
  | greaterThan => ">"
  | greaterThanOrEqual => ">="
  | add => "+"
  | subtract => "-"
  | multiply => "*"
  | divide => "/"

/-- The operator of a sign. -/
def BinaryOp.ofSymbol? (symbol : String) : Option BinaryOp :=
  [equal, notEqual, lessThan, lessThanOrEqual, greaterThan, greaterThanOrEqual, add, subtract,
    multiply, divide].find? (·.symbol = symbol)

/-- An expression in surroundings `ω`. -/
inductive Expr (ω : Type) where
  /-- The queried object. -/
  | parameter
  /-- A property of the target. -/
  | member (target : Expr ω) (name : String) (type : DeclaredType)
  | constant (value : Operand)
  /-- An operand read from the surroundings. -/
  | captured (read : ω → Operand × ω)
  /-- A range over a property; a side without an expression is open. -/
  | range (field : Expr ω) (min max : Option (Expr ω)) (minInclusive maxInclusive : Bool)
  /-- One term of a property. -/
  | term (field value : Expr ω)
  | and (clauses : List (Expr ω))
  | or (clauses : List (Expr ω))
  | not (e : Expr ω)
  | binary (op : BinaryOp) (left right : Expr ω)
  | call (method : String) (args : List (Expr ω))

namespace Expr

variable {ω : Type}

mutual

/-- The text of an expression. -/
def display : Expr ω → String
  | parameter => "x"
  | member target name _ => target.display ++ "." ++ name
  | constant v => v.display
  | captured _ => "<captured>"
  | range field min max minInclusive maxInclusive =>
    "range(" ++ field.display ++ ", " ++ (if minInclusive then "[" else "(") ++ displaySide min
      ++ ", " ++ displaySide max ++ (if maxInclusive then "]" else ")") ++ ")"
  | term field value => "term(" ++ field.display ++ ", " ++ value.display ++ ")"
  | and es => "(" ++ displayList " && " es ++ ")"
  | or es => "(" ++ displayList " || " es ++ ")"
  | not e => "!" ++ e.display
  | binary op l r => "(" ++ l.display ++ " " ++ op.symbol ++ " " ++ r.display ++ ")"
  | call method args => method ++ "(" ++ displayList ", " args ++ ")"

/-- One side of a range. -/
def displaySide : Option (Expr ω) → String
  | none => "*"
  | some e => e.display

/-- Expressions with a separator between them. -/
def displayList (separator : String) : List (Expr ω) → String
  | [] => ""
  | [e] => e.display
  | e :: es => e.display ++ separator ++ displayList separator es

end

/-- The text of a captured operand for inspection, which does not read it. -/
def inspectCaptured : String := "Capture(..)"

/-- The conjunction with another predicate, as a further clause of one that is a conjunction. -/
def conj : Expr ω → Expr ω → Expr ω
  | and es, e => and (es ++ [e])
  | d, e => and [d, e]

/-- The disjunction with another predicate. -/
def disj (d e : Expr ω) : Expr ω := or [d, e]

end Expr

/-! ## Properties -/

/-- A path into the queried object, at which a composite is expected. -/
structure ObjectPath (ω : Type) where
  path : Expr ω := .parameter

namespace ObjectPath

variable {ω : Type}

/-- A composite below the path. -/
def object (p : ObjectPath ω) (name : String) : ObjectPath ω :=
  ⟨.member p.path name (.object "object")⟩

end ObjectPath

/-- A path to a property with leaves. -/
structure Property (ω : Type) where
  path : Expr ω

namespace ObjectPath

variable {ω : Type}

/-- A property below the path. -/
def property (p : ObjectPath ω) (name : String) (type : DeclaredType) : Property ω :=
  ⟨.member p.path name type⟩

end ObjectPath

namespace Property

variable {ω : Type}

/-- A property of the queried object itself. -/
def ofName (name : String) (type : DeclaredType) : Property ω :=
  (ObjectPath.mk .parameter).property name type

/-- A range of the property with open or given sides. -/
def range (p : Property ω) (min max : Option (Expr ω)) (minInclusive maxInclusive : Bool) :
    Expr ω :=
  .range p.path min max minInclusive maxInclusive

/-- From one value to another one, both included. -/
def between (p : Property ω) (min max : Expr ω) : Expr ω :=
  p.range (some min) (some max) true true

/-- Above a value. -/
def greaterThan (p : Property ω) (e : Expr ω) : Expr ω := p.range (some e) none false false

/-- A value or above. -/
def atLeast (p : Property ω) (e : Expr ω) : Expr ω := p.range (some e) none true false

/-- Below a value. -/
def lessThan (p : Property ω) (e : Expr ω) : Expr ω := p.range none (some e) false false

/-- A value or below. -/
def atMost (p : Property ω) (e : Expr ω) : Expr ω := p.range none (some e) false true

/-- One term of the property. -/
def term (p : Property ω) (e : Expr ω) : Expr ω := .term p.path e

/-- The text of a property for inspection. -/
def inspect (p : Property ω) : String := "Property(" ++ quoted p.path.display ++ ")"

end Property

end FieldSearch
