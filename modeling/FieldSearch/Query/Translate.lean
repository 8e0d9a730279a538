import FieldSearch.Query.Basic
import FieldSearch.Query.Resolve

/-!
# Translation of predicates

Three kinds of expressions have a query: ranges over numeric fields, terms, and conjunctions of
such expressions. A term on a numeric field is the range of one value. Everything else is refused,
and so is an operand that its field cannot be compared with.

Clauses are translated in order, and a range's lower side before its upper one, up to the first
refusal. A captured operand is read once, when its clause gets to it.
-/

namespace FieldSearch

/-- Translation in surroundings that captured operands are read from; they keep their changes
when it fails. -/
abbrev Translation (ω : Type) := ExceptT Error (StateM ω)

/-- A result that does not depend on the surroundings. -/
def Translation.ofExcept {ω α : Type} (r : Except Error α) : Translation ω α := fun s => (r, s)

namespace MappedField

/-- An operand as a bound of a field's family; a null operand is no bound. An integer field takes
the floats that pass for words, a single by the double that it is. -/
def bound (f : MappedField) (v : Operand) : Except Error (Option NumericValue) :=
  let refuse : Except Error (Option NumericValue) :=
    .error (.incomparable v.display f.semanticType.name f.name)
  let long (n : Option Int64) (orElse : Except Error (Option NumericValue)) :
      Except Error (Option NumericValue) :=
    match n with
    | some n => .ok (some (.long n))
    | none => orElse
  match f.semanticType, v with
  | _, .null => .ok none
  | .long, .long n => .ok (some (.long n))
  | .long, .boolean b => .ok (some (.long (if b then 1 else 0)))
  | .long, .dateTime x => long x.toTicks? (.error (.outsideTicks x.spaced))
  | .long, .duration d => long d.toTicks? (.error (.outsideTicks d.text))
  | .long, .double x => if x.isIntegral then .ok (some (.long x.toWord)) else refuse
  | .long, .float x => if x.toDouble.isIntegral then .ok (some (.long x.toWord)) else refuse
  | .float, .float x => .ok (some (.float x))
  | .float, .double x => .ok (some (.float x.toSingle))
  | .float, .long n => .ok (some (.float (Format.single.ofInt n.toInt)))
  | .double, .double x => .ok (some (.double x))
  | .double, .float x => .ok (some (.double x.toDouble))
  | .double, .long n => .ok (some (.double (Format.double.ofInt n.toInt)))
  | _, _ => refuse

/-- The query of one term of a field. -/
def termQuery (f : MappedField) (v : Operand) : Except Error Query :=
  if f.semanticType = .string then
    match v with
    | .string s => .ok (.term f.name s)
    | .null => .error (.nullTerm f.name)
    | v => .error (.nonTextTerm f.name v.display)
  else
    match f.bound v with
    | .error e => .error e
    | .ok (some b) => .ok (.range (.point f.name f.semanticType b))
    | .ok none => .error (.nullTerm f.name)

end MappedField

namespace Expr

variable {ω : Type}

/-- The field of a predicate. -/
def field (e : Expr ω) : Except Error MappedField :=
  match e.resolve with
  | .error err => .error err
  | .ok none => .error (.notPath e.display)
  | .ok (some f) => .ok f

/-- The value of an operand, read from the surroundings if it is captured. -/
def operand : Expr ω → Translation ω Operand
  | constant v => pure v
  | captured read => fun s => (.ok (read s).1, (read s).2)
  | e => throw (.notOperand e.display)

/-- One side of a range. -/
def side (f : MappedField) : Option (Expr ω) → Translation ω (Option NumericValue)
  | none => pure none
  | some e => do
    let v ← e.operand
    Translation.ofExcept (f.bound v)

/-- The query of a range. -/
def rangeQuery (field : Expr ω) (min max : Option (Expr ω)) (minInclusive maxInclusive : Bool) :
    Translation ω Query := do
  let f ← Translation.ofExcept field.field
  if f.semanticType.isNumeric then
    let min ← side f min
    let max ← side f max
    return .range ⟨f.name, f.semanticType, min, max, minInclusive, maxInclusive⟩
  else throw (.textRange f.name)

/-- The query of a term. -/
def termQuery (field value : Expr ω) : Translation ω Query := do
  let f ← Translation.ofExcept field.field
  let v ← value.operand
  Translation.ofExcept (f.termQuery v)

mutual

/-- The query of a predicate. -/
def translate : Expr ω → Translation ω Query
  | range field min max minInclusive maxInclusive =>
    rangeQuery field min max minInclusive maxInclusive
  | term field value => termQuery field value
  | and es => translateAll .all es
  | e => throw (.notPredicate e.display)

/-- The query so far intersected with those of further clauses. -/
def translateAll (q : Query) : List (Expr ω) → Translation ω Query
  | [] => pure q
  | e :: es => do
    let r ← e.translate
    translateAll (q.intersect r) es

end

end Expr

end FieldSearch
