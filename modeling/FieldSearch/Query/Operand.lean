import FieldSearch.Document.Field
import FieldSearch.Text.Quoted
import FieldSearch.Time.Text

/-!
# Operands

The values that predicates compare fields with.
-/

namespace FieldSearch

/-- A value in a predicate. -/
inductive Operand where
  | null
  | long (n : Int64)
  | float (x : Single)
  | double (x : Double)
  | string (s : String)
  | boolean (b : Bool)
  | dateTime (x : Instant)
  | duration (d : Duration)
deriving DecidableEq, Repr

/-- A field value as an operand. -/
def Operand.ofFieldValue : FieldValue → Operand
  | .long n => long n
  | .float x => float x
  | .double x => double x
  | .string s => string s

/-- The text of an operand. -/
def Operand.display : Operand → String
  | null => "null"
  | long n => toString n.toInt
  | float x => x.display
  | double x => x.display
  | string s => quoted s
  | boolean b => if b then "true" else "false"
  | dateTime x => x.rfc3339 "+00:00"
  | duration d => d.text

end FieldSearch
