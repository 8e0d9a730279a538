import FieldSearch.Json.Basic

/-!
# Parts of JSON trees

What a tree holds, if it is of the kind that is asked for. Functions that take a reader hand the
part on to it and fail when it does.
-/

namespace FieldSearch

namespace Json

/-- The truth value of a tree. -/
def bool? : Json → Option Bool
  | bool b => some b
  | _ => none

/-- The integer of a tree. -/
def integer? : Json → Option Int
  | number n => n.integer?
  | _ => none

/-- The natural number of a tree. -/
def nat? (j : Json) : Option Nat := do
  let n ← j.integer?
  if 0 ≤ n then n.toNat else none

/-- The signed word of a tree. -/
def word? (j : Json) : Option Int64 := j.integer?.bind FieldSearch.word?

/-- The text of a tree. -/
def string? : Json → Option String
  | string s => s
  | _ => none

/-- The items of an array. -/
def items? : Json → Option (List Json)
  | array js => some js
  | _ => none

/-- The first member of an object with a given name. -/
def member? (name : String) : Json → Option Json
  | object ms => ms.lookup (some name)
  | _ => none

/-- A member that is there and not null. -/
def given? (j : Json) (name : String) : Option Json :=
  match j.member? name with
  | some null => none
  | m => m

variable {α : Type}

/-- The items of an array, each through a reader. -/
def list? (read : Json → Option α) (j : Json) : Option (List α) := do (← j.items?).mapM read

/-- Null, or a tree through a reader. -/
def nullable? (read : Json → Option α) : Json → Option (Option α)
  | null => some none
  | j => (read j).map some

/-- A member through a reader. -/
def at? (j : Json) (name : String) (read : Json → Option α) : Option α := (j.member? name).bind read

/-- A member that may be missing or null, through a reader. -/
def opt? (j : Json) (name : String) (read : Json → Option α) : Option (Option α) :=
  nullable? read ((j.given? name).getD null)

/-- An array as the text that it begins with and the rest. -/
def tagged? : Json → Option (String × List Json)
  | array (string (some tag) :: js) => some (tag, js)
  | _ => none

end Json

end FieldSearch
