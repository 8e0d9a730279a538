import FieldSearch.Json.Access

/-!
# Settled trees

A tree is settled when nothing about it is left to the reader: every numeral is a number, every
string has a text, each name occurs once in its object, and names are in order. Of members with
one name the last one is kept.
-/

namespace FieldSearch

/-- Puts an entry into a list sorted by name, in the place of one with the same name. -/
def putSorted {α : Type} (name : String) (a : α) : List (String × α) → List (String × α)
  | [] => [(name, a)]
  | (k, b) :: entries =>
    if name = k then (name, a) :: entries
    else if name < k then (name, a) :: (k, b) :: entries
    else (k, b) :: putSorted name a entries

/-- The entries sorted by name, the last one of each name. -/
def sortEntries {α : Type} (entries : List (String × α)) : List (String × α) :=
  entries.foldl (fun sorted (name, a) => putSorted name a sorted) []

namespace Json

/-- The names and values of members whose names all have a text. -/
def namedMembers? (members : List (JsonText × Json)) : Option (List (String × Json)) :=
  members.mapM fun (name, j) => name.map (·, j)

/-- One level of settling; `inner` settles what a container holds, if it may hold anything. -/
def settleWith (inner : Option (Json → Option Json)) : Json → Option Json
  | .null => some .null
  | .bool b => some (.bool b)
  | .number n => if n.integer?.isSome || n.scaled?.isSome then some (.number n) else none
  | .string none => none
  | .string (some s) => some (.string (some s))
  | .array js => do
    let inner ← inner
    return .array (← js.mapM inner)
  | .object ms => do
    let inner ← inner
    let settled ← (← namedMembers? ms).mapM fun (name, j) => (inner j).map (name, ·)
    return .object ((sortEntries settled).map fun (name, j) => (some name, j))
  | .nameless _ => none

/-- The settled form of a tree of at most `depth` nested containers. -/
def settle : Nat → Json → Option Json
  | 0 => settleWith none
  | depth + 1 => settleWith (some (settle depth))

end Json

end FieldSearch
