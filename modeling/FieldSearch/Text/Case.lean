import FieldSearch.Text.CaseMap
import FieldSearch.Text.Cased

/-!
# Lower and upper case of text

Full case mapping, in which one character may become several. The one mapping that looks around
is the lower case of a capital sigma: it has its final form where a cased character precedes it
and none follows, case-ignorable characters passed over on both sides.
-/

namespace FieldSearch

/-- The mapping of one character by a table of runs and a table of expansions. -/
def mapCase (runs : Array CaseRun) (expansions : Array (Nat × List Nat)) (c : Char) :
    List Char :=
  match runs.find? (·.holds c.toNat) with
  | some r => [Char.ofNat (c.toNat + r.shift).toNat]
  | none =>
    match expansions.find? (·.1 = c.toNat) with
    | some (_, cs) => cs.map Char.ofNat
    | none => [c]

/-- The upper case of a text. -/
def upperCase (s : List Char) : List Char := s.flatMap (mapCase upperRuns upperExpansions)

/-- Whether the first character that is not case-ignorable has case. -/
def startsCased (s : List Char) : Bool :=
  match s.dropWhile isCaseIgnorable with
  | [] => false
  | c :: _ => isCased c

/-- The lower case of a text, given what precedes it in reverse. -/
def lowerCaseAfter (before : List Char) : List Char → List Char
  | [] => []
  | c :: cs =>
    (if c = 'Σ' then [if startsCased before && !startsCased cs then 'ς' else 'σ']
     else mapCase lowerRuns lowerExpansions c) ++ lowerCaseAfter (c :: before) cs

/-- The lower case of a text. -/
def lowerCase (s : List Char) : List Char := lowerCaseAfter [] s

end FieldSearch
