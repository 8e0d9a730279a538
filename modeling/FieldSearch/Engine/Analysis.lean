import FieldSearch.Text.Case
import FieldSearch.Text.Words

/-!
# Analysis of text

The terms of a text are its words in lower case.
-/

namespace FieldSearch

/-- The terms of a text, in order. -/
def analyze (s : String) : List String :=
  (words s.toList).map fun w => String.ofList (lowerCase w)

end FieldSearch
