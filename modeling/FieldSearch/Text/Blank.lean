import FieldSearch.Text.CodeSet

/-!
# Blank characters

The characters with the White_Space property.
-/

namespace FieldSearch

/-- White space. -/
def blankSet : CodeSet where
  bounds := #[
    9, 14, 32, 33, 133, 134, 160, 161, 5760, 5761, 8192, 8203, 8232, 8234, 8239, 8240, 8287, 8288,
    12288, 12289]

/-- Whether a character is white space. -/
def isBlank (c : Char) : Bool := blankSet.contains c

end FieldSearch
