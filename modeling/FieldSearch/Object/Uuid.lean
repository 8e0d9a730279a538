/-!
# UUIDs

A UUID is kept as its text of 32 lower-case hexadecimal digits in five groups. It is read from
that text plain, in braces or behind `urn:uuid:`, and from 32 digits without hyphens. Letters may
be of either case in all of these forms.
-/

namespace FieldSearch

namespace Uuid

/-- Whether a character is a hexadecimal digit. -/
def isHex (c : Char) : Bool :=
  c.isDigit || ('a' ≤ c && c ≤ 'f') || ('A' ≤ c && c ≤ 'F')

/-- 32 digits in groups of 8, 4, 4, 4 and 12. -/
def grouped (ds : List Char) : List Char :=
  ds.take 8 ++ '-' :: (ds.drop 8).take 4 ++ '-' :: (ds.drop 12).take 4
    ++ '-' :: (ds.drop 16).take 4 ++ '-' :: ds.drop 20

/-- The digits of a text in groups. -/
def ungroup? (s : List Char) : Option (List Char) :=
  let ds := s.take 8 ++ (s.drop 9).take 4 ++ (s.drop 14).take 4 ++ (s.drop 19).take 4 ++ s.drop 24
  if s.length = 36 ∧ s = grouped ds then some ds else none

/-- The digits of a UUID in one of its written forms. -/
def digits? (s : List Char) : Option (List Char) :=
  let plain : Option (List Char) :=
    if s.length = 32 then some s
    else if s.length = 38 ∧ s.head? = some '\x7b' ∧ s.getLast? = some '\x7d' then
      ungroup? ((s.drop 1).take 36)
    else if s.length = 45 ∧ (s.take 9).map Char.toLower = "urn:uuid:".toList then
      ungroup? (s.drop 9)
    else ungroup? s
  plain.filter (·.all isHex)

/-- The text of the UUID that a text names. -/
def read? (s : String) : Option String :=
  (digits? s.toList).map fun ds => String.ofList (grouped (ds.map Char.toLower))

end Uuid

end FieldSearch
