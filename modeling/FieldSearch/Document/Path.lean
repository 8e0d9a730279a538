/-!
# Dotted paths

A path is the names from the root of an object to a leaf, with dots between them. The root has
the empty path, and a name below it stands alone.
-/

namespace FieldSearch

namespace Path

/-- The path of a member. -/
def join (path name : String) : String := if path = "" then name else path ++ "." ++ name

/-- The path of a list of names. -/
def ofNames (names : List String) : String := ".".intercalate names

theorem ofNames_eq_empty_iff {names : List String} (h : "" ∉ names) :
    ofNames names = "" ↔ names = [] := by
  cases names with
  | nil => simp [ofNames]
  | cons name names =>
    have hname : name ≠ "" := by
      rintro rfl
      simp at h
    cases names with
    | nil => simpa [ofNames] using hname
    | cons next names => simp [ofNames, String.intercalate_cons_of_ne_nil, hname]

/-- Joining extends the list of names, as long as none of them is empty: an empty outermost name
vanishes. -/
theorem join_ofNames {names : List String} (h : "" ∉ names) (name : String) :
    join (ofNames names) name = ofNames (names ++ [name]) := by
  rw [join]
  split
  next hroot =>
    rw [(ofNames_eq_empty_iff h).1 hroot]
    simp [ofNames]
  next hroot =>
    have hnames : names ≠ [] := fun hnil => hroot ((ofNames_eq_empty_iff h).2 hnil)
    rw [ofNames, ofNames, String.intercalate_append_of_ne_nil hnames (by simp),
      String.intercalate_singleton]

/-- The parts of a text between dots; there is always one. -/
def split : List Char → List (List Char)
  | [] => [[]]
  | '.' :: cs => [] :: split cs
  | c :: cs =>
    match split cs with
    | [] => [[c]]
    | part :: parts => (c :: part) :: parts

/-- Whether one of the segments of a path is empty. -/
def hasEmptySegment (path : String) : Bool := (split path.toList).any List.isEmpty

/-- A path for messages. -/
def display (path : String) : String := if path = "" then "<root>" else path

end Path

end FieldSearch
