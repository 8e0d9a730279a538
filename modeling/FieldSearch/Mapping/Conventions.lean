import FieldSearch.Mapping.Leaf

/-!
# Conventions

Conventions say for each leaf whether it is split into words and whether it is stored as it is.
Only text can be split, so the first question is asked of text leaves alone.
-/

namespace FieldSearch

/-- Decisions by path and kind of a leaf. -/
structure FieldConventions where
  /-- Which text leaves are split into words. -/
  analyze : String → LeafKind → Bool := fun _ kind => kind = .string
  /-- Which leaves are stored as they are. -/
  store : String → LeafKind → Bool := fun _ _ => false

namespace FieldConventions

/-- Whether a leaf is split into words. -/
def shouldAnalyze (c : FieldConventions) (path : String) (kind : LeafKind) : Bool :=
  kind = .string && c.analyze path kind

/-- Whether a leaf is stored as it is. -/
def shouldStore (c : FieldConventions) (path : String) (kind : LeafKind) : Bool :=
  c.store path kind

/-- The options of a leaf's field. -/
def optionFor (c : FieldConventions) (path : String) (kind : LeafKind) : FieldOption :=
  (FieldOption.exact.withAnalyzed (c.shouldAnalyze path kind)).withStored
    (c.shouldStore path kind)

/-- A question that conventions answer about a leaf. -/
inductive Question where
  | analyze
  | store
deriving DecidableEq, Repr

/-- The name of a question. -/
def Question.name : Question → String
  | analyze => "analyze"
  | store => "store"

/-- The questions asked for the options of one leaf, in order. -/
def questions (kind : LeafKind) : List Question :=
  if kind = .string then [.analyze, .store] else [.store]

/-- The text of conventions for inspection, which does not show the decisions. -/
def inspect (_ : FieldConventions) : String := "FieldConventions \x7b .. \x7d"

/-- The field of a leaf. -/
def field (c : FieldConventions) (l : Leaf) : Field :=
  ⟨l.path, l.value, c.optionFor l.path l.kind⟩

end FieldConventions

end FieldSearch
