import FieldSearch.Engine.Rank

/-!
# Collectors

Collectors take matching documents one by one and keep the best of them, no more than a limit.
-/

namespace FieldSearch

/-- Keeps the first documents it sees. -/
structure FirstCollector where
  limit : Nat
  hits : List Nat := []
  total : Nat := 0
deriving Repr

namespace FirstCollector

/-- Takes one document. -/
def collect (c : FirstCollector) (address : Nat) : FirstCollector :=
  { c with
    total := c.total + 1
    hits := if c.hits.length < c.limit then c.hits ++ [address] else c.hits }

end FirstCollector

/-- Keeps the documents of the best ranks, in order. -/
structure BestCollector where
  limit : Nat
  keys : List SortKey
  hits : List Ranked := []
  total : Nat := 0
deriving Repr

namespace BestCollector

/-- Puts a rank behind the ones that are not worse. -/
def insert (a : Ranked) : List Ranked → List Ranked
  | [] => [a]
  | b :: bs => if a.order b = .lt then a :: b :: bs else b :: insert a bs

/-- The kept ranks with one more: all of them below the limit, else the worst one gives way to a
better one. -/
def keep (limit : Nat) (a : Ranked) (hits : List Ranked) : List Ranked :=
  if hits.length < limit then insert a hits
  else
    match hits.getLast? with
    | none => hits
    | some worst => if a.order worst = .lt then insert a hits.dropLast else hits

/-- Takes one document. -/
def collect (c : BestCollector) (address : Nat) (d : Document) : BestCollector :=
  { c with
    total := c.total + 1
    hits := keep c.limit (.ofDocument c.keys address d) c.hits }

/-- The addresses of the kept documents, the best first. -/
def addresses (c : BestCollector) : List Nat := c.hits.map (·.address)

end BestCollector

end FieldSearch
