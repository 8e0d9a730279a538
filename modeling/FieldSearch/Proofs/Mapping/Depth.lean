import FieldSearch.Proofs.Mapping.Obstacles
import FieldSearch.Proofs.Mapping.Payload
import FieldSearch.Proofs.Mapping.Trees

/-!
# The limit of nesting is exact

The depth of an object is counted three times: by the walk, which goes one deeper with every
container and compares with its limit; by `Value.nest`, which adds up the containers of the object
from the inside; and by `Json.nest`, which does so with the tree that is written of it. They agree
(`Projection.exists_nests_walk`).
An object that nests more containers than the limit is refused, and one that is refused for its
depth nests more.

An object may be refused for something else before its walk gets too deep, and then that is what is
said of it (`Value.RefusedWithin`).

Main statement: `FieldMapper.nest_limit_exact`.
-/

namespace FieldSearch

/-- A payload is one container around the tree of its object. -/
lemma Json.nest_payloadTree {actual : TypeIdentity} {j : Json} :
    (Envelope.payloadTree actual j).nest = j.nest + 1 := by
  show max 0 (max j.nest 0) + 1 = j.nest + 1
  omega

namespace FieldMapper

variable {m : FieldMapper} {v : Value} {d : Document}

/-- The payload of an object that is projected can be parsed, and nests one container more than
the object. -/
lemma exists_nest_payload (h : m.project v = .ok d) (actual : TypeIdentity) :
    ∃ text tree, Envelope.payload? actual v = some text ∧ Json.parse text = some tree ∧
      tree.nest = v.nest + 1 := by
  obtain ⟨ls, hwalk, -⟩ := project_eq_ok.1 h
  obtain ⟨j, hj, hnests⟩ := Projection.exists_nests_walk hwalk
  have hlegible : (Envelope.payloadTree actual j).Legible := ⟨trivial, hnests.legible, trivial⟩
  refine ⟨(Envelope.payloadTree actual j).text, Envelope.payloadTree actual j, ?_,
    Json.parse_text hlegible, by rw [Json.nest_payloadTree, hnests.nest_eq]⟩
  rw [Envelope.payload?, hj]
  rfl

/-- **The limit of nesting is exact.** A projection fails at the first obstacle that the limit does
not let it pass. If the failure tells of depth, the object nests more containers than the limit
allows, and otherwise it is one that the walk comes by before it gets too deep. An object that nests
more is always refused, so no payload nests more containers than the limit and the one that the
payload itself is. -/
theorem nest_limit_exact (m : FieldMapper) (v : Value) :
    (∀ e, m.project v = .error e ↔
      Projection.firstError m.config.maxDepth (Projection.obstacles "" 0 v) = some e) ∧
    (∀ e, m.project v = .error e →
      (e.kind = .unmappableType ∧ m.config.maxDepth < v.nest) ∨
        (e.kind ≠ .unmappableType ∧ v.RefusedWithin m.config.maxDepth e)) ∧
    (m.config.maxDepth < v.nest → ∃ e, m.project v = .error e) ∧
    ∀ d, m.project v = .ok d → ∀ actual, ∃ text tree, Envelope.payload? actual v = some text ∧
      Json.parse text = some tree ∧ tree.nest = v.nest + 1 ∧
      tree.nest ≤ m.config.maxDepth + 1 := by
  refine ⟨fun e => project_eq_error_iff, ?_, ?_, ?_⟩
  · intro e h
    rcases project_error_cases h with ⟨hnest, path, rfl⟩ | ⟨⟨hkind, -⟩, hwithin⟩
    · exact .inl ⟨rfl, hnest⟩
    · exact .inr ⟨hkind, hwithin⟩
  · intro hdeep
    cases hproject : m.project v with
    | error e => exact ⟨e, rfl⟩
    | ok d =>
      have := nest_le_of_project hproject
      omega
  · intro d h actual
    obtain ⟨text, tree, htext, hparse, hnest⟩ := exists_nest_payload h actual
    have := nest_le_of_project h
    exact ⟨text, tree, htext, hparse, hnest, by omega⟩

/-- A record around a variant of two values nests three containers: it is refused under a limit of
two and written under a limit of three, where its payload nests four. -/
theorem nest_limit_exact_pair :
    let v : Value :=
      .record "Shape" [("a", .variant "Kind" "Pair" (.tupleRecord "Pair" [.int 1, .int 2]))]
    let two : FieldMapper := { config := { maxDepth := 2 } }
    let three : FieldMapper := { config := { maxDepth := 3 } }
    (two.config.maxDepth < v.nest ∧ ∃ e, two.project v = .error e) ∧
      (two.project v = .error (.nestedTooDeep "a.Pair" 2) ∧ two.config.maxDepth < v.nest) ∧
      ∃ d, three.project v = .ok d ∧ ∃ text tree, Envelope.payload? ⟨"Shape"⟩ v = some text ∧
        Json.parse text = some tree ∧ tree.nest = 3 + 1 := by
  intro v two three
  have hdeep : two.project v = .error (.nestedTooDeep "a.Pair" 2) := rfl
  have hfails := (nest_limit_exact two v).2.2.1 (by decide)
  have hnest := ((nest_limit_exact two v).2.1 _ hdeep).resolve_right fun h => h.1 rfl
  obtain ⟨text, tree, htext, hparse, htree, -⟩ := (nest_limit_exact three v).2.2.2 _ rfl ⟨"Shape"⟩
  exact ⟨⟨hnest.2, hfails⟩, ⟨hdeep, hnest.2⟩, _, rfl, text, tree, htext, hparse, htree⟩

end FieldMapper

end FieldSearch
