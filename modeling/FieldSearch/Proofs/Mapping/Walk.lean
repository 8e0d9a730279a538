import FieldSearch.Mapping.Mapper
import Mathlib.Tactic.Lemma

/-!
# Walks that do not fail

What is known of the parts of a walk once the whole of it has found its leaves. A walk that finds
the leaves `ls` is the projection `⟨ls, none⟩`; every lemma reads that equation backwards through
one way of building walks.

`Value.Everywhere` says a property of every value that a walk can come by. The keys of a map are
not among them, since a walk makes path segments of them.
-/

namespace FieldSearch

/-! ## Parts of a value -/

namespace Value

/-- The values directly inside a value. -/
def children : Value → List Value
  | present v | wrapped _ v | keyless v | variant _ _ v => [v]
  | sequence vs | tuple vs | tupleRecord _ vs => vs
  | map entries => entries.map (·.2)
  | record _ fields => fields.map (·.2)
  | _ => []

/-- The names that a value gives to the values directly inside it. -/
def memberNames : Value → List String
  | map entries => entries.filterMap (·.1.keyText?)
  | record _ fields => fields.map (·.1)
  | variant _ tag _ => [tag]
  | _ => []

/-- Whether a value is a float. -/
def isFloat : Value → Bool
  | single _ | double _ => true
  | _ => false

/-- A property holds of a value and of all values inside it. -/
inductive Everywhere (P : Value → Prop) : Value → Prop
  | intro {v : Value} (self : P v) (inside : ∀ u ∈ v.children, Everywhere P u) : Everywhere P v

variable {P : Value → Prop} {v : Value}

lemma Everywhere.self (h : v.Everywhere P) : P v := by
  cases h with
  | intro self _ => exact self

lemma Everywhere.inside (h : v.Everywhere P) : ∀ u ∈ v.children, u.Everywhere P := by
  cases h with
  | intro _ inside => exact inside

end Value

namespace Projection

variable {p q : Projection} {ls : List Leaf}

/-! ## Ways of building walks -/

lemma fail_ne_found {e : Error} : fail e ≠ ⟨ls, none⟩ := by
  rintro ⟨⟩

lemma nothing_eq_found : nothing = ⟨ls, none⟩ ↔ ls = [] := by
  constructor
  · rintro ⟨⟩
    rfl
  · rintro rfl
    rfl

lemma followedBy_eq_found :
    p.followedBy q = ⟨ls, none⟩ ↔
      ∃ as bs, p = ⟨as, none⟩ ∧ q = ⟨bs, none⟩ ∧ ls = as ++ bs := by
  obtain ⟨as, failure⟩ := p
  obtain ⟨bs, failure'⟩ := q
  cases failure with
  | some e => simp [followedBy]
  | none =>
    simp only [followedBy, mk.injEq, and_true]
    constructor
    · rintro ⟨rfl, rfl⟩
      exact ⟨as, bs, rfl, ⟨rfl, rfl⟩, rfl⟩
    · rintro ⟨as', bs', rfl, ⟨rfl, rfl⟩, rfl⟩
      exact ⟨rfl, rfl⟩

lemma guarded_eq_found {check : Option Error} :
    guarded check p = ⟨ls, none⟩ ↔ check = none ∧ p = ⟨ls, none⟩ := by
  cases check with
  | none => simp [guarded]
  | some e => simp [guarded, fail]

/-- A leaf that is found has a path that is good for a field. -/
lemma leaf_eq_found {path : String} {marker : Option LeafKind} {kind : LeafKind}
    {value : FieldValue} (h : leaf path marker kind value = ⟨ls, none⟩) :
    path ≠ "" ∧ Path.hasEmptySegment path = false ∧ isReserved path = false ∧
      ∃ kind', ls = [⟨path, kind', value⟩] := by
  simp only [leaf] at h
  split at h
  · cases h
  next hroot =>
    split at h
    · cases h
    next hsegments =>
      split at h
      · cases h
      next hreserved =>
        obtain ⟨rfl, -⟩ := mk.inj h
        exact ⟨hroot, Bool.not_eq_true _ ▸ hsegments, Bool.not_eq_true _ ▸ hreserved, _, rfl⟩

lemma unsignedLeaf_eq_found {path : String} {marker : Option LeafKind} {n : UInt64} :
    unsignedLeaf path marker n = ⟨ls, none⟩ ↔
      ∃ w, word? n.toNat = some w ∧ leaf path marker .integer (.long w) = ⟨ls, none⟩ := by
  unfold unsignedLeaf
  cases word? n.toNat with
  | none => simp [fail]
  | some w => simp

lemma toExcept_eq_ok : p.toExcept = .ok ls ↔ p = ⟨ls, none⟩ := by
  obtain ⟨as, failure⟩ := p
  cases failure <;> simp [toExcept]

/-! ## Keys -/

/-- A key that is accepted in a path has the text of that segment as a member name. -/
lemma keyText?_of_segment {name : String} :
    ∀ {k : Value}, segment k = .ok name → k.keyText? = some name
  | .bool _, h | .int _, h | .nat _, h | .char _, h | .text _, h | .unitVariant .., h => by
    obtain rfl := Except.ok.inj h
    rfl
  | .present k, h | .wrapped _ k, h => by
    simp only [Value.keyText?]
    exact keyText?_of_segment h

end Projection

/-! ## Whole objects -/

lemma FieldMapper.project_eq_ok {m : FieldMapper} {v : Value} {d : Document} :
    m.project v = .ok d ↔
      ∃ ls, Projection.ofValue m.config.maxDepth v = ⟨ls, none⟩ ∧
        d.fields = ls.map m.conventions.field := by
  obtain ⟨fields⟩ := d
  rw [FieldMapper.project]
  constructor
  · intro h
    cases hleaves : (Projection.ofValue m.config.maxDepth v).toExcept with
    | error e =>
      rw [hleaves] at h
      cases h
    | ok ls =>
      rw [hleaves] at h
      exact ⟨ls, Projection.toExcept_eq_ok.1 hleaves, (Document.mk.inj (Except.ok.inj h)).symm⟩
  · rintro ⟨ls, hwalk, rfl⟩
    rw [Projection.toExcept_eq_ok.2 hwalk]
    rfl

end FieldSearch
