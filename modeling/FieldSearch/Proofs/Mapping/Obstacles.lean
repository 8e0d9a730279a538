import FieldSearch.Proofs.Mapping.Nesting

/-!
# What stands in the way of a walk

A walk stops at the first thing that it cannot get past. Of an object these things are known before
it is walked: leaves whose path no field may have, scalars that no field value holds, keys that are
no path segment, and values that refuse to be written stop every walk, and a container stops those
whose limit it lies at. `Projection.obstacles` lists them in the order in which a walk comes by
them, without regard to a limit.

Main statements: `Projection.failure_walk`, a walk fails at the first obstacle that its limit does
not let it pass; `Projection.below_of_mem_obstacles`, which bounds the depth of the containers and
says which kinds the other failures do not have; `FieldMapper.project_error_cases`, what both say of
an object.
-/

namespace FieldSearch

namespace Projection

/-! ## Obstacles -/

/-- Something that may stop a walk. -/
inductive Obstacle where
  /-- A container, which stops a walk if its depth reaches the limit. -/
  | container (path : String) (depth : Nat)
  /-- What stops a walk under every limit. -/
  | refusal (e : Error)

namespace Obstacle

/-- The failure of a walk that cannot get past. -/
def error? (limit : Nat) : Obstacle → Option Error
  | container path depth => tooDeep limit path depth
  | refusal e => some e

/-- A container that lies less deep than `n`, or a failure that tells of no depth and comes from no
writer of trees. -/
def Below (n : Nat) : Obstacle → Prop
  | container _ depth => depth < n
  | refusal e => e.kind ≠ .unmappableType ∧ e.kind ≠ .json

lemma Below.mono {m n : Nat} {o : Obstacle} (h : o.Below m) (hle : m ≤ n) : o.Below n := by
  cases o with
  | container _ depth => exact Nat.lt_of_lt_of_le h hle
  | refusal e => exact h

end Obstacle

/-- The failure of a check that does not look at the limit, as an obstacle. -/
def refusals (check : Option Error) : List Obstacle := check.toList.map .refusal

/-- The failure of a leaf for its path. -/
def noField (path : String) : Option Error :=
  if path = "" then some .scalarRoot
  else if Path.hasEmptySegment path then some (.emptySegment path)
  else if isReserved path then some (.reservedPath path)
  else none

/-- The failure of a sequence for its path. -/
def noRoot (path : String) : Option Error := if path = "" then some .sequenceRoot else none

mutual

/-- What may stop a walk through a value at a path and depth, in order. -/
def obstacles (path : String) (depth : Nat) : Value → List Obstacle
  | .bool _ | .int _ | .single _ | .double _ | .char _ | .text _ | .unitVariant _ _ =>
    refusals (noField path)
  | .nat n =>
    match word? n.toNat with
    | some _ => refusals (noField path)
    | none =>
      [.refusal (.unsupportedLeaf s!"unsigned value {n.toNat} beyond i64" (Path.display path))]
  | .wide _ _ => [.refusal (.unsupportedLeaf "128-bit integer" (Path.display path))]
  | .bytes _ => [.refusal (.unsupportedLeaf "byte buffer" (Path.display path))]
  | .absent | .unit | .unitRecord _ => []
  | .present v | .wrapped _ v => obstacles path depth v
  | .sequence vs | .tuple vs | .tupleRecord _ vs =>
    refusals (noRoot path) ++ .container path depth :: obstaclesOfItems path (depth + 1) vs
  | .map entries => .container path depth :: obstaclesOfEntries path (depth + 1) entries
  | .keyless _ => [.container path depth, .refusal .valueWithoutKey]
  | .record _ fields => .container path depth :: obstaclesOfFields path (depth + 1) fields
  | .variant _ tag v => .container path depth :: obstacles (Path.join path tag) (depth + 1) v
  | .refusal reason => [.refusal (.refused reason)]

/-- What may stop a walk through elements. -/
def obstaclesOfItems (path : String) (depth : Nat) : List Value → List Obstacle
  | [] => []
  | v :: vs => obstacles path depth v ++ obstaclesOfItems path depth vs

/-- What may stop a walk through the entries of a map. -/
def obstaclesOfEntries (path : String) (depth : Nat) : List (Value × Value) → List Obstacle
  | [] => []
  | (k, v) :: entries =>
    match segment k with
    | .error e => [.refusal e]
    | .ok name => obstacles (Path.join path name) depth v ++ obstaclesOfEntries path depth entries

/-- What may stop a walk through the fields of a record. -/
def obstaclesOfFields (path : String) (depth : Nat) : List (String × Value) → List Obstacle
  | [] => []
  | (name, v) :: fields =>
    obstacles (Path.join path name) depth v ++ obstaclesOfFields path depth fields

end

/-! ## The first obstacle -/

/-- The failure at the first obstacle that a limit does not let a walk pass. -/
def firstError (limit : Nat) (os : List Obstacle) : Option Error := os.findSome? (·.error? limit)

section

variable {limit depth : Nat} {path : String} {p q : Projection} {check : Option Error}
  {o : Obstacle} {os : List Obstacle} {e : Error}

@[simp] lemma firstError_cons :
    firstError limit (o :: os) = (o.error? limit).or (firstError limit os) := by
  rw [firstError, List.findSome?_cons]
  cases o.error? limit <;> rfl

@[simp] lemma firstError_append (os' : List Obstacle) :
    firstError limit (os ++ os') = (firstError limit os).or (firstError limit os') :=
  List.findSome?_append

@[simp] lemma firstError_refusals : firstError limit (refusals check) = check := by
  cases check <;> rfl

@[simp] lemma failure_fail : (fail e).failure = some e := rfl

@[simp] lemma failure_followedBy : (p.followedBy q).failure = p.failure.or q.failure := by
  obtain ⟨ls, failure⟩ := p
  cases failure <;> rfl

@[simp] lemma failure_guarded : (guarded check p).failure = check.or p.failure := by
  cases check <;> rfl

lemma failure_leaf {marker : Option LeafKind} {kind : LeafKind} {value : FieldValue} :
    (leaf path marker kind value).failure = noField path := by
  simp only [leaf, noField, apply_ite failure, failure_fail]

lemma noSequence_eq :
    noSequence limit path depth = (noRoot path).or (tooDeep limit path depth) := by
  unfold noSequence noRoot
  split <;> rfl

end

mutual

/-- A walk fails at the first obstacle that its limit does not let it pass. -/
theorem failure_walk (limit : Nat) (path : String) (depth : Nat) (marker : Option LeafKind)
    (v : Value) :
    (walk limit path depth marker v).failure = firstError limit (obstacles path depth v) := by
  cases v with
  | bool _ | int _ | single _ | double _ | char _ | text _ | unitVariant _ _ =>
    simp only [walk, obstacles, failure_leaf, firstError_refusals]
  | nat n =>
    rw [walk, obstacles, unsignedLeaf]
    cases word? n.toNat with
    | some w => simp only [failure_leaf, firstError_refusals]
    | none => rfl
  | wide _ _ | bytes _ | absent | unit | unitRecord _ | refusal _ => rw [walk, obstacles]; rfl
  | present v | wrapped _ v =>
    rw [walk, obstacles]
    exact failure_walk limit path depth _ v
  | sequence vs | tuple vs | tupleRecord _ vs =>
    -- A sequence at the root is refused as such, however deep walks may go.
    rw [walk, obstacles, failure_guarded, failure_walkItems, noSequence_eq, Option.or_assoc,
      firstError_append, firstError_refusals, firstError_cons]
    rfl
  | map entries =>
    rw [walk, obstacles, failure_guarded, failure_walkEntries, firstError_cons]
    rfl
  | keyless v =>
    rw [walk, obstacles, failure_guarded, firstError_cons, firstError_cons]
    rfl
  | record _ fields =>
    rw [walk, obstacles, failure_guarded, failure_walkFields, firstError_cons]
    rfl
  | variant _ tag v =>
    rw [walk, obstacles, failure_guarded, failure_walk, firstError_cons]
    rfl

theorem failure_walkItems (limit : Nat) (path : String) (depth : Nat) (vs : List Value) :
    (walkItems limit path depth vs).failure =
      firstError limit (obstaclesOfItems path depth vs) := by
  cases vs with
  | nil => rw [walkItems, obstaclesOfItems]; rfl
  | cons v vs =>
    rw [walkItems, obstaclesOfItems, failure_followedBy, firstError_append, failure_walk,
      failure_walkItems]

theorem failure_walkEntries (limit : Nat) (path : String) (depth : Nat)
    (entries : List (Value × Value)) :
    (walkEntries limit path depth entries).failure =
      firstError limit (obstaclesOfEntries path depth entries) := by
  cases entries with
  | nil => rw [walkEntries, obstaclesOfEntries]; rfl
  | cons entry entries =>
    obtain ⟨k, v⟩ := entry
    rw [walkEntries, obstaclesOfEntries]
    cases segment k with
    | error e => rfl
    | ok name =>
      simp only [failure_followedBy, firstError_append]
      rw [failure_walk, failure_walkEntries]

theorem failure_walkFields (limit : Nat) (path : String) (depth : Nat)
    (fields : List (String × Value)) :
    (walkFields limit path depth fields).failure =
      firstError limit (obstaclesOfFields path depth fields) := by
  cases fields with
  | nil => rw [walkFields, obstaclesOfFields]; rfl
  | cons field fields =>
    obtain ⟨name, v⟩ := field
    rw [walkFields, obstaclesOfFields, failure_followedBy, firstError_append, failure_walk,
      failure_walkFields]

end

/-! ## How deep containers lie, and what the other failures are -/

section

variable {n depth : Nat} {path : String} {os os' : List Obstacle} {e : Error}

/-- A key is refused as a type that no segment is made of, or by what it holds. -/
lemma kind_of_segment : ∀ {k : Value}, segment k = .error e →
    e.kind = .unsupportedType ∨ e.kind = .serialization
  | .wide _ _, h | .single _, h | .double _, h | .bytes _, h | .absent, h | .unit, h
  | .unitRecord _, h | .tupleRecord _ _, h | .record _ _, h | .variant _ _ _, h | .sequence _, h
  | .tuple _, h | .map _, h | .keyless _, h | .refusal _, h => by
    rw [segment] at h
    obtain rfl := Except.error.inj h
    simp [Error.kind]
  | .present k, h | .wrapped _ k, h => by
    rw [segment] at h
    exact kind_of_segment h

lemma below_refusal (h : e.kind ≠ .unmappableType ∧ e.kind ≠ .json) :
    ∀ o ∈ [Obstacle.refusal e], o.Below n := by
  intro o ho
  rwa [List.mem_singleton.1 ho]

lemma below_noField : ∀ o ∈ refusals (noField path), o.Below n := by
  unfold noField
  by_cases hroot : path = ""
  · rw [if_pos hroot]
    exact below_refusal (by simp [Error.kind])
  · rw [if_neg hroot]
    split
    · exact below_refusal (by simp [Error.kind])
    · split
      · exact below_refusal (by simp [Error.kind])
      · exact fun o ho => absurd ho List.not_mem_nil

lemma below_noRoot : ∀ o ∈ refusals (noRoot path), o.Below n := by
  unfold noRoot
  by_cases hroot : path = ""
  · rw [if_pos hroot]
    exact below_refusal (by simp [Error.kind])
  · rw [if_neg hroot]
    exact fun o ho => absurd ho List.not_mem_nil

/-- The obstacles of one part and of the rest lie no deeper than the deeper part nests. -/
lemma below_append {a b : Nat} (h : ∀ o ∈ os, o.Below (depth + a))
    (h' : ∀ o ∈ os', o.Below (depth + b)) : ∀ o ∈ os ++ os', o.Below (depth + max a b) := by
  intro o ho
  rcases List.mem_append.1 ho with ho | ho
  · exact (h o ho).mono (by omega)
  · exact (h' o ho).mono (by omega)

/-- A container lies at its own depth and its parts lie below. -/
lemma below_container (h : ∀ o ∈ os, o.Below (depth + 1 + n)) :
    ∀ o ∈ Obstacle.container path depth :: os, o.Below (depth + (n + 1)) := by
  intro o ho
  rcases List.mem_cons.1 ho with rfl | ho
  · show depth < depth + (n + 1)
    omega
  · exact (h o ho).mono (by omega)

end

mutual

theorem below_of_mem_obstacles (path : String) (depth : Nat) (v : Value) :
    ∀ o ∈ obstacles path depth v, o.Below (depth + v.nest) := by
  cases v with
  | bool _ | int _ | single _ | double _ | char _ | text _ | unitVariant _ _ =>
    rw [obstacles]
    exact below_noField
  | nat n =>
    rw [obstacles]
    split
    · exact below_noField
    · exact below_refusal (by simp [Error.kind])
  | wide _ _ | bytes _ | refusal _ =>
    rw [obstacles]
    exact below_refusal (by simp [Error.kind])
  | absent | unit | unitRecord _ =>
    rw [obstacles]
    exact fun o ho => absurd ho List.not_mem_nil
  | present v | wrapped _ v =>
    rw [obstacles, Value.nest]
    exact below_of_mem_obstacles path depth v
  | sequence vs | tuple vs | tupleRecord _ vs =>
    rw [obstacles, Value.nest]
    intro o ho
    rcases List.mem_append.1 ho with ho | ho
    · exact below_noRoot o ho
    · exact below_container (below_of_mem_items path (depth + 1) vs) o ho
  | map entries =>
    rw [obstacles, Value.nest]
    exact below_container (below_of_mem_entries path (depth + 1) entries)
  | keyless v =>
    rw [obstacles, Value.nest]
    exact below_container (below_refusal (by simp [Error.kind]))
  | record _ fields =>
    rw [obstacles, Value.nest]
    exact below_container (below_of_mem_fields path (depth + 1) fields)
  | variant _ tag v =>
    rw [obstacles, Value.nest]
    exact below_container (below_of_mem_obstacles (Path.join path tag) (depth + 1) v)

theorem below_of_mem_items (path : String) (depth : Nat) (vs : List Value) :
    ∀ o ∈ obstaclesOfItems path depth vs, o.Below (depth + Value.nestItems vs) := by
  cases vs with
  | nil =>
    rw [obstaclesOfItems]
    exact fun o ho => absurd ho List.not_mem_nil
  | cons v vs =>
    rw [obstaclesOfItems, Value.nestItems]
    exact below_append (below_of_mem_obstacles path depth v) (below_of_mem_items path depth vs)

theorem below_of_mem_entries (path : String) (depth : Nat) (entries : List (Value × Value)) :
    ∀ o ∈ obstaclesOfEntries path depth entries, o.Below (depth + Value.nestEntries entries) := by
  cases entries with
  | nil =>
    rw [obstaclesOfEntries]
    exact fun o ho => absurd ho List.not_mem_nil
  | cons entry entries =>
    obtain ⟨k, v⟩ := entry
    rw [obstaclesOfEntries, Value.nestEntries]
    cases hk : segment k with
    | error e =>
      refine below_refusal ?_
      rcases kind_of_segment hk with h | h <;> rw [h] <;> simp
    | ok name =>
      exact below_append (below_of_mem_obstacles (Path.join path name) depth v)
        (below_of_mem_entries path depth entries)

theorem below_of_mem_fields (path : String) (depth : Nat) (fields : List (String × Value)) :
    ∀ o ∈ obstaclesOfFields path depth fields, o.Below (depth + Value.nestFields fields) := by
  cases fields with
  | nil =>
    rw [obstaclesOfFields]
    exact fun o ho => absurd ho List.not_mem_nil
  | cons field fields =>
    obtain ⟨name, v⟩ := field
    rw [obstaclesOfFields, Value.nestFields]
    exact below_append (below_of_mem_obstacles (Path.join path name) depth v)
      (below_of_mem_fields path depth fields)

end

/-! ## The obstacle that ends a walk -/

variable {limit : Nat} {os : List Obstacle} {e : Error}

lemma tooDeep_eq_some_iff {path : String} {depth : Nat} :
    tooDeep limit path depth = some e ↔
      limit ≤ depth ∧ e = .nestedTooDeep (Path.display path) limit := by
  unfold tooDeep
  by_cases h : limit ≤ depth
  · simp [h, eq_comm]
  · simp [h]

/-- The first error comes from a container at the limit, or from a refusal that only containers
above the limit precede. -/
lemma firstError_cases (h : firstError limit os = some e) :
    (∃ path depth, .container path depth ∈ os ∧ limit ≤ depth ∧
      e = .nestedTooDeep (Path.display path) limit) ∨
    ∃ before after, os = before ++ .refusal e :: after ∧
      ∀ path depth, .container path depth ∈ before → depth < limit := by
  obtain ⟨before, o, after, rfl, ho, hbefore⟩ := List.findSome?_eq_some_iff.1 h
  cases o with
  | container path depth =>
    obtain ⟨hle, he⟩ := tooDeep_eq_some_iff.1 ho
    exact .inl ⟨path, depth, by simp, hle, he⟩
  | refusal e' =>
    obtain rfl := Option.some.inj ho
    refine .inr ⟨before, after, rfl, fun path depth hmem => ?_⟩
    exact succ_le_of_tooDeep (hbefore _ hmem)

end Projection

/-! ## Whole objects -/

/-- An object is refused for what it holds, and that comes before every container at the limit or
below. -/
def Value.RefusedWithin (limit : Nat) (v : Value) (e : Error) : Prop :=
  ∃ before after, Projection.obstacles "" 0 v = before ++ .refusal e :: after ∧
    ∀ path depth, .container path depth ∈ before → depth < limit

namespace FieldMapper

variable {m : FieldMapper} {v : Value} {e : Error}

lemma project_eq_error_iff : m.project v = .error e ↔
    Projection.firstError m.config.maxDepth (Projection.obstacles "" 0 v) = some e := by
  rw [← Projection.failure_walk m.config.maxDepth "" 0 none v]
  show (Projection.toExcept (Projection.ofValue m.config.maxDepth v)).map _ = _ ↔
    (Projection.ofValue m.config.maxDepth v).failure = some e
  obtain ⟨ls, failure⟩ := Projection.ofValue m.config.maxDepth v
  cases failure <;> simp [Projection.toExcept, Except.map]

/-- An object that fails tells of its depth, and nests too much, or is refused for something that
its walk comes by before it gets too deep. -/
lemma project_error_cases (h : m.project v = .error e) :
    (m.config.maxDepth < v.nest ∧ ∃ path, e = .nestedTooDeep path m.config.maxDepth) ∨
      ((e.kind ≠ .unmappableType ∧ e.kind ≠ .json) ∧ v.RefusedWithin m.config.maxDepth e) := by
  have hbelow := Projection.below_of_mem_obstacles "" 0 v
  rcases Projection.firstError_cases (project_eq_error_iff.1 h) with
    ⟨path, depth, hmem, hle, rfl⟩ | ⟨before, after, hsplit, hbefore⟩
  · have hdepth : depth < 0 + v.nest := hbelow _ hmem
    exact .inl ⟨by omega, _, rfl⟩
  · have hkind : Projection.Obstacle.Below (0 + v.nest) (.refusal e) := by
      apply hbelow
      rw [hsplit]
      simp
    exact .inr ⟨hkind, before, after, hsplit, hbefore⟩

/-- No failure of an object comes from the writer of its tree. -/
lemma kind_ne_json_of_project (h : m.project v = .error e) : e.kind ≠ .json := by
  rcases project_error_cases h with ⟨-, path, rfl⟩ | ⟨⟨-, hkind⟩, -⟩
  · simp [Error.kind]
  · exact hkind

end FieldMapper

end FieldSearch
