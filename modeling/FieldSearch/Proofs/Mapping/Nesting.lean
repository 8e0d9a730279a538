import FieldSearch.Proofs.Mapping.Walk

/-!
# What a walk that succeeds has seen

A walk goes one container deeper at a time and checks the limit each time, so an object that is
walked to the end nests no more containers than the limit allows (`Value.nest`), empty ones
included. Every leaf it finds was checked for its path, so no leaf has a path without a name, with
an empty segment, or of the envelope (`Path.IsFieldPath`), whatever the object holds.

Main statement: `Projection.walk_found`, with `FieldMapper.isFieldPath_of_project` and
`FieldMapper.nest_le_of_project` for whole objects.
-/

namespace FieldSearch

/-! ## Containers inside a value -/

namespace Value

mutual

/-- The number of containers that are nested in a value. A variant with content is one. -/
def nest : Value → Nat
  | present v | wrapped _ v => v.nest
  | sequence vs | tuple vs | tupleRecord _ vs => nestItems vs + 1
  | map entries => nestEntries entries + 1
  | record _ fields => nestFields fields + 1
  | keyless v | variant _ _ v => v.nest + 1
  | _ => 0

/-- The deepest nesting of several values. -/
def nestItems : List Value → Nat
  | [] => 0
  | v :: vs => max v.nest (nestItems vs)

/-- The deepest nesting of the values of a map. -/
def nestEntries : List (Value × Value) → Nat
  | [] => 0
  | (_, v) :: entries => max v.nest (nestEntries entries)

/-- The deepest nesting of the values of a record. -/
def nestFields : List (String × Value) → Nat
  | [] => 0
  | (_, v) :: fields => max v.nest (nestFields fields)

end

end Value

/-- A path that the field of an object may have. -/
def Path.IsFieldPath (path : String) : Prop :=
  path ≠ "" ∧ Path.hasEmptySegment path = false ∧ isReserved path = false

/-! ## The walk -/

namespace Projection

/-- A walk went no deeper than the limit, and its leaves have paths of fields. -/
abbrev Found (limit depth nest : Nat) (ls : List Leaf) : Prop :=
  depth + nest ≤ limit ∧ ∀ l ∈ ls, Path.IsFieldPath l.path

section

variable {limit depth : Nat} {path : String} {ls : List Leaf}

lemma found_leaf {marker : Option LeafKind} {kind : LeafKind} {value : FieldValue}
    (hdepth : depth ≤ limit) (h : leaf path marker kind value = ⟨ls, none⟩) :
    Found limit depth 0 ls := by
  obtain ⟨hroot, hsegments, hreserved, kind', rfl⟩ := leaf_eq_found h
  refine ⟨hdepth, fun l hl => ?_⟩
  rw [List.mem_singleton.1 hl]
  exact ⟨hroot, hsegments, hreserved⟩

lemma found_nothing (hdepth : depth ≤ limit) (h : nothing = ⟨ls, none⟩) :
    Found limit depth 0 ls := by
  obtain rfl := nothing_eq_found.1 h
  exact ⟨hdepth, fun l hl => absurd hl List.not_mem_nil⟩

/-- One walk after another one goes as deep as the deeper one. -/
lemma Found.append {m n : Nat} {as bs : List Leaf} (ha : Found limit depth m as)
    (hb : Found limit depth n bs) : Found limit depth (max m n) (as ++ bs) := by
  obtain ⟨hadepth, hapaths⟩ := ha
  obtain ⟨hbdepth, hbpaths⟩ := hb
  refine ⟨by omega, fun l hl => ?_⟩
  rcases List.mem_append.1 hl with hl | hl
  · exact hapaths l hl
  · exact hbpaths l hl

lemma Found.enter {n : Nat} (h : Found limit (depth + 1) n ls) : Found limit depth (n + 1) ls :=
  ⟨by have := h.1; omega, h.2⟩

lemma succ_le_of_tooDeep (h : tooDeep limit path depth = none) : depth + 1 ≤ limit := by
  unfold tooDeep at h
  by_cases hle : limit ≤ depth
  · rw [if_pos hle] at h
    cases h
  · exact Nat.lt_of_not_le hle

lemma succ_le_of_noSequence (h : noSequence limit path depth = none) : depth + 1 ≤ limit := by
  unfold noSequence at h
  split at h
  · cases h
  · exact succ_le_of_tooDeep h

end

mutual

theorem walk_found {limit depth : Nat} {path : String} {marker : Option LeafKind}
    {ls : List Leaf} {v : Value} (hdepth : depth ≤ limit)
    (h : walk limit path depth marker v = ⟨ls, none⟩) : Found limit depth v.nest ls := by
  cases v with
  | bool b | int n | single x | double x | char c | text s | unitVariant _ tag =>
    simp only [walk] at h
    exact found_leaf hdepth h
  | nat n =>
    simp only [walk] at h
    obtain ⟨w, -, hleaf⟩ := unsignedLeaf_eq_found.1 h
    exact found_leaf hdepth hleaf
  | wide _ _ | bytes _ | refusal _ =>
    simp only [walk] at h
    exact absurd h fail_ne_found
  | absent | unit | unitRecord _ =>
    simp only [walk] at h
    exact found_nothing hdepth h
  | present v | wrapped _ v =>
    simp only [walk] at h
    have hwalk := walk_found hdepth h
    simpa only [Value.nest] using hwalk
  | sequence vs | tuple vs | tupleRecord _ vs =>
    simp only [walk] at h
    obtain ⟨hcheck, hitems⟩ := guarded_eq_found.1 h
    have hwalk := walkItems_found (succ_le_of_noSequence hcheck) hitems
    simpa only [Value.nest] using hwalk.enter
  | map entries =>
    simp only [walk] at h
    obtain ⟨hcheck, hentries⟩ := guarded_eq_found.1 h
    have hwalk := walkEntries_found (succ_le_of_tooDeep hcheck) hentries
    simpa only [Value.nest] using hwalk.enter
  | keyless v =>
    simp only [walk] at h
    exact absurd (guarded_eq_found.1 h).2 fail_ne_found
  | record _ fields =>
    simp only [walk] at h
    obtain ⟨hcheck, hfields⟩ := guarded_eq_found.1 h
    have hwalk := walkFields_found (succ_le_of_tooDeep hcheck) hfields
    simpa only [Value.nest] using hwalk.enter
  | variant _ tag v =>
    simp only [walk] at h
    obtain ⟨hcheck, hcontent⟩ := guarded_eq_found.1 h
    have hwalk := walk_found (succ_le_of_tooDeep hcheck) hcontent
    simpa only [Value.nest] using hwalk.enter

theorem walkItems_found {limit depth : Nat} {path : String} {ls : List Leaf}
    {vs : List Value} (hdepth : depth ≤ limit)
    (h : walkItems limit path depth vs = ⟨ls, none⟩) :
    Found limit depth (Value.nestItems vs) ls := by
  cases vs with
  | nil =>
    simp only [walkItems] at h
    exact found_nothing hdepth h
  | cons v vs =>
    simp only [walkItems] at h
    obtain ⟨as, bs, has, hbs, rfl⟩ := followedBy_eq_found.1 h
    exact (walk_found hdepth has).append (walkItems_found hdepth hbs)

theorem walkEntries_found {limit depth : Nat} {path : String} {ls : List Leaf}
    {entries : List (Value × Value)} (hdepth : depth ≤ limit)
    (h : walkEntries limit path depth entries = ⟨ls, none⟩) :
    Found limit depth (Value.nestEntries entries) ls := by
  cases entries with
  | nil =>
    simp only [walkEntries] at h
    exact found_nothing hdepth h
  | cons entry entries =>
    obtain ⟨k, v⟩ := entry
    simp only [walkEntries] at h
    split at h
    next => exact absurd h fail_ne_found
    next name _ =>
      obtain ⟨as, bs, has, hbs, rfl⟩ := followedBy_eq_found.1 h
      exact (walk_found hdepth has).append (walkEntries_found hdepth hbs)

theorem walkFields_found {limit depth : Nat} {path : String} {ls : List Leaf}
    {fields : List (String × Value)} (hdepth : depth ≤ limit)
    (h : walkFields limit path depth fields = ⟨ls, none⟩) :
    Found limit depth (Value.nestFields fields) ls := by
  cases fields with
  | nil =>
    simp only [walkFields] at h
    exact found_nothing hdepth h
  | cons field fields =>
    obtain ⟨name, v⟩ := field
    simp only [walkFields] at h
    obtain ⟨as, bs, has, hbs, rfl⟩ := followedBy_eq_found.1 h
    exact (walk_found hdepth has).append (walkFields_found hdepth hbs)

end

end Projection

/-! ## Whole objects -/

namespace FieldMapper

variable {m : FieldMapper} {v : Value} {d : Document}

/-- An object that is projected nests no more containers than the mapper allows. -/
lemma nest_le_of_project (h : m.project v = .ok d) : v.nest ≤ m.config.maxDepth := by
  obtain ⟨ls, hwalk, -⟩ := project_eq_ok.1 h
  have hfound := Projection.walk_found (Nat.zero_le _) hwalk
  have hnest := hfound.1
  omega

/-- The names of projected fields are those of no envelope field, and have no empty segment. -/
lemma isFieldPath_of_project (h : m.project v = .ok d) :
    ∀ f ∈ d.fields, Path.IsFieldPath f.name := by
  obtain ⟨ls, hwalk, hfields⟩ := project_eq_ok.1 h
  have hfound := Projection.walk_found (Nat.zero_le _) hwalk
  rw [hfields]
  intro f hf
  obtain ⟨l, hl, rfl⟩ := List.mem_map.1 hf
  exact hfound.2 l hl

end FieldMapper

end FieldSearch
