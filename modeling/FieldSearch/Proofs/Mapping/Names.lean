import FieldSearch.Proofs.Mapping.Integrity

/-!
# The names on the way to a leaf

A leaf lies below names of map keys, fields and variants, and the name of its field is meant to be
these names with dots between them. A walk forgets the names and keeps the path, and it looks for
empty names only in the path that it has at a leaf. Joining gives a path with an empty segment for
every empty name but one that comes first: below the root, and below nothing but empty names, the
path is still empty, and the next name stands alone.

`Value.leafNames` keeps the names, and `Path.trimmed` leaves out the ones that vanish. An empty name
anywhere else is found by the check, whatever stands between it and the leaf
(`Path.hasEmptySegment_ofNames`).

Main statement: `FieldMapper.names_of_project`; `FieldMapper.unnamed_outermost` is an object whose
outermost name is empty and which is projected nevertheless.
-/

namespace FieldSearch

/-! ## Paths of names that may be empty -/

namespace Path

/-- The names from the first one on that is not empty. -/
def trimmed (names : List String) : List String := names.dropWhile (· = "")

lemma trimmed_eq_self {names : List String} (h : names.head? ≠ some "") :
    trimmed names = names := by
  cases names with
  | nil => rfl
  | cons name names =>
    have hname : name ≠ "" := fun hempty => h (by rw [hempty]; rfl)
    rw [trimmed, List.dropWhile_cons_of_neg (by simpa using hname)]

lemma ofNames_cons {name : String} {names : List String} (h : names ≠ []) :
    ofNames (name :: names) = name ++ "." ++ ofNames names :=
  String.intercalate_cons_of_ne_nil h

lemma ofNames_trimmed_eq_empty_iff {names : List String} :
    ofNames (trimmed names) = "" ↔ trimmed names = [] := by
  constructor
  · intro h
    by_contra hne
    obtain ⟨name, rest, hcons⟩ := List.exists_cons_of_ne_nil hne
    have hname : name ≠ "" := by
      have hhead := List.head?_dropWhile_not (fun name => decide (name = "")) names
      rw [← trimmed, hcons] at hhead
      simpa using hhead
    rw [hcons] at h
    cases rest with
    | nil => exact hname (by simpa [ofNames] using h)
    | cons next rest => simp [ofNames_cons, hname] at h
  · intro h
    rw [h]
    rfl

lemma trimmed_append (names names' : List String) :
    trimmed (names ++ names') =
      if trimmed names = [] then trimmed names' else trimmed names ++ names' := by
  unfold trimmed
  by_cases h : names.dropWhile (· = "") = []
  · simp only [List.dropWhile_append, h, List.isEmpty_nil, if_true]
  · simp only [List.dropWhile_append, List.isEmpty_iff, if_neg h]

/-- Joining adds one more name to those that have not vanished. -/
lemma join_trimmed (names : List String) (name : String) :
    join (ofNames (trimmed names)) name = ofNames (trimmed (names ++ [name])) := by
  rw [trimmed_append, join]
  by_cases hroot : trimmed names = []
  · -- All names so far have vanished, so the next one stands alone, or vanishes too.
    rw [if_pos (ofNames_trimmed_eq_empty_iff.2 hroot), if_pos hroot]
    by_cases hname : name = "" <;> simp [trimmed, hname, ofNames]
  · rw [if_neg (mt ofNames_trimmed_eq_empty_iff.1 hroot), if_neg hroot, ofNames, ofNames,
      String.intercalate_append_of_ne_nil hroot (by simp), String.intercalate_singleton]

lemma split_append_dot (cs ds : List Char) : split (cs ++ '.' :: ds) = split cs ++ split ds := by
  induction cs with
  | nil => rfl
  | cons c cs ih =>
    by_cases hc : c = '.'
    · subst hc
      rw [List.cons_append, split, ih, split, List.cons_append]
    · obtain ⟨part, parts, hsplit, hcons⟩ := split_cons hc (cs ++ '.' :: ds)
      obtain ⟨part', parts', hsplit', hcons'⟩ := split_cons hc cs
      rw [ih, hsplit', List.cons_append] at hsplit
      obtain ⟨rfl, rfl⟩ := List.cons.inj hsplit
      rw [List.cons_append, hcons, hcons', List.cons_append]

/-- An empty name between dots is an empty segment. -/
lemma hasEmptySegment_ofNames {names : List String} (h : "" ∈ names) :
    hasEmptySegment (ofNames names) = true := by
  induction names with
  | nil => exact absurd h List.not_mem_nil
  | cons name names ih =>
    cases names with
    | nil =>
      obtain rfl := List.mem_singleton.1 h
      rfl
    | cons next names =>
      have hparts : split (ofNames (name :: next :: names)).toList =
          split name.toList ++ split (ofNames (next :: names)).toList := by
        rw [ofNames_cons (by simp), ← split_append_dot]
        simp
      rw [hasEmptySegment, hparts, List.any_append, Bool.or_eq_true]
      rcases List.mem_cons.1 h with rfl | h
      · exact .inl rfl
      · exact .inr (ih h)

/-- A path that a field may have has a name, and no empty one but those that have vanished. -/
lemma IsFieldPath.trimmed_ne {names : List String} (h : IsFieldPath (ofNames (trimmed names))) :
    trimmed names ≠ [] ∧ "" ∉ trimmed names := by
  refine ⟨fun hnil => h.1 (ofNames_trimmed_eq_empty_iff.2 hnil), fun hempty => ?_⟩
  have hsegment := h.2.1
  rw [hasEmptySegment_ofNames hempty] at hsegment
  cases hsegment

end Path

/-! ## Names of leaves -/

namespace Value

mutual

/-- The names on the way to each leaf of a value, behind those on the way to the value. -/
def leafNames (names : List String) : Value → List (List String)
  | present v | wrapped _ v | keyless v => leafNames names v
  | sequence vs | tuple vs | tupleRecord _ vs => leafNamesOfItems names vs
  | map entries => leafNamesOfEntries names entries
  | record _ fields => leafNamesOfFields names fields
  | variant _ tag v => leafNames (names ++ [tag]) v
  | absent | unit | unitRecord _ | refusal _ => []
  | _ => [names]

/-- The names on the way to the leaves of elements, which add none. -/
def leafNamesOfItems (names : List String) : List Value → List (List String)
  | [] => []
  | v :: vs => leafNames names v ++ leafNamesOfItems names vs

/-- The names on the way to the leaves of a map, whose keys add their text. -/
def leafNamesOfEntries (names : List String) : List (Value × Value) → List (List String)
  | [] => []
  | (k, v) :: entries =>
    match k.keyText? with
    | some name => leafNames (names ++ [name]) v ++ leafNamesOfEntries names entries
    | none => leafNamesOfEntries names entries

/-- The names on the way to the leaves of a record. -/
def leafNamesOfFields (names : List String) : List (String × Value) → List (List String)
  | [] => []
  | (name, v) :: fields => leafNames (names ++ [name]) v ++ leafNamesOfFields names fields

end

end Value

namespace Projection

lemma paths_leaf {path : String} {marker : Option LeafKind} {kind : LeafKind} {value : FieldValue}
    {ls : List Leaf} (h : leaf path marker kind value = ⟨ls, none⟩) : ls.map (·.path) = [path] := by
  obtain ⟨-, -, -, kind', rfl⟩ := leaf_eq_found h
  rfl

mutual

/-- A walk that is not stopped finds one leaf for each list of names, under the path of what is left
of them. -/
theorem paths_walk {limit depth : Nat} {marker : Option LeafKind} {names : List String}
    {ls : List Leaf} {v : Value}
    (h : walk limit (Path.ofNames (Path.trimmed names)) depth marker v = ⟨ls, none⟩) :
    ls.map (·.path) = (v.leafNames names).map fun names => Path.ofNames (Path.trimmed names) := by
  cases v with
  | bool _ | int _ | single _ | double _ | char _ | text _ | unitVariant _ _ =>
    rw [walk] at h
    exact paths_leaf h
  | nat n =>
    rw [walk] at h
    obtain ⟨w, -, hleaf⟩ := unsignedLeaf_eq_found.1 h
    exact paths_leaf hleaf
  | wide _ _ | bytes _ | refusal _ =>
    rw [walk] at h
    exact absurd h fail_ne_found
  | absent | unit | unitRecord _ =>
    rw [walk] at h
    obtain rfl := nothing_eq_found.1 h
    rfl
  | present v | wrapped _ v =>
    rw [walk] at h
    rw [Value.leafNames]
    exact paths_walk h
  | sequence vs | tuple vs | tupleRecord _ vs =>
    rw [walk] at h
    rw [Value.leafNames]
    exact paths_walkItems (guarded_eq_found.1 h).2
  | map entries =>
    rw [walk] at h
    rw [Value.leafNames]
    exact paths_walkEntries (guarded_eq_found.1 h).2
  | keyless v =>
    rw [walk] at h
    exact absurd (guarded_eq_found.1 h).2 fail_ne_found
  | record _ fields =>
    rw [walk] at h
    rw [Value.leafNames]
    exact paths_walkFields (guarded_eq_found.1 h).2
  | variant _ tag v =>
    rw [walk, Path.join_trimmed] at h
    rw [Value.leafNames]
    exact paths_walk (guarded_eq_found.1 h).2

theorem paths_walkItems {limit depth : Nat} {names : List String} {ls : List Leaf}
    {vs : List Value}
    (h : walkItems limit (Path.ofNames (Path.trimmed names)) depth vs = ⟨ls, none⟩) :
    ls.map (·.path) =
      (Value.leafNamesOfItems names vs).map fun names => Path.ofNames (Path.trimmed names) := by
  cases vs with
  | nil =>
    rw [walkItems] at h
    obtain rfl := nothing_eq_found.1 h
    rfl
  | cons v vs =>
    rw [walkItems] at h
    obtain ⟨as, bs, has, hbs, rfl⟩ := followedBy_eq_found.1 h
    rw [Value.leafNamesOfItems, List.map_append, List.map_append, paths_walk has,
      paths_walkItems hbs]

theorem paths_walkEntries {limit depth : Nat} {names : List String} {ls : List Leaf}
    {entries : List (Value × Value)}
    (h : walkEntries limit (Path.ofNames (Path.trimmed names)) depth entries = ⟨ls, none⟩) :
    ls.map (·.path) =
      (Value.leafNamesOfEntries names entries).map fun names =>
        Path.ofNames (Path.trimmed names) := by
  cases entries with
  | nil =>
    rw [walkEntries] at h
    obtain rfl := nothing_eq_found.1 h
    rfl
  | cons entry entries =>
    obtain ⟨k, v⟩ := entry
    rw [walkEntries] at h
    split at h
    next => exact absurd h fail_ne_found
    next name hk =>
      rw [Path.join_trimmed] at h
      obtain ⟨as, bs, has, hbs, rfl⟩ := followedBy_eq_found.1 h
      rw [Value.leafNamesOfEntries, keyText?_of_segment hk, List.map_append, List.map_append,
        paths_walk has, paths_walkEntries hbs]

theorem paths_walkFields {limit depth : Nat} {names : List String} {ls : List Leaf}
    {fields : List (String × Value)}
    (h : walkFields limit (Path.ofNames (Path.trimmed names)) depth fields = ⟨ls, none⟩) :
    ls.map (·.path) =
      (Value.leafNamesOfFields names fields).map fun names =>
        Path.ofNames (Path.trimmed names) := by
  cases fields with
  | nil =>
    rw [walkFields] at h
    obtain rfl := nothing_eq_found.1 h
    rfl
  | cons field fields =>
    obtain ⟨name, v⟩ := field
    rw [walkFields, Path.join_trimmed] at h
    obtain ⟨as, bs, has, hbs, rfl⟩ := followedBy_eq_found.1 h
    rw [Value.leafNamesOfFields, List.map_append, List.map_append, paths_walk has,
      paths_walkFields hbs]

end

end Projection

/-! ## Whole objects -/

namespace FieldMapper

variable {m : FieldMapper} {v : Value} {d : Document}

lemma names_eq_of_project (h : m.project v = .ok d) :
    d.fields.map (·.name) =
      (v.leafNames []).map fun names => Path.ofNames (Path.trimmed names) := by
  obtain ⟨ls, hwalk, hfields⟩ := project_eq_ok.1 h
  have hroot : Projection.walk m.config.maxDepth (Path.ofNames (Path.trimmed [])) 0 none v =
      ⟨ls, none⟩ := hwalk
  rw [hfields, List.map_map, ← Projection.paths_walk hroot]
  rfl

/-- Every leaf of an object that is projected has a name that is not empty, and none that is empty
behind it. -/
lemma trimmed_ne_of_project (h : m.project v = .ok d) :
    ∀ names ∈ v.leafNames [], Path.trimmed names ≠ [] ∧ "" ∉ Path.trimmed names := by
  intro names hnames
  have hname : Path.ofNames (Path.trimmed names) ∈ d.fields.map (·.name) := by
    rw [names_eq_of_project h]
    exact List.mem_map_of_mem hnames
  obtain ⟨f, hf, hpath⟩ := List.mem_map.1 hname
  exact Path.IsFieldPath.trimmed_ne (hpath ▸ isFieldPath_of_project h f hf)

/-- **Names between the root and the leaves.** The names of projected fields are the names on the
way to the leaves, joined by dots, but for empty ones that come first, which are left out. An object
with an empty name above a leaf is refused, unless the name is one of these and another name
follows. So if no leaf has an empty outermost name, the fields are named by all names on the way,
and no empty one is among them. -/
theorem names_of_project (m : FieldMapper) (v : Value) :
    (∀ d, m.project v = .ok d →
      d.fields.map (·.name) =
        (v.leafNames []).map fun names => Path.ofNames (Path.trimmed names)) ∧
    (∀ names ∈ v.leafNames [], Path.trimmed names = [] ∨ "" ∈ Path.trimmed names →
      ∃ e, m.project v = .error e) ∧
    ((∀ names ∈ v.leafNames [], names.head? ≠ some "") →
      (∀ d, m.project v = .ok d → d.fields.map (·.name) = (v.leafNames []).map Path.ofNames ∧
        ∀ names ∈ v.leafNames [], names ≠ [] ∧ "" ∉ names) ∧
      ∀ names ∈ v.leafNames [], "" ∈ names → ∃ e, m.project v = .error e) := by
  have hrefused : ∀ names ∈ v.leafNames [],
      Path.trimmed names = [] ∨ "" ∈ Path.trimmed names → ∃ e, m.project v = .error e := by
    intro names hnames hempty
    cases hproject : m.project v with
    | error e => exact ⟨e, rfl⟩
    | ok d =>
      obtain ⟨hne, hnot⟩ := trimmed_ne_of_project hproject names hnames
      exact (hempty.elim hne hnot).elim
  refine ⟨fun d => names_eq_of_project, hrefused, fun houter => ⟨fun d h => ⟨?_, ?_⟩, ?_⟩⟩
  · rw [names_eq_of_project h]
    apply List.map_congr_left
    intro names hnames
    rw [Path.trimmed_eq_self (houter names hnames)]
  · intro names hnames
    have hne := trimmed_ne_of_project h names hnames
    rwa [Path.trimmed_eq_self (houter names hnames)] at hne
  · intro names hnames hempty
    apply hrefused names hnames
    rw [Path.trimmed_eq_self (houter names hnames)]
    exact .inr hempty

/-- A map with an empty key inside a record: its leaf has no empty outermost name, so the record is
refused. Without that entry it is projected, and the name of the record's field and the key make the
name of the leaf. -/
theorem names_of_project_map :
    let v (key : String) : Value := .record "Note" [("tags", .map [(.text key, .bool true)])]
    ((∀ names ∈ (v "").leafNames [], names.head? ≠ some "") ∧ ["tags", ""] ∈ (v "").leafNames [] ∧
      ∃ e, FieldMapper.project {} (v "") = .error e) ∧
    ∃ d, FieldMapper.project {} (v "a") = .ok d ∧
      d.fields.map (·.name) = [Path.ofNames ["tags", "a"]] := by
  intro v
  have houter : ∀ names ∈ (v "").leafNames [], names.head? ≠ some "" := by decide
  have hmem : ["tags", ""] ∈ (v "").leafNames [] := by decide
  exact ⟨⟨houter, hmem, ((names_of_project {} (v "")).2.2 houter).2 _ hmem (by decide)⟩, _, rfl,
    (names_of_project {} (v "a")).1 _ rfl⟩

/-- A record whose only field has the empty name is projected, and the leaf below it gets the name
that it would have without that record around it. -/
theorem unnamed_outermost :
    let v : Value := .record "Outer" [("", .record "Inner" [("a", .int 1)])]
    v.leafNames [] = [["", "a"]] ∧
      FieldMapper.project {} v = .ok ⟨[⟨"a", .long 1, .exact⟩]⟩ := by
  intro v
  exact ⟨rfl, rfl⟩

end FieldMapper

end FieldSearch
