import FieldSearch.Proofs.Mapping.Walk

/-!
# Projection is flattening of the payload

An object is written twice into its document: once as fields, by the walk of `Projection`, and
once as the JSON tree of the payload, by `Value.json?`. The two do not know of each other.
`Json.flatten` reads fields off a JSON tree, and the fields of an object turn out to be those of
its tree, in the same order.

The names on the way to a value are kept as a list here. `Path.join` makes the same path of them
as long as no name is empty, which is why the statement asks for names; a walk that succeeds has
no empty name below the outermost level anyway.

Main statement: `FieldMapper.project_eq_flatten`.
-/

namespace FieldSearch

/-! ## Fields of a JSON tree -/

namespace Json

/-- The field value of a scalar. Null is none, and neither is a number that is not a word. -/
def scalar? : Json → Option FieldValue
  | .bool b => some (.long (if b then 1 else 0))
  | .number n => (n.integer?.bind FieldSearch.word?).map .long
  | .string s => s.map .string
  | _ => none

mutual

/-- The fields of a tree below a list of names: members of objects add their name, items of
arrays share the names of the array. -/
def flatten (names : List String) : Json → List (String × FieldValue)
  | .array js => flattenItems names js
  | .object ms => flattenMembers names ms
  | j => j.scalar?.toList.map fun x => (Path.ofNames names, x)

/-- The fields of items in order. -/
def flattenItems (names : List String) : List Json → List (String × FieldValue)
  | [] => []
  | j :: js => flatten names j ++ flattenItems names js

/-- The fields of members in order. -/
def flattenMembers (names : List String) : List (JsonText × Json) → List (String × FieldValue)
  | [] => []
  | (some name, j) :: ms => flatten (names ++ [name]) j ++ flattenMembers names ms
  | (none, _) :: ms => flattenMembers names ms

end

lemma flatten_of_scalar? {names : List String} {j : Json} {x : FieldValue}
    (h : j.scalar? = some x) : j.flatten names = [(Path.ofNames names, x)] := by
  cases j with
  | bool _ | number _ | string _ => simp [flatten, h]
  | null | array _ | object _ | nameless _ => cases h

end Json

/-- The name and value of a leaf. -/
def Leaf.entry (l : Leaf) : String × FieldValue := (l.path, l.value)

/-- The name and value of a field. -/
def Field.entry (f : Field) : String × FieldValue := (f.name, f.value)

@[simp] lemma FieldConventions.entry_field (c : FieldConventions) (l : Leaf) :
    (c.field l).entry = l.entry := rfl

/-! ## The walk -/

/-- No value inside is a float, and no member is without a name. -/
def Value.Plain (v : Value) : Prop := v.Everywhere fun u => u.isFloat = false ∧ "" ∉ u.memberNames

lemma Value.Plain.of_children {v : Value} (hself : v.isFloat = false ∧ "" ∉ v.memberNames)
    (hchildren : ∀ u ∈ v.children, u.Plain) : v.Plain :=
  .intro hself hchildren

namespace Projection

lemma scalar?_ofInt {n : Int} {w : Int64} (h : word? n = some w) :
    (Json.ofInt n).scalar? = some (.long w) := by
  have hn := toInt_of_word? h
  have hlow : -wordEnd ≤ n := by
    have := w.le_toInt
    unfold wordEnd
    omega
  have hhigh : n < UInt64.size := by
    have := w.toInt_lt
    unfold UInt64.size
    omega
  rw [Json.ofInt, Json.scalar?, Numeral.integer?_ofInt hlow hhigh]
  simp [h]

lemma entries_leaf {names : List String} {marker : Option LeafKind} {kind : LeafKind}
    {value : FieldValue} {j : Json} {ls : List Leaf} (hj : j.scalar? = some value)
    (h : leaf (Path.ofNames names) marker kind value = ⟨ls, none⟩) :
    ls.map Leaf.entry = j.flatten names := by
  obtain ⟨-, -, -, kind', rfl⟩ := leaf_eq_found h
  rw [Json.flatten_of_scalar? hj]
  rfl

mutual

/-- A walk below names finds the fields of the tree of its value, and there is a tree. -/
theorem entries_walk {limit depth : Nat} {marker : Option LeafKind} {names : List String}
    {ls : List Leaf} {v : Value} (hv : v.Plain) (hnames : "" ∉ names)
    (h : walk limit (Path.ofNames names) depth marker v = ⟨ls, none⟩) :
    ∃ j, v.json? = some j ∧ ls.map Leaf.entry = j.flatten names := by
  cases v with
  | bool b =>
    simp only [walk] at h
    exact ⟨.bool b, by simp only [Value.json?], entries_leaf rfl h⟩
  | int n =>
    simp only [walk] at h
    exact ⟨.ofInt n.toInt, by simp only [Value.json?],
      entries_leaf (scalar?_ofInt (word?_toInt n)) h⟩
  | nat n =>
    simp only [walk] at h
    obtain ⟨w, hw, hleaf⟩ := unsignedLeaf_eq_found.1 h
    exact ⟨.ofInt n.toNat, by simp only [Value.json?], entries_leaf (scalar?_ofInt hw) hleaf⟩
  | wide signed n =>
    simp only [walk] at h
    exact absurd h fail_ne_found
  | single x | double x => exact absurd hv.self.1 (by simp [Value.isFloat])
  | char c =>
    simp only [walk] at h
    exact ⟨.ofString (String.singleton c), by simp only [Value.json?], entries_leaf rfl h⟩
  | text s =>
    simp only [walk] at h
    exact ⟨.ofString s, by simp only [Value.json?], entries_leaf rfl h⟩
  | bytes bs =>
    simp only [walk] at h
    exact absurd h fail_ne_found
  | absent | unit | unitRecord =>
    simp only [walk] at h
    obtain rfl := nothing_eq_found.1 h
    exact ⟨.null, by simp only [Value.json?], by simp [Json.flatten, Json.scalar?]⟩
  | present v | wrapped _ v =>
    simp only [walk] at h
    obtain ⟨j, hj, hls⟩ := entries_walk (hv.inside v (by simp [Value.children])) hnames h
    exact ⟨j, by simp only [Value.json?, hj], hls⟩
  | sequence vs | tuple vs | tupleRecord _ vs =>
    simp only [walk] at h
    obtain ⟨-, hitems⟩ := guarded_eq_found.1 h
    have hvs : ∀ v ∈ vs, v.Plain := hv.inside
    obtain ⟨js, hjs, hls⟩ := entries_walkItems hvs hnames hitems
    exact ⟨.array js, by simp [Value.json?, hjs], by rw [hls, Json.flatten]⟩
  | map entries =>
    simp only [walk] at h
    obtain ⟨-, hentries⟩ := guarded_eq_found.1 h
    obtain ⟨ms, hms, hls⟩ := entries_walkEntries hv.self.2 hv.inside hnames hentries
    exact ⟨.object ms, by simp [Value.json?, hms], by rw [hls, Json.flatten]⟩
  | keyless v =>
    simp only [walk] at h
    exact absurd (guarded_eq_found.1 h).2 fail_ne_found
  | record _ fields =>
    simp only [walk] at h
    obtain ⟨-, hfields⟩ := guarded_eq_found.1 h
    obtain ⟨ms, hms, hls⟩ := entries_walkFields hv.self.2 hv.inside hnames hfields
    exact ⟨.object ms, by simp [Value.json?, hms], by rw [hls, Json.flatten]⟩
  | unitVariant _ tag =>
    simp only [walk] at h
    exact ⟨.ofString tag, by simp only [Value.json?], entries_leaf rfl h⟩
  | variant _ tag v =>
    simp only [walk, Path.join_ofNames hnames] at h
    obtain ⟨-, hwalk⟩ := guarded_eq_found.1 h
    have htag : "" ∉ [tag] := hv.self.2
    obtain ⟨j, hj, hls⟩ := entries_walk (hv.inside v (by simp [Value.children]))
      (by simp_all) hwalk
    exact ⟨.object [(some tag, j)], by simp [Value.json?, hj],
      by simp [Json.flatten, Json.flattenMembers, hls]⟩
  | refusal reason =>
    simp only [walk] at h
    exact absurd h fail_ne_found

/-- Elements, whose walks share the names. -/
theorem entries_walkItems {limit depth : Nat} {names : List String} {ls : List Leaf}
    {vs : List Value} (hvs : ∀ v ∈ vs, v.Plain) (hnames : "" ∉ names)
    (h : walkItems limit (Path.ofNames names) depth vs = ⟨ls, none⟩) :
    ∃ js, Value.jsonItems? vs = some js ∧ ls.map Leaf.entry = Json.flattenItems names js := by
  cases vs with
  | nil =>
    simp only [walkItems] at h
    obtain rfl := nothing_eq_found.1 h
    exact ⟨[], by simp [Value.jsonItems?], by simp [Json.flattenItems]⟩
  | cons v vs =>
    simp only [walkItems] at h
    obtain ⟨as, bs, has, hbs, rfl⟩ := followedBy_eq_found.1 h
    obtain ⟨j, hj, hls⟩ := entries_walk (hvs v (by simp)) hnames has
    obtain ⟨js, hjs, hls'⟩ := entries_walkItems (fun u hu => hvs u (by simp [hu])) hnames hbs
    exact ⟨j :: js, by simp [Value.jsonItems?, hj, hjs], by simp [Json.flattenItems, hls, hls']⟩

/-- Entries of a map, each below the text of its key. -/
theorem entries_walkEntries {limit depth : Nat} {names : List String} {ls : List Leaf}
    {entries : List (Value × Value)} (hkeys : "" ∉ entries.filterMap (·.1.keyText?))
    (hvs : ∀ v ∈ entries.map (·.2), v.Plain) (hnames : "" ∉ names)
    (h : walkEntries limit (Path.ofNames names) depth entries = ⟨ls, none⟩) :
    ∃ ms, Value.jsonEntries? entries = some ms ∧
      ls.map Leaf.entry = Json.flattenMembers names ms := by
  cases entries with
  | nil =>
    simp only [walkEntries] at h
    obtain rfl := nothing_eq_found.1 h
    exact ⟨[], by simp [Value.jsonEntries?], by simp [Json.flattenMembers]⟩
  | cons entry entries =>
    obtain ⟨k, v⟩ := entry
    simp only [walkEntries] at h
    split at h
    next => exact absurd h fail_ne_found
    next name hk =>
      have hname := keyText?_of_segment hk
      rw [Path.join_ofNames hnames] at h
      obtain ⟨as, bs, has, hbs, rfl⟩ := followedBy_eq_found.1 h
      simp only [List.filterMap_cons, hname, List.mem_cons, not_or] at hkeys
      simp only [List.map_cons, List.forall_mem_cons] at hvs
      obtain ⟨j, hj, hls⟩ := entries_walk hvs.1 (by simp [hnames, hkeys.1]) has
      obtain ⟨ms, hms, hls'⟩ := entries_walkEntries hkeys.2 hvs.2 hnames hbs
      exact ⟨(some name, j) :: ms, by simp [Value.jsonEntries?, hname, hj, hms],
        by simp [Json.flattenMembers, hls, hls']⟩

/-- Fields of a record, each below its name. -/
theorem entries_walkFields {limit depth : Nat} {names : List String} {ls : List Leaf}
    {fields : List (String × Value)} (hkeys : "" ∉ fields.map (·.1))
    (hvs : ∀ v ∈ fields.map (·.2), v.Plain) (hnames : "" ∉ names)
    (h : walkFields limit (Path.ofNames names) depth fields = ⟨ls, none⟩) :
    ∃ ms, Value.jsonFields? fields = some ms ∧
      ls.map Leaf.entry = Json.flattenMembers names ms := by
  cases fields with
  | nil =>
    simp only [walkFields] at h
    obtain rfl := nothing_eq_found.1 h
    exact ⟨[], by simp [Value.jsonFields?], by simp [Json.flattenMembers]⟩
  | cons field fields =>
    obtain ⟨name, v⟩ := field
    simp only [walkFields, Path.join_ofNames hnames] at h
    obtain ⟨as, bs, has, hbs, rfl⟩ := followedBy_eq_found.1 h
    simp only [List.map_cons, List.mem_cons, not_or] at hkeys
    simp only [List.map_cons, List.forall_mem_cons] at hvs
    obtain ⟨j, hj, hls⟩ := entries_walk hvs.1 (by simp [hnames, hkeys.1]) has
    obtain ⟨ms, hms, hls'⟩ := entries_walkFields hkeys.2 hvs.2 hnames hbs
    exact ⟨(some name, j) :: ms, by simp [Value.jsonFields?, hj, hms],
      by simp [Json.flattenMembers, hls, hls']⟩

end

end Projection

/-! ## The whole object -/

namespace FieldMapper

/-- An object without floats whose members have names is projected, if at all, onto the fields of
the JSON tree that its payload holds: none is lost, repeated, moved or renamed, whatever the
conventions and the depth allowed. -/
theorem project_eq_flatten (m : FieldMapper) (v : Value) (d : Document) (hv : v.Plain)
    (h : m.project v = .ok d) :
    ∃ j, v.json? = some j ∧
      (∀ actual : TypeIdentity, Envelope.payload? actual v =
        some (Json.ofMembers [("type", .ofString actual.text), ("value", j)]).text) ∧
      d.fields.map Field.entry = j.flatten [] := by
  obtain ⟨ls, hwalk, hfields⟩ := project_eq_ok.1 h
  have hroot : Projection.walk m.config.maxDepth (Path.ofNames []) 0 none v = ⟨ls, none⟩ := hwalk
  obtain ⟨j, hj, hls⟩ := Projection.entries_walk hv List.not_mem_nil hroot
  refine ⟨j, hj, fun actual => by rw [Envelope.payload?, hj]; rfl, ?_⟩
  rw [hfields, List.map_map, ← hls]
  exact List.map_congr_left fun l _ => m.conventions.entry_field l

/-- A visit with a map of rooms, a state with content and a stay in ticks. -/
def visit : Value :=
  .record "Visit"
    [("guest", .present (.text "Ann")),
      ("paid", .bool true),
      ("note", .absent),
      ("stay", .wrapped Value.durationMarker (.int 30)),
      ("rooms", .map [(.nat 7, .sequence [.nat 2, .nat 3])]),
      ("state", .variant "State" "Left" (.record "Left" [("early", .bool false)]))]

theorem project_eq_flatten_visit :
    visit.Plain ∧
      FieldMapper.project {} visit = .ok ⟨[
        ⟨"guest", .string "Ann", ⟨true, false, true⟩⟩,
        ⟨"paid", .long 1, .exact⟩,
        ⟨"stay", .long 30, .exact⟩,
        ⟨"rooms.7", .long 2, .exact⟩,
        ⟨"rooms.7", .long 3, .exact⟩,
        ⟨"state.Left.early", .long 0, .exact⟩]⟩ ∧
      ∃ j, visit.json? = some j ∧
        (∀ actual : TypeIdentity, Envelope.payload? actual visit =
          some (Json.ofMembers [("type", .ofString actual.text), ("value", j)]).text) ∧
        [("guest", .string "Ann"), ("paid", .long 1), ("stay", .long 30), ("rooms.7", .long 2),
          ("rooms.7", .long 3), ("state.Left.early", .long 0)] = j.flatten [] := by
  have hplain : visit.Plain := by
    have hscalar {u : Value} (hself : u.isFloat = false ∧ u.memberNames = [])
        (hchildren : u.children = []) : u.Plain :=
      .of_children (by simp [hself]) (by simp [hchildren])
    have hguest : (Value.present (.text "Ann")).Plain :=
      .of_children (by decide) (by simpa [Value.children] using hscalar (by decide) rfl)
    have hstay : (Value.wrapped Value.durationMarker (.int 30)).Plain :=
      .of_children (by decide) (by simpa [Value.children] using hscalar (by decide) rfl)
    have hroom : (Value.sequence [.nat 2, .nat 3]).Plain :=
      .of_children (by decide) (by
        simpa [Value.children] using ⟨hscalar (by decide) rfl, hscalar (by decide) rfl⟩)
    have hrooms : (Value.map [(.nat 7, .sequence [.nat 2, .nat 3])]).Plain :=
      .of_children (by decide) (by simpa [Value.children] using hroom)
    have hleft : (Value.record "Left" [("early", .bool false)]).Plain :=
      .of_children (by decide) (by simpa [Value.children] using hscalar (by decide) rfl)
    have hstate : (Value.variant "State" "Left" (.record "Left" [("early", .bool false)])).Plain :=
      .of_children (by decide) (by simpa [Value.children] using hleft)
    exact .of_children (by decide) (by
      simpa [visit, Value.children] using
        ⟨hguest, hscalar (by decide) rfl, hscalar (by decide) rfl, hstay, hrooms, hstate⟩)
  have hproject : FieldMapper.project {} visit = .ok ⟨[
        ⟨"guest", .string "Ann", ⟨true, false, true⟩⟩,
        ⟨"paid", .long 1, .exact⟩,
        ⟨"stay", .long 30, .exact⟩,
        ⟨"rooms.7", .long 2, .exact⟩,
        ⟨"rooms.7", .long 3, .exact⟩,
        ⟨"state.Left.early", .long 0, .exact⟩]⟩ := by
    rfl
  exact ⟨hplain, hproject, project_eq_flatten {} visit _ hplain hproject⟩

end FieldMapper

end FieldSearch
