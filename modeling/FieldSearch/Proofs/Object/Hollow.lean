import FieldSearch.Proofs.Object.Holds

/-!
# Empty variants in settled trees

The values without names that a variant holds are written as an array. If there are none the array
is empty, and the reader of a settled tree does not take it for the values of a variant. So a value
with an empty variant in it, however deep, has a tree that is read as nothing once it was settled
(`Schema.Hollow.readDeep_eq_none`, by induction over the place of the variant), while as it was
written it may well be read. Every other value is read alike (`Schema.Holds.readsAlike`). Together
they say of any value of a type what is left of its tree (`Schema.Holds.bind_readDeep_settle`).
-/

namespace FieldSearch

namespace Schema

variable {catalog : Catalog} {origin : Origin} {s : Schema} {v : Value} {j : Json} {depth : Nat}

/-! ## Containers with a part that is not read -/

lemma array_ne_null (js : List Json) : Json.array js ≠ .null := by
  rintro ⟨⟩

lemma ofMembers_ne_null (pairs : List (String × Json)) : Json.ofMembers pairs ≠ .null := by
  rintro ⟨⟩

lemma readTuple_eq_none {inner : Schema → Json → Option Value} {ss : List Schema}
    {js : List Json} {p : Schema × Json} (hp : p ∈ ss.zip js) (h : inner p.1 p.2 = none) :
    readTuple inner ss js = none := by
  unfold readTuple
  split
  · exact mapM_eq_none hp h
  · rfl

/-- A container needs a level, and is read by reading its parts with one level less. -/
lemma readDeep_of_parts {α : Type} {build : α → Value} {parts : Nat → Option α}
    (hzero : readDeep catalog origin 0 s j = none)
    (hsucc : ∀ depth, readDeep catalog origin (depth + 1) s j = (parts depth).map build)
    (hparts : ∀ depth, parts depth = none) (depth : Nat) :
    readDeep catalog origin depth s j = none := by
  cases depth with
  | zero => exact hzero
  | succ depth => rw [hsucc, hparts, Option.map_none]

lemma readDeep_tuple_eq_none {ss : List Schema} {js : List Json} {p : Schema × Json}
    (hp : p ∈ ss.zip js) (h : ∀ depth, readDeep catalog origin depth p.1 p.2 = none) :
    ∀ depth, readDeep catalog origin depth (.tuple ss) (.array js) = none :=
  readDeep_of_parts rfl (fun depth => readDeep_tuple ss origin depth js)
    fun depth => readTuple_eq_none hp (h depth)

lemma readDeep_record_eq_none (type : String) {fields : List (String × Schema × Option Value)}
    {pairs : List (String × Json)} (hnames : (pairs.map (·.1)).Nodup) {p : String × Json}
    {f : String × Schema × Option Value} (hp : p ∈ pairs) (hf : f ∈ fields) (hname : f.1 = p.1)
    (h : ∀ depth, readDeep catalog origin depth f.2.1 p.2 = none) :
    ∀ depth, readDeep catalog origin depth (.record type fields) (.ofMembers pairs) = none := by
  refine readDeep_of_parts rfl (fun depth => readDeep_record type fields origin depth pairs) ?_
  intro depth
  have hlookup : pairs.lookup f.1 = some p.2 := by
    rw [hname]
    exact (lookup_eq_some_iff_mem hnames).2 hp
  rw [readFields_ofMembers _ _ hnames]
  exact mapM_eq_none hf (by rw [hlookup, readMember, h, Option.map_none])

/-! ## Values with an empty variant -/

lemma tableOf_injective : Function.Injective tableOf := by
  intro entries entries' h
  refine List.map_injective_iff.2 ?_ (Value.map.inj h)
  rintro ⟨name, v⟩ ⟨name', v'⟩ heq
  simpa using heq

lemma holds_table_iff {entries : List (String × Value)} :
    Holds catalog (.table s) (tableOf entries) ↔
      (entries.map (·.1)).Nodup ∧ ∀ e ∈ entries, Holds catalog s e.2 := by
  refine ⟨fun h => ?_, fun ⟨hkeys, h⟩ => .table hkeys h⟩
  generalize hv : tableOf entries = v at h
  cases h with | table hkeys h
  obtain rfl := tableOf_injective hv
  exact ⟨hkeys, h⟩

/-- The tree of a value with an empty variant is nothing to the reader of a settled tree. It is not
null either, which an option would take for an absent value. -/
theorem Hollow.readDeep_eq_none (h : Hollow catalog s v) (hv : Holds catalog s v)
    (hj : v.json? = some j) :
    j ≠ .null ∧ ∀ depth, readDeep catalog .settled depth s j = none := by
  induction h generalizing j with
  | empty =>
    obtain rfl := Option.some.inj hj
    exact ⟨array_ne_null _, readDeep_inlineTuple_nil []⟩
  | present _ ih =>
    cases hv with | present hv
    obtain ⟨hne, hread⟩ := ih hv hj
    exact ⟨hne, fun depth => by rw [readDeep_option hne, hread, Option.map_none]⟩
  | wrapped type _ ih =>
    cases hv with | wrapped _ hv
    obtain ⟨hne, hread⟩ := ih hv hj
    exact ⟨hne, fun depth => by rw [readDeep_wrapped, hread, Option.map_none]⟩
  | named hname _ ih =>
    cases hv with | named hname' hv
    obtain rfl := Option.some.inj (hname.symm.trans hname')
    obtain ⟨hne, hread⟩ := ih hv hj
    refine ⟨hne, fun depth => ?_⟩
    obtain hnamed | hnamed := readDeep_named hname
    · rw [hnamed]
    · rw [hnamed, hread]
  | sequence hmem _ ih =>
    cases hv with | sequence hall
    rw [Value.json?] at hj
    obtain ⟨js, hjs, rfl⟩ := Option.map_eq_some_iff.1 hj
    obtain ⟨j, hj, hvj⟩ := exists_json_of_mem hjs hmem
    have hread := (ih (hall _ hmem) hvj).2
    refine ⟨array_ne_null js, ?_⟩
    exact readDeep_of_parts rfl (fun depth => readDeep_sequence _ depth js)
      fun depth => mapM_eq_none hj (hread depth)
  | tuple hp _ ih =>
    cases hv with | tuple _ hall
    rw [Value.json?] at hj
    obtain ⟨js, hjs, rfl⟩ := Option.map_eq_some_iff.1 hj
    obtain ⟨j, hj, hvj⟩ := exists_json_of_mem_zip hjs hp
    exact ⟨array_ne_null js, readDeep_tuple_eq_none hj (ih (hall _ hp) hvj).2⟩
  | tupleRecord type hp _ ih =>
    cases hv with | tupleRecord _ _ hall
    rw [Value.json?] at hj
    obtain ⟨js, hjs, rfl⟩ := Option.map_eq_some_iff.1 hj
    obtain ⟨j, hj, hvj⟩ := exists_json_of_mem_zip hjs hp
    have hread := (ih (hall _ hp) hvj).2
    refine ⟨array_ne_null js, ?_⟩
    exact readDeep_of_parts rfl (fun depth => readDeep_tupleRecord type _ _ depth js)
      fun depth => readTuple_eq_none hj (hread depth)
  | inlineTuple hp _ ih =>
    cases hv with | inlineTuple _ hall
    rw [Value.json?] at hj
    obtain ⟨js, hjs, rfl⟩ := Option.map_eq_some_iff.1 hj
    obtain ⟨j, hj, hvj⟩ := exists_json_of_mem_zip hjs hp
    have hne : js ≠ [] := List.ne_nil_of_mem (List.of_mem_zip hj).2
    refine ⟨array_ne_null js, fun depth => ?_⟩
    rw [readDeep_inlineTuple _ _ depth (.inr hne)]
    exact readDeep_tuple_eq_none hj (ih (hall _ hp) hvj).2 depth
  | table he _ ih =>
    obtain ⟨-, hall⟩ := holds_table_iff.1 hv
    rw [json?_table] at hj
    obtain ⟨pairs, hpairs, rfl⟩ := Option.map_eq_some_iff.1 hj
    obtain ⟨j, hp, hvj⟩ := exists_read_of_mapValues? hpairs he
    have hread := (ih (hall _ he) hvj).2
    refine ⟨ofMembers_ne_null pairs, ?_⟩
    refine readDeep_of_parts rfl (fun depth => readDeep_table _ depth pairs) fun depth => ?_
    have hvalues : mapValues? (readDeep catalog .settled depth _) pairs = none :=
      mapM_eq_none hp (congrArg (Option.map _) (hread depth))
    rw [readTable, hvalues, Option.map_none]
  | record type he hf hname _ ih =>
    cases hv with | record _ hnames _ hall
    rw [json?_record] at hj
    obtain ⟨pairs, hpairs, rfl⟩ := Option.map_eq_some_iff.1 hj
    obtain ⟨j, hp, hvj⟩ := exists_read_of_mapValues? hpairs he
    rw [← names_mapValues? hpairs] at hnames
    exact ⟨ofMembers_ne_null pairs, readDeep_record_eq_none type hnames hp hf hname
      (ih (hall _ he _ hf hname) hvj).2⟩
  | inline tag he hf hname _ ih =>
    cases hv with | inline _ hnames _ hall
    rw [json?_record] at hj
    obtain ⟨pairs, hpairs, rfl⟩ := Option.map_eq_some_iff.1 hj
    obtain ⟨j, hp, hvj⟩ := exists_read_of_mapValues? hpairs he
    rw [← names_mapValues? hpairs] at hnames
    refine ⟨ofMembers_ne_null pairs, fun depth => ?_⟩
    rw [readDeep_inline]
    exact readDeep_record_eq_none tag hnames hp hf hname (ih (hall _ he _ hf hname) hvj).2 depth
  | variant type htag _ ih =>
    cases hv with | variant _ htag' hv
    obtain rfl := Option.some.inj (Option.some.inj (htag.symm.trans htag'))
    rw [Value.json?] at hj
    obtain ⟨j', hj', rfl⟩ := Option.map_eq_some_iff.1 hj
    have hread := (ih hv hj').2
    refine ⟨ofMembers_ne_null [(_, j')], ?_⟩
    exact readDeep_of_parts rfl (fun depth => readDeep_variant htag _ depth j') hread

/-- A value whose tree is read as a settled one has no empty variant. -/
lemma Holds.not_hollow (hv : Holds catalog s v) (hj : v.json? = some j)
    (hread : (readDeep catalog .settled depth s j).isSome = true) : ¬ Hollow catalog s v := by
  intro h
  rw [(h.readDeep_eq_none hv hj).2 depth] at hread
  cases hread

/-- What is left of the tree of a value once it was settled: all of it, or with an empty variant
nothing. -/
theorem Holds.bind_readDeep_settle (hv : Holds catalog s v) (hj : v.json? = some j) {level : Nat}
    (hle : depth ≤ level) :
    (¬ Hollow catalog s v → (j.settle depth).bind (readDeep catalog .settled level s) =
      readDeep catalog .written depth s j) ∧
    (Hollow catalog s v → (j.settle depth).bind (readDeep catalog .settled level s) = none) := by
  refine ⟨fun hfull => (hv.readsAlike hj (.inr hfull)).reads hle, fun hhollow => ?_⟩
  rw [(hv.readsAlike hj (.inl rfl)).reads hle]
  exact (hhollow.readDeep_eq_none hv hj).2 depth

end Schema

end FieldSearch
