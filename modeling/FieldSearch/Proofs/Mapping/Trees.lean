import FieldSearch.Proofs.Object.Alike

/-!
# Trees of objects that are walked

An object goes through two writers on its way into a document: the walk that finds its leaves, and
the one that makes the tree of its payload. Each of them refuses objects. What the second one
refuses the first one has refused before, as it takes fewer kinds of map keys and stops at the same
values.

The tree that is made nests as many containers as the object (`Json.nest`), and nothing else in it
stands in the way of reading it as a tree again: integers fit a word, every finite float has a
numeral that is read, and a float that is not finite is null. `Json.Nests` says both, with one rule
for each kind of tree; `Projection.exists_nests_walk` goes through the object by these rules.
-/

namespace FieldSearch

variable {α β : Type}

/-! ## Trees by their nesting -/

lemma isSome_mapM_iff {f : α → Option β} {l : List α} :
    (l.mapM f).isSome = true ↔ ∀ a ∈ l, (f a).isSome = true := by
  induction l with
  | nil => simp
  | cons a l ih =>
    rw [List.mapM_cons, List.forall_mem_cons, ← ih]
    cases f a with
    | none => simp
    | some b => cases l.mapM f <;> simp

lemma isSome_mapValues?_iff {read : α → Option β} {l : List (String × α)} :
    (mapValues? read l).isSome = true ↔ ∀ a ∈ l.map (·.2), (read a).isSome = true := by
  rw [mapValues?, isSome_mapM_iff, List.forall_mem_map]
  simp only [Option.isSome_map]

namespace Schema

lemma isSome_readNumber {n : Numeral} : (readNumber n).isSome = (Json.double? n).isSome := by
  unfold readNumber Json.double?
  split
  · rfl
  · rw [Option.isSome_map]

variable {catalog : Catalog} {origin : Origin} {depth : Nat}

lemma readDeep_any (j : Json) :
    readDeep catalog origin depth .any j =
      readBody origin (innerAt catalog origin depth) .any j := by
  cases depth <;> rfl

lemma isSome_readDeep_array (js : List Json) :
    (readDeep catalog origin (depth + 1) .any (.array js)).isSome =
      (js.mapM (readDeep catalog origin depth .any)).isSome := by
  rw [readDeep_any, readBody, innerAt]
  simp only [Option.bind_eq_bind, Option.bind_some]
  cases js.mapM (readDeep catalog origin depth .any) <;> rfl

lemma isSome_readDeep_ofMembers (pairs : List (String × Json)) :
    (readDeep catalog origin (depth + 1) .any (.ofMembers pairs)).isSome =
      (mapValues? (readDeep catalog origin depth .any) pairs).isSome := by
  rw [readDeep_any, Json.ofMembers, readBody, innerAt, Json.namedMembers?_ofMembers]
  simp only [Option.bind_eq_bind, Option.bind_some]
  change Option.isSome ((mapValues? (readDeep catalog origin depth .any) pairs).bind _) = _
  cases mapValues? (readDeep catalog origin depth .any) pairs <;> rfl

end Schema

namespace Json

mutual

/-- The number of containers that are nested in a tree. -/
def nest : Json → Nat
  | array js => nestItems js + 1
  | object ms => nestMembers ms + 1
  | nameless j => j.nest + 1
  | _ => 0

/-- The deepest nesting of several trees. -/
def nestItems : List Json → Nat
  | [] => 0
  | j :: js => max j.nest (nestItems js)

/-- The deepest nesting of the values of an object. -/
def nestMembers : List (JsonText × Json) → Nat
  | [] => 0
  | (_, j) :: ms => max j.nest (nestMembers ms)

end

lemma nest_ofMembers (pairs : List (String × Json)) :
    (ofMembers pairs).nest = nestItems (pairs.map (·.2)) + 1 := by
  rw [ofMembers, nest, Nat.add_right_cancel_iff]
  induction pairs with
  | nil => rfl
  | cons pair pairs ih => rw [List.map_cons, List.map_cons, nestMembers, nestItems, ih]

variable {m n : Nat} {j : Json} {js : List Json}

/-- A tree that nests `n` containers, and is read as any value exactly where so many may be
nested. -/
structure Nests (n : Nat) (j : Json) : Prop where
  nest_eq : j.nest = n
  legible : j.Legible
  isSome_read : ∀ catalog origin depth,
    (Schema.readDeep catalog origin depth .any j).isSome = true ↔ n ≤ depth

/-- Trees of which the deepest nests `n` containers, and that are all read as any value exactly
where so many may be nested. -/
structure NestAll (n : Nat) (js : List Json) : Prop where
  nest_eq : nestItems js = n
  legible : ∀ j ∈ js, j.Legible
  isSome_read : ∀ catalog origin depth,
    (∀ j ∈ js, (Schema.readDeep catalog origin depth .any j).isSome = true) ↔ n ≤ depth

lemma nestAll_nil : NestAll 0 [] where
  nest_eq := rfl
  legible := by simp
  isSome_read := by simp

lemma Nests.cons (hj : Nests m j) (hjs : NestAll n js) : NestAll (max m n) (j :: js) where
  nest_eq := by rw [nestItems, hj.nest_eq, hjs.nest_eq]
  legible := List.forall_mem_cons.2 ⟨hj.legible, hjs.legible⟩
  isSome_read catalog origin depth := by
    rw [List.forall_mem_cons, hj.isSome_read, hjs.isSome_read, Nat.max_le]

/-- Scalars may stand at any depth. -/
lemma nests_scalar (hnest : j.nest = 0) (hlegible : j.Legible)
    (hread : ∀ origin inner, (Schema.readBody origin inner .any j).isSome = true) :
    Nests 0 j where
  nest_eq := hnest
  legible := hlegible
  isSome_read catalog origin depth := by
    simp only [Schema.readDeep_any, hread, Nat.zero_le]

lemma nests_number {n : Numeral} (hlegible : n.Grammatical) (hread : (double? n).isSome = true) :
    Nests 0 (.number n) :=
  nests_scalar rfl hlegible fun _ _ => Schema.isSome_readNumber.trans hread

lemma nests_ofInt {i : Int} (hlow : -wordEnd ≤ i) (hhigh : i < UInt64.size) :
    Nests 0 (.ofInt i) := by
  refine nests_number (Numeral.grammatical_ofInt i) ?_
  rw [double?, Numeral.integer?_ofInt hlow hhigh]
  rfl

/-- A float is a numeral that is read, or null. -/
lemma nests_ofFloat {f : Format} {layout : FloatLayout} {x : Binary f}
    (hread : x.isFinite = true → (double? (layout.numeral x)).isSome = true) :
    Nests 0 (.ofFloat layout x) := by
  unfold ofFloat
  split
  next hfinite => exact nests_number (x.grammatical_numeral layout) (hread hfinite)
  next => exact nests_scalar rfl trivial fun _ _ => rfl

lemma NestAll.array (h : NestAll n js) : Nests (n + 1) (.array js) where
  nest_eq := by rw [nest, h.nest_eq]
  legible := Schema.legible_array h.legible
  isSome_read catalog origin depth := by
    cases depth with
    | zero => simp [Schema.readDeep_any, Schema.readBody, Schema.innerAt]
    | succ depth =>
      rw [Schema.isSome_readDeep_array, isSome_mapM_iff, h.isSome_read, Nat.add_le_add_iff_right]

lemma NestAll.ofMembers {pairs : List (String × Json)} (h : NestAll n (pairs.map (·.2))) :
    Nests (n + 1) (.ofMembers pairs) where
  nest_eq := by rw [nest_ofMembers, h.nest_eq]
  legible := Schema.legible_ofMembers (List.forall_mem_map.1 h.legible)
  isSome_read catalog origin depth := by
    cases depth with
    | zero => simp [Schema.readDeep_any, Schema.readBody, Schema.innerAt, Json.ofMembers]
    | succ depth =>
      rw [Schema.isSome_readDeep_ofMembers, isSome_mapValues?_iff, h.isSome_read,
        Nat.add_le_add_iff_right]

end Json

/-! ## Trees of objects -/

namespace Projection

open Json

mutual

/-- The tree of a value that is walked to the end nests as many containers as the value. -/
theorem exists_nests_walk {limit depth : Nat} {path : String} {marker : Option LeafKind}
    {ls : List Leaf} {v : Value} (h : walk limit path depth marker v = ⟨ls, none⟩) :
    ∃ j, v.json? = some j ∧ Nests v.nest j := by
  cases v with
  | bool _ | char _ | text _ | absent | unit | unitRecord _ | unitVariant _ _ =>
    refine ⟨_, by rw [Value.json?], ?_⟩
    exact nests_scalar rfl trivial fun _ _ => rfl
  | int n =>
    have hlow := n.le_toInt
    have hhigh := n.toInt_lt
    exact ⟨_, by rw [Value.json?], nests_ofInt (by unfold wordEnd; omega)
      (by unfold UInt64.size; omega)⟩
  | nat n =>
    have hhigh := n.toNat_lt
    exact ⟨_, by rw [Value.json?], nests_ofInt (by unfold wordEnd; omega)
      (by unfold UInt64.size; omega)⟩
  | single x =>
    exact ⟨_, by rw [Value.json?], nests_ofFloat Binary.isSome_double?_numeral_single⟩
  | double x => exact ⟨_, by rw [Value.json?], nests_ofFloat Binary.isSome_double?_numeral⟩
  | wide _ _ | bytes _ | refusal _ =>
    simp only [walk] at h
    exact absurd h fail_ne_found
  | present v | wrapped _ v =>
    simp only [walk] at h
    obtain ⟨j, hj, hnests⟩ := exists_nests_walk h
    exact ⟨j, by rw [Value.json?, hj], by rwa [Value.nest]⟩
  | sequence vs | tuple vs | tupleRecord _ vs =>
    simp only [walk] at h
    obtain ⟨js, hjs, hnest⟩ := exists_nestAll_walkItems (guarded_eq_found.1 h).2
    exact ⟨.array js, by rw [Value.json?, hjs]; rfl, by rw [Value.nest]; exact hnest.array⟩
  | map entries =>
    simp only [walk] at h
    obtain ⟨pairs, hpairs, hnest⟩ := exists_nestAll_walkEntries (guarded_eq_found.1 h).2
    exact ⟨.ofMembers pairs, by rw [Value.json?, hpairs]; rfl,
      by rw [Value.nest]; exact hnest.ofMembers⟩
  | keyless v =>
    simp only [walk] at h
    exact absurd (guarded_eq_found.1 h).2 fail_ne_found
  | record _ fields =>
    simp only [walk] at h
    obtain ⟨pairs, hpairs, hnest⟩ := exists_nestAll_walkFields (guarded_eq_found.1 h).2
    exact ⟨.ofMembers pairs, by rw [Value.json?, hpairs]; rfl,
      by rw [Value.nest]; exact hnest.ofMembers⟩
  | variant _ tag v =>
    simp only [walk] at h
    obtain ⟨j, hj, hnests⟩ := exists_nests_walk (guarded_eq_found.1 h).2
    have hmember : Nests (max v.nest 0 + 1) (.ofMembers [(tag, j)]) :=
      NestAll.ofMembers (hnests.cons nestAll_nil)
    rw [Nat.max_zero] at hmember
    exact ⟨.ofMembers [(tag, j)], by rw [Value.json?, hj]; rfl, by rwa [Value.nest]⟩

theorem exists_nestAll_walkItems {limit depth : Nat} {path : String} {ls : List Leaf}
    {vs : List Value} (h : walkItems limit path depth vs = ⟨ls, none⟩) :
    ∃ js, Value.jsonItems? vs = some js ∧ NestAll (Value.nestItems vs) js := by
  cases vs with
  | nil => exact ⟨[], by rw [Value.jsonItems?], nestAll_nil⟩
  | cons v vs =>
    simp only [walkItems] at h
    obtain ⟨as, bs, has, hbs, -⟩ := followedBy_eq_found.1 h
    obtain ⟨j, hj, hnests⟩ := exists_nests_walk has
    obtain ⟨js, hjs, hnest⟩ := exists_nestAll_walkItems hbs
    exact ⟨j :: js, by rw [Value.jsonItems?, hj, hjs]; rfl, hnests.cons hnest⟩

theorem exists_nestAll_walkEntries {limit depth : Nat} {path : String} {ls : List Leaf}
    {entries : List (Value × Value)}
    (h : walkEntries limit path depth entries = ⟨ls, none⟩) :
    ∃ pairs : List (String × Json),
      Value.jsonEntries? entries = some (pairs.map fun (name, j) => (some name, j)) ∧
        NestAll (Value.nestEntries entries) (pairs.map (·.2)) := by
  cases entries with
  | nil => exact ⟨[], by rw [Value.jsonEntries?]; rfl, nestAll_nil⟩
  | cons entry entries =>
    obtain ⟨k, v⟩ := entry
    simp only [walkEntries] at h
    split at h
    next => exact absurd h fail_ne_found
    next name hk =>
      obtain ⟨as, bs, has, hbs, -⟩ := followedBy_eq_found.1 h
      obtain ⟨j, hj, hnests⟩ := exists_nests_walk has
      obtain ⟨pairs, hpairs, hnest⟩ := exists_nestAll_walkEntries hbs
      exact ⟨(name, j) :: pairs,
        by rw [Value.jsonEntries?, keyText?_of_segment hk, hj, hpairs]; rfl, hnests.cons hnest⟩

theorem exists_nestAll_walkFields {limit depth : Nat} {path : String} {ls : List Leaf}
    {fields : List (String × Value)} (h : walkFields limit path depth fields = ⟨ls, none⟩) :
    ∃ pairs : List (String × Json),
      Value.jsonFields? fields = some (pairs.map fun (name, j) => (some name, j)) ∧
        NestAll (Value.nestFields fields) (pairs.map (·.2)) := by
  cases fields with
  | nil => exact ⟨[], by rw [Value.jsonFields?]; rfl, nestAll_nil⟩
  | cons field fields =>
    obtain ⟨name, v⟩ := field
    simp only [walkFields] at h
    obtain ⟨as, bs, has, hbs, -⟩ := followedBy_eq_found.1 h
    obtain ⟨j, hj, hnests⟩ := exists_nests_walk has
    obtain ⟨pairs, hpairs, hnest⟩ := exists_nestAll_walkFields hbs
    exact ⟨(name, j) :: pairs, by rw [Value.jsonFields?, hj, hpairs]; rfl, hnests.cons hnest⟩

end

end Projection

end FieldSearch
