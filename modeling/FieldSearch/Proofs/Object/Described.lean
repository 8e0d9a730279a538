import FieldSearch.Object.Schema
import FieldSearch.Proofs.Json.RoundTrip
import FieldSearch.Proofs.Json.Settling
import FieldSearch.Proofs.Mapping.Nesting

/-!
# Values that a schema describes

`Schema.Describes` is the part of the schemas whose values are kept as they are in a payload:
integers, truth values, texts, options that do not nest, sequences, and records of these with names
that differ. Every such value has a legible tree, and the schema reads the same value back from
it at any depth that holds the containers of the value (`Schema.Describes.exists_keeps`).

An option needs the tree of what it holds not to be null, since null stands for its absence; so
the tree of every other described value is told apart from null.
-/

namespace FieldSearch

/-- A loop whose steps all succeed. -/
lemma mapM_eq_pure {m : Type → Type} [Monad m] [LawfulMonad m] {α β : Type} {f : α → m β}
    {g : α → β} {l : List α} (h : ∀ a ∈ l, f a = pure (g a)) : l.mapM f = pure (l.map g) := by
  induction l with
  | nil => rfl
  | cons a l ih =>
    rw [List.forall_mem_cons] at h
    rw [List.mapM_cons, h.1, ih h.2, pure_bind, pure_bind, List.map_cons]

namespace Schema

variable {catalog : Catalog} {origin : Origin}

mutual

/-- A value of the shape of a schema, of the kinds that a payload keeps. -/
inductive Describes (catalog : Catalog) : Schema → Value → Prop
  | bool (b : Bool) : Describes catalog .bool (.bool b)
  | signed {bits : Nat} {n : Int64} (hlow : -Nat.pow 2 (bits - 1) ≤ n.toInt)
      (hhigh : n.toInt ≤ Nat.pow 2 (bits - 1) - 1) : Describes catalog (.signed bits) (.int n)
  | unsigned {bits : Nat} {n : UInt64} (h : (n.toNat : Int) ≤ Nat.pow 2 bits - 1) :
      Describes catalog (.unsigned bits) (.nat n)
  | text (s : String) : Describes catalog .text (.text s)
  | absent (s : Schema) : Describes catalog (.option s) .absent
  | present {s : Schema} {v : Value} (hs : s.isOption = false) (h : Describes catalog s v) :
      Describes catalog (.option s) (.present v)
  | sequence {s : Schema} {vs : List Value} (h : DescribesItems catalog s vs) :
      Describes catalog (.sequence s) (.sequence vs)
  | record (type : String) {fields : List (String × Schema × Option Value)}
      {values : List (String × Value)} (hnames : (fields.map (·.1)).Nodup)
      (h : DescribesFields catalog fields values) :
      Describes catalog (.record type fields) (.record type values)
  | named {name type : String} {fields : List (String × Schema × Option Value)} {v : Value}
      (hname : catalog name = some (.record type fields))
      (h : Describes catalog (.record type fields) v) : Describes catalog (.named name) v

/-- Values of one shape. -/
inductive DescribesItems (catalog : Catalog) : Schema → List Value → Prop
  | nil (s : Schema) : DescribesItems catalog s []
  | cons {s : Schema} {v : Value} {vs : List Value} (h : Describes catalog s v)
      (hs : DescribesItems catalog s vs) : DescribesItems catalog s (v :: vs)

/-- The values of the fields of a record, in their order. -/
inductive DescribesFields (catalog : Catalog) :
    List (String × Schema × Option Value) → List (String × Value) → Prop
  | nil : DescribesFields catalog [] []
  | cons (name : String) {s : Schema} (default : Option Value) {v : Value}
      {fields : List (String × Schema × Option Value)} {values : List (String × Value)}
      (h : Describes catalog s v) (hs : DescribesFields catalog fields values) :
      DescribesFields catalog ((name, s, default) :: fields) ((name, v) :: values)

end

/-! ## Records -/

/-- Of names that differ each occurs once. -/
lemma filter_name_eq {pairs : List (String × Json)} (hnames : (pairs.map (·.1)).Nodup)
    {p : String × Json} (hp : p ∈ pairs) : pairs.filter (·.1 = p.1) = [p] := by
  induction pairs with
  | nil => cases hp
  | cons q pairs ih =>
    rw [List.map_cons, List.nodup_cons] at hnames
    obtain ⟨hq, hnames⟩ := hnames
    rcases List.mem_cons.1 hp with rfl | hp
    · have hrest : pairs.filter (·.1 = p.1) = [] := by
        rw [List.filter_eq_nil_iff]
        intro q hmem heq
        exact hq (List.mem_map.2 ⟨q, hmem, of_decide_eq_true heq⟩)
      rw [List.filter_cons_of_pos (by simp), hrest]
    · have hne : q.1 ≠ p.1 := by
        intro h
        exact hq (h ▸ List.mem_map_of_mem hp)
      rw [List.filter_cons_of_neg (by simpa using hne), ih hnames hp]

/-- The members of an object whose names differ are found by their names. -/
lemma fields?_ofMembers {pairs : List (String × Json)} (hnames : (pairs.map (·.1)).Nodup)
    (names : List String) :
    Json.fields? names (.ofMembers pairs) =
      some (true, names.map fun name => pairs.lookup name) := by
  simp only [Json.fields?, Json.ofMembers, Json.namedMembers?_ofMembers, Option.bind_eq_bind,
    Option.bind_some]
  refine (congrArg (Option.bind · _) (mapM_eq_pure fun name _ => ?_)).trans rfl
  cases hlookup : pairs.lookup name with
  | none =>
    have hfilter : pairs.filter (·.1 = name) = [] := by
      rw [List.filter_eq_nil_iff]
      rintro ⟨k, j⟩ hmem hk
      obtain rfl : k = name := of_decide_eq_true hk
      rw [(lookup_eq_some_iff_mem hnames).2 hmem] at hlookup
      cases hlookup
    rw [hfilter]
    rfl
  | some j =>
    have hfilter : pairs.filter (·.1 = name) = [(name, j)] :=
      filter_name_eq hnames ((lookup_eq_some_iff_mem hnames).1 hlookup)
    rw [hfilter]
    rfl

/-- The fields of an object with these names, each once, are the trees of its members. -/
lemma fields?_named {pairs : List (String × Json)} (hnames : (pairs.map (·.1)).Nodup) :
    Json.fields? (pairs.map (·.1)) (.object (pairs.map fun (name, j) => (some name, j))) =
      some (true, pairs.map fun p => some p.2) := by
  refine (fields?_ofMembers hnames _).trans ?_
  rw [List.map_map]
  refine congrArg (fun js => some (true, js)) (List.map_congr_left fun p hp => ?_)
  exact (lookup_eq_some_iff_mem hnames).2 hp

/-- A record is read from an object with its names field by field. -/
lemma readFields_named (inner : Schema → Json → Option Value)
    (fields : List (String × Schema × Option Value)) (pairs : List (String × Json))
    (hnames : (fields.map (·.1)).Nodup) (hpairs : fields.map (·.1) = pairs.map (·.1)) :
    readFields inner fields (.object (pairs.map fun (name, j) => (some name, j))) =
      (fields.zip pairs).mapM fun (f, p) => (inner f.2.1 p.2).map (f.1, ·) := by
  rw [hpairs] at hnames
  simp only [readFields, hpairs, fields?_named hnames, Option.bind_eq_bind, Option.bind_some,
    List.zip_map_right, List.mapM_map]
  rfl

/-! ## Reading back -/

/-- What a container of so many levels holds is read with one level less. -/
def innerAt (catalog : Catalog) (origin : Origin) : Nat → Option (Schema → Json → Option Value)
  | 0 => none
  | depth + 1 => some (readDeep catalog origin depth)

lemma readDeep_eq (depth : Nat) (s : Schema) (j : Json) :
    readDeep catalog origin depth s j =
      readWith catalog origin (innerAt catalog origin depth) s j := by
  cases depth <;> rfl

/-- A tree that is written for a value and read as the same value. -/
structure Keeps (catalog : Catalog) (origin : Origin) (s : Schema) (v : Value) (j : Json) :
    Prop where
  json : v.json? = some j
  legible : j.Legible
  ne_null : s.isOption = false → j ≠ .null
  read : ∀ depth, v.nest ≤ depth → readDeep catalog origin depth s j = some v

lemma readInteger_ofInt {low high n : Int} (hlow : low ≤ n) (hhigh : n ≤ high)
    (hmin : -wordEnd ≤ n) (hmax : n < UInt64.size) :
    readInteger low high (.ofInt n) = some n := by
  have hinteger : (Json.ofInt n).integer? = some n := Numeral.integer?_ofInt hmin hmax
  rw [readInteger, hinteger]
  simp [hlow, hhigh]

lemma keeps_signed {bits : Nat} {n : Int64} (hlow : -Nat.pow 2 (bits - 1) ≤ n.toInt)
    (hhigh : n.toInt ≤ Nat.pow 2 (bits - 1) - 1) :
    Keeps catalog origin (.signed bits) (.int n) (.ofInt n.toInt) where
  json := rfl
  legible := Numeral.grammatical_ofInt _
  ne_null _ := by rintro ⟨⟩
  read depth _ := by
    have hmin := n.le_toInt
    have hmax := n.toInt_lt
    have hinteger := readInteger_ofInt hlow hhigh (by unfold wordEnd; omega)
      (by unfold UInt64.size; omega)
    rw [readDeep_eq]
    refine (congrArg (Option.map fun i => Value.int (.ofInt i)) hinteger).trans ?_
    rw [Option.map_some, Int64.ofInt_toInt]

lemma keeps_unsigned {bits : Nat} {n : UInt64} (h : (n.toNat : Int) ≤ Nat.pow 2 bits - 1) :
    Keeps catalog origin (.unsigned bits) (.nat n) (.ofInt n.toNat) where
  json := rfl
  legible := Numeral.grammatical_ofInt _
  ne_null _ := by rintro ⟨⟩
  read depth _ := by
    have hmax := n.toNat_lt
    have hinteger := readInteger_ofInt (Int.natCast_nonneg n.toNat) h (by unfold wordEnd; omega)
      (by unfold UInt64.size; omega)
    rw [readDeep_eq]
    refine (congrArg (Option.map fun i => Value.nat (.ofNat i.toNat)) hinteger).trans ?_
    rw [Option.map_some, Int.toNat_natCast, UInt64.ofNat_toNat]

/-- The trees of the values of a list, each kept under one schema. -/
structure KeepsItems (catalog : Catalog) (origin : Origin) (s : Schema) (vs : List Value)
    (js : List Json) : Prop where
  json : Value.jsonItems? vs = some js
  legible : Json.LegibleItems js
  read : ∀ depth, Value.nestItems vs ≤ depth → js.mapM (readDeep catalog origin depth s) = some vs

/-- The members of a record, each kept under the schema of its field. -/
structure KeepsFields (catalog : Catalog) (origin : Origin)
    (fields : List (String × Schema × Option Value)) (values : List (String × Value))
    (pairs : List (String × Json)) : Prop where
  json : Value.jsonFields? values = some (pairs.map fun (name, j) => (some name, j))
  legible : Json.LegibleMembers (pairs.map fun (name, j) => (some name, j))
  names : fields.map (·.1) = pairs.map (·.1)
  read : ∀ depth, Value.nestFields values ≤ depth →
    ((fields.zip pairs).mapM fun (f, p) =>
      (readDeep catalog origin depth f.2.1 p.2).map (f.1, ·)) = some values

section Keeps

variable {s : Schema} {v : Value} {j : Json}

lemma keeps_absent (s : Schema) : Keeps catalog origin (.option s) .absent .null where
  json := rfl
  legible := trivial
  ne_null h := by cases h
  read depth _ := by
    rw [readDeep_eq, readWith]

lemma Keeps.present (hs : s.isOption = false) (h : Keeps catalog origin s v j) :
    Keeps catalog origin (.option s) (.present v) j where
  json := h.json
  legible := h.legible
  ne_null h := by cases h
  read depth hdepth := by
    have hread := h.read depth hdepth
    rw [readDeep_eq] at hread ⊢
    rw [readWith, hread, Option.map_some]
    exact h.ne_null hs

lemma KeepsItems.sequence {vs : List Value} {js : List Json}
    (h : KeepsItems catalog origin s vs js) :
    Keeps catalog origin (.sequence s) (.sequence vs) (.array js) where
  json := by
    rw [Value.json?, h.json, Option.map_some]
  legible := h.legible
  ne_null _ := by rintro ⟨⟩
  read depth hdepth := by
    rw [Value.nest] at hdepth
    obtain ⟨k, rfl⟩ : ∃ k, depth = k + 1 := ⟨depth - 1, by omega⟩
    have hread := h.read k (by omega)
    exact (congrArg (Option.bind · _) hread).trans rfl

lemma KeepsFields.record (type : String) {fields : List (String × Schema × Option Value)}
    {values : List (String × Value)} {pairs : List (String × Json)}
    (hnames : (fields.map (·.1)).Nodup) (h : KeepsFields catalog origin fields values pairs) :
    Keeps catalog origin (.record type fields) (.record type values)
      (.object (pairs.map fun (name, j) => (some name, j))) where
  json := by
    rw [Value.json?, h.json, Option.map_some]
  legible := h.legible
  ne_null _ := by rintro ⟨⟩
  read depth hdepth := by
    rw [Value.nest] at hdepth
    obtain ⟨k, rfl⟩ : ∃ k, depth = k + 1 := ⟨depth - 1, by omega⟩
    have hread := h.read k (by omega)
    rw [← readFields_named _ _ _ hnames h.names] at hread
    exact (congrArg (Option.bind · _) hread).trans rfl

lemma Keeps.named {name type : String} {fields : List (String × Schema × Option Value)}
    (hname : catalog name = some (.record type fields))
    (h : Keeps catalog origin (.record type fields) v j) :
    Keeps catalog origin (.named name) v j where
  json := h.json
  legible := h.legible
  ne_null _ := h.ne_null rfl
  read depth hdepth := by
    have hread := h.read depth hdepth
    rw [readDeep_eq] at hread ⊢
    rw [readWith, hname]
    exact hread

lemma KeepsItems.cons {vs : List Value} {js : List Json} (h : Keeps catalog origin s v j)
    (hs : KeepsItems catalog origin s vs js) : KeepsItems catalog origin s (v :: vs) (j :: js) where
  json := by
    rw [Value.jsonItems?, h.json, hs.json]
    rfl
  legible := ⟨h.legible, hs.legible⟩
  read depth hdepth := by
    rw [Value.nestItems] at hdepth
    rw [List.mapM_cons, h.read depth (by omega), hs.read depth (by omega)]
    rfl

lemma KeepsFields.cons (name : String) (default : Option Value)
    {fields : List (String × Schema × Option Value)} {values : List (String × Value)}
    {pairs : List (String × Json)} (h : Keeps catalog origin s v j)
    (hs : KeepsFields catalog origin fields values pairs) :
    KeepsFields catalog origin ((name, s, default) :: fields) ((name, v) :: values)
      ((name, j) :: pairs) where
  json := by
    rw [Value.jsonFields?, h.json, hs.json]
    rfl
  legible := ⟨h.legible, hs.legible⟩
  names := congrArg (name :: ·) hs.names
  read depth hdepth := by
    rw [Value.nestFields] at hdepth
    rw [List.zip_cons_cons, List.mapM_cons, hs.read depth (by omega)]
    dsimp only
    rw [h.read depth (by omega)]
    rfl

end Keeps

mutual

/-- A described value is read back from its tree. -/
theorem Describes.exists_keeps {s : Schema} {v : Value} :
    Describes catalog s v → ∃ j, Keeps catalog origin s v j
  | .bool b =>
    ⟨.bool b, rfl, trivial, fun _ => by rintro ⟨⟩, fun depth _ => by cases depth <;> rfl⟩
  | .signed hlow hhigh => ⟨_, keeps_signed hlow hhigh⟩
  | .unsigned h => ⟨_, keeps_unsigned h⟩
  | .text t =>
    ⟨.ofString t, rfl, trivial, fun _ => by rintro ⟨⟩, fun depth _ => by cases depth <;> rfl⟩
  | .absent s => ⟨.null, keeps_absent s⟩
  | .present hs h =>
    have ⟨j, hj⟩ := h.exists_keeps
    ⟨j, hj.present hs⟩
  | .sequence h =>
    have ⟨js, hjs⟩ := h.exists_keeps
    ⟨.array js, hjs.sequence⟩
  | .record type hnames h =>
    have ⟨_, hpairs⟩ := h.exists_keeps
    ⟨_, hpairs.record type hnames⟩
  | .named hname h =>
    have ⟨j, hj⟩ := h.exists_keeps
    ⟨j, hj.named hname⟩

theorem DescribesItems.exists_keeps {s : Schema} {vs : List Value} :
    DescribesItems catalog s vs → ∃ js, KeepsItems catalog origin s vs js
  | .nil _ => ⟨[], rfl, trivial, fun _ _ => rfl⟩
  | .cons h hs =>
    have ⟨j, hj⟩ := h.exists_keeps
    have ⟨js, hjs⟩ := hs.exists_keeps
    ⟨j :: js, hjs.cons hj⟩

theorem DescribesFields.exists_keeps {fields : List (String × Schema × Option Value)}
    {values : List (String × Value)} :
    DescribesFields catalog fields values → ∃ pairs, KeepsFields catalog origin fields values pairs
  | .nil => ⟨[], rfl, trivial, rfl, fun _ _ => rfl⟩
  | .cons name default h hs =>
    have ⟨j, hj⟩ := h.exists_keeps
    have ⟨pairs, hpairs⟩ := hs.exists_keeps
    ⟨(name, j) :: pairs, hpairs.cons name default hj⟩

end

end Schema

end FieldSearch
