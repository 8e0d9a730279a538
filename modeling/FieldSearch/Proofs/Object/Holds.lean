import FieldSearch.Proofs.Object.Alike

/-!
# Values of a type

`Schema.Holds` says which values a type has: scalars, options, sequences, maps from text, tuples,
records, variants of all shapes and types around one of these, nested in any way. What is left out
cannot be projected: integers of 128 bits, bytes, and values that refuse to be written.

Nothing is asked of the values themselves. An integer may be beyond its type and a float may be no
number; such a value is not read back. Settling makes no difference to that either: the tree of a
value is read alike before and after (`Schema.Holds.readsAlike`, by induction over the value). Only
a variant of values without names that has none is lost: its tree is an empty array, which is read
as it was written and refused once it was settled. `Schema.Hollow` finds such variants in a value.
-/

namespace FieldSearch

/-- A value that is written as a tree without other trees in it. -/
def Value.isScalar : Value → Bool
  | bool _ | int _ | nat _ | single _ | double _ | char _ | text _ | absent | unit | unitRecord _
  | unitVariant _ _ => true
  | _ => false

namespace Schema

variable {catalog : Catalog} {s : Schema} {j : Json}

/-! ## Values of a type -/

/-- A value of the type that has the shape of a schema. Of the fields of a record some may be left
out, in any order; a field occurs once. The keys of a map differ. -/
inductive Holds (catalog : Catalog) : Schema → Value → Prop
  | bool (b : Bool) : Holds catalog .bool (.bool b)
  | signed (bits : Nat) (n : Int64) : Holds catalog (.signed bits) (.int n)
  | unsigned (bits : Nat) (n : UInt64) : Holds catalog (.unsigned bits) (.nat n)
  | single (x : Single) : Holds catalog .single (.single x)
  | double (x : Double) : Holds catalog .double (.double x)
  | char (c : Char) : Holds catalog .char (.char c)
  | text (t : String) : Holds catalog .text (.text t)
  | uuid (t : String) : Holds catalog .uuid (.text t)
  | instant (x : Instant) : Holds catalog .instant (.ofInstant x)
  | instantTicks (x : Instant) : Holds catalog .instantTicks (.ofInstantTicks x)
  | durationTicks (d : Duration) : Holds catalog .durationTicks (.ofDurationTicks d)
  | absent (s : Schema) : Holds catalog (.option s) .absent
  | present {s : Schema} {v : Value} (h : Holds catalog s v) :
      Holds catalog (.option s) (.present v)
  | unit : Holds catalog .unit .unit
  | unitRecord (type : String) : Holds catalog (.unitRecord type) (.unitRecord type)
  | wrapped (type : String) {s : Schema} {v : Value} (h : Holds catalog s v) :
      Holds catalog (.wrapped type s) (.wrapped type v)
  | sequence {s : Schema} {vs : List Value} (h : ∀ v ∈ vs, Holds catalog s v) :
      Holds catalog (.sequence s) (.sequence vs)
  | table {s : Schema} {entries : List (String × Value)} (hkeys : (entries.map (·.1)).Nodup)
      (h : ∀ e ∈ entries, Holds catalog s e.2) :
      Holds catalog (.table s) (tableOf entries)
  | tuple {ss : List Schema} {vs : List Value} (hlength : vs.length = ss.length)
      (h : ∀ p ∈ ss.zip vs, Holds catalog p.1 p.2) : Holds catalog (.tuple ss) (.tuple vs)
  | tupleRecord (type : String) {ss : List Schema} {vs : List Value}
      (hlength : vs.length = ss.length) (h : ∀ p ∈ ss.zip vs, Holds catalog p.1 p.2) :
      Holds catalog (.tupleRecord type ss) (.tupleRecord type vs)
  | record (type : String) {fields : List (String × Schema × Option Value)}
      {values : List (String × Value)} (hnames : (values.map (·.1)).Nodup)
      (hknown : ∀ e ∈ values, ∃ f ∈ fields, f.1 = e.1)
      (h : ∀ e ∈ values, ∀ f ∈ fields, f.1 = e.1 → Holds catalog f.2.1 e.2) :
      Holds catalog (.record type fields) (.record type values)
  | inline (tag : String) {fields : List (String × Schema × Option Value)}
      {values : List (String × Value)} (hnames : (values.map (·.1)).Nodup)
      (hknown : ∀ e ∈ values, ∃ f ∈ fields, f.1 = e.1)
      (h : ∀ e ∈ values, ∀ f ∈ fields, f.1 = e.1 → Holds catalog f.2.1 e.2) :
      Holds catalog (.inline tag fields) (.record tag values)
  | inlineTuple {ss : List Schema} {vs : List Value} (hlength : vs.length = ss.length)
      (h : ∀ p ∈ ss.zip vs, Holds catalog p.1 p.2) : Holds catalog (.inlineTuple ss) (.tuple vs)
  | unitVariant (type : String) {tag : String} {variants : List (String × Option Schema)}
      (htag : variants.lookup tag = some none) :
      Holds catalog (.choice type variants) (.unitVariant type tag)
  | variant (type : String) {tag : String} {variants : List (String × Option Schema)} {s : Schema}
      {v : Value} (htag : variants.lookup tag = some (some s)) (h : Holds catalog s v) :
      Holds catalog (.choice type variants) (.variant type tag v)
  | named {name : String} {s : Schema} {v : Value} (hname : catalog name = some s)
      (h : Holds catalog s v) : Holds catalog (.named name) v
  | anyScalar {v : Value} (hv : v.isScalar = true) : Holds catalog .any v
  | anySequence {vs : List Value} (h : ∀ v ∈ vs, Holds catalog .any v) :
      Holds catalog .any (.sequence vs)
  | anyTable {entries : List (String × Value)} (hkeys : (entries.map (·.1)).Nodup)
      (h : ∀ e ∈ entries, Holds catalog .any e.2) :
      Holds catalog .any (tableOf entries)

/-- A value with a variant of values without names that has none: the variant itself, or a
container or option around such a value. -/
inductive Hollow (catalog : Catalog) : Schema → Value → Prop
  | empty : Hollow catalog (.inlineTuple []) (.tuple [])
  | present {s : Schema} {v : Value} (h : Hollow catalog s v) :
      Hollow catalog (.option s) (.present v)
  | wrapped (type : String) {s : Schema} {v : Value} (h : Hollow catalog s v) :
      Hollow catalog (.wrapped type s) (.wrapped type v)
  | sequence {s : Schema} {vs : List Value} {v : Value} (hv : v ∈ vs) (h : Hollow catalog s v) :
      Hollow catalog (.sequence s) (.sequence vs)
  | table {s : Schema} {entries : List (String × Value)} {e : String × Value} (he : e ∈ entries)
      (h : Hollow catalog s e.2) : Hollow catalog (.table s) (tableOf entries)
  | tuple {ss : List Schema} {vs : List Value} {p : Schema × Value} (hp : p ∈ ss.zip vs)
      (h : Hollow catalog p.1 p.2) : Hollow catalog (.tuple ss) (.tuple vs)
  | tupleRecord (type : String) {ss : List Schema} {vs : List Value} {p : Schema × Value}
      (hp : p ∈ ss.zip vs) (h : Hollow catalog p.1 p.2) :
      Hollow catalog (.tupleRecord type ss) (.tupleRecord type vs)
  | record (type : String) {fields : List (String × Schema × Option Value)}
      {values : List (String × Value)} {e : String × Value} {f : String × Schema × Option Value}
      (he : e ∈ values) (hf : f ∈ fields) (hname : f.1 = e.1) (h : Hollow catalog f.2.1 e.2) :
      Hollow catalog (.record type fields) (.record type values)
  | inline (tag : String) {fields : List (String × Schema × Option Value)}
      {values : List (String × Value)} {e : String × Value} {f : String × Schema × Option Value}
      (he : e ∈ values) (hf : f ∈ fields) (hname : f.1 = e.1) (h : Hollow catalog f.2.1 e.2) :
      Hollow catalog (.inline tag fields) (.record tag values)
  | inlineTuple {ss : List Schema} {vs : List Value} {p : Schema × Value} (hp : p ∈ ss.zip vs)
      (h : Hollow catalog p.1 p.2) : Hollow catalog (.inlineTuple ss) (.tuple vs)
  | variant (type : String) {tag : String} {variants : List (String × Option Schema)} {s : Schema}
      {v : Value} (htag : variants.lookup tag = some (some s)) (h : Hollow catalog s v) :
      Hollow catalog (.choice type variants) (.variant type tag v)
  | named {name : String} {s : Schema} {v : Value} (hname : catalog name = some s)
      (h : Hollow catalog s v) : Hollow catalog (.named name) v

lemma not_hollow_any {v : Value} : ¬ Hollow catalog .any v := by
  rintro ⟨⟩

/-! ## Trees of values -/

lemma isScalar_of_json {v : Value} (hv : v.isScalar = true) (hj : v.json? = some j) :
    j.IsScalar ∧ j.Legible := by
  have hfloat {f : Format} (layout : FloatLayout) (x : Binary f) :
      (Json.ofFloat layout x).IsScalar ∧ (Json.ofFloat layout x).Legible := by
    unfold Json.ofFloat
    split
    · exact ⟨trivial, x.grammatical_numeral layout⟩
    · exact ⟨trivial, trivial⟩
  cases v with
  | int n | nat n =>
    obtain rfl := Option.some.inj hj
    exact ⟨trivial, Numeral.grammatical_ofInt _⟩
  | single x | double x =>
    obtain rfl := Option.some.inj hj
    exact hfloat _ x
  | bool _ | char _ | text _ | absent | unit | unitRecord _ | unitVariant _ _ =>
    obtain rfl := Option.some.inj hj
    exact ⟨trivial, trivial⟩
  | _ => cases hv

/-- The items of a list have trees, one for each. -/
lemma map_json_of_jsonItems? {vs : List Value} {js : List Json}
    (h : Value.jsonItems? vs = some js) : vs.map Value.json? = js.map some := by
  induction vs generalizing js with
  | nil =>
    obtain rfl := Option.some.inj h
    rfl
  | cons v vs ih =>
    rw [Value.jsonItems?] at h
    obtain ⟨j, hj, h⟩ := Option.bind_eq_some_iff.1 h
    obtain ⟨js', hjs', hjs⟩ := Option.bind_eq_some_iff.1 h
    obtain rfl := Option.some.inj hjs
    rw [List.map_cons, List.map_cons, hj, ih hjs']

section Items

variable {ss : List Schema} {vs : List Value} {js : List Json}
  (h : Value.jsonItems? vs = some js)
include h

lemma length_jsonItems? : js.length = vs.length := by
  simpa using congrArg List.length (map_json_of_jsonItems? h).symm

lemma exists_of_mem_jsonItems? (hj : j ∈ js) : ∃ v ∈ vs, v.json? = some j := by
  rw [← List.mem_map, map_json_of_jsonItems? h]
  exact List.mem_map_of_mem hj

lemma exists_json_of_mem {v : Value} (hv : v ∈ vs) : ∃ j ∈ js, v.json? = some j := by
  have hmem := List.mem_map_of_mem (f := Value.json?) hv
  rw [map_json_of_jsonItems? h] at hmem
  obtain ⟨j, hj, heq⟩ := List.mem_map.1 hmem
  exact ⟨j, hj, heq.symm⟩

/-- Trees and values stand under the same schemas. -/
lemma zip_jsonItems? : (ss.zip vs).map (Prod.map id Value.json?) =
    (ss.zip js).map (Prod.map id some) := by
  rw [← List.zip_map_right, ← List.zip_map_right, map_json_of_jsonItems? h]

lemma exists_of_mem_zip_jsonItems? {p : Schema × Json} (hp : p ∈ ss.zip js) :
    ∃ v, (p.1, v) ∈ ss.zip vs ∧ v.json? = some p.2 := by
  have hmem := List.mem_map_of_mem (f := Prod.map id some) hp
  rw [← zip_jsonItems? h] at hmem
  obtain ⟨q, hq, heq⟩ := List.mem_map.1 hmem
  obtain ⟨hs, hj⟩ : q.1 = p.1 ∧ q.2.json? = some p.2 := Prod.mk.inj heq
  exact ⟨q.2, hs ▸ hq, hj⟩

lemma exists_json_of_mem_zip {p : Schema × Value} (hp : p ∈ ss.zip vs) :
    ∃ j, (p.1, j) ∈ ss.zip js ∧ p.2.json? = some j := by
  have hmem := List.mem_map_of_mem (f := Prod.map id Value.json?) hp
  rw [zip_jsonItems? h] at hmem
  obtain ⟨q, hq, heq⟩ := List.mem_map.1 hmem
  obtain ⟨hs, hj⟩ : q.1 = p.1 ∧ some q.2 = p.2.json? := Prod.mk.inj heq
  exact ⟨q.2, hs ▸ hq, hj.symm⟩

end Items

/-- The tree of a map from text. -/
lemma json?_table (entries : List (String × Value)) :
    (tableOf entries).json? =
      (mapValues? Value.json? entries).map Json.ofMembers := by
  have hentries : Value.jsonEntries? (entries.map fun e => (.text e.1, e.2)) =
      (mapValues? Value.json? entries).map (List.map fun p => (some p.1, p.2)) := by
    induction entries with
    | nil => rfl
    | cons e entries ih =>
      obtain ⟨key, v⟩ := e
      rw [List.map_cons, Value.jsonEntries?, ih, mapValues?_cons]
      cases v.json? with
      | none => rfl
      | some j => cases mapValues? Value.json? entries <;> rfl
  rw [tableOf, Value.json?]
  exact (congrArg (Option.map Json.object) hentries).trans (Option.map_map ..)

/-- The tree of a record. -/
lemma json?_record (type : String) (values : List (String × Value)) :
    (Value.record type values).json? = (mapValues? Value.json? values).map Json.ofMembers := by
  have hfields : Value.jsonFields? values =
      (mapValues? Value.json? values).map (List.map fun p => (some p.1, p.2)) := by
    induction values with
    | nil => rfl
    | cons e values ih =>
      obtain ⟨name, v⟩ := e
      rw [Value.jsonFields?, ih, mapValues?_cons]
      cases v.json? with
      | none => rfl
      | some j => cases mapValues? Value.json? values <;> rfl
  rw [Value.json?, hfields, Option.map_map]
  rfl

/-! ## Reading them -/

variable {origin : Origin}

lemma readsAlike_json {v : Value} (hv : v.isScalar = true) (hj : v.json? = some j) (s : Schema) :
    ReadsAlike catalog origin s j :=
  have ⟨hscalar, hlegible⟩ := isScalar_of_json hv hj
  readsAlike_scalar hscalar hlegible s

lemma membersAlike {fields : List (String × Schema × Option Value)}
    {values : List (String × Value)} {pairs : List (String × Json)}
    (hpairs : mapValues? Value.json? values = some pairs) (hnames : (values.map (·.1)).Nodup)
    (hknown : ∀ e ∈ values, ∃ f ∈ fields, f.1 = e.1)
    (h : ∀ e ∈ values, ∀ f ∈ fields, f.1 = e.1 → ∀ {j}, e.2.json? = some j →
      ReadsAlike catalog origin f.2.1 j) : MembersAlike catalog origin fields pairs where
  names := names_mapValues? hpairs ▸ hnames
  known p hp := by
    obtain ⟨v, hv, -⟩ := exists_of_mem_mapValues? hpairs hp
    exact hknown _ hv
  alike p hp f hf hname := by
    obtain ⟨v, hv, hvj⟩ := exists_of_mem_mapValues? hpairs hp
    exact h _ hv f hf hname hvj

/-- Settling makes no difference to the tree of a value, under the schema of its type, unless it has
an empty variant and was read as it was written before. -/
theorem Holds.readsAlike {v : Value} (h : Holds catalog s v) (hj : v.json? = some j)
    (hfull : origin = .settled ∨ ¬ Hollow catalog s v) : ReadsAlike catalog origin s j := by
  induction h generalizing j with
  | bool | signed | unsigned | single | double | char | text | uuid | instant | absent | unit
  | unitRecord | unitVariant => exact readsAlike_json rfl hj _
  | anyScalar hv => exact readsAlike_json hv hj _
  | instantTicks x =>
    unfold Value.ofInstantTicks at hj
    split at hj
    next t _ => exact readsAlike_json (v := .int t) rfl hj _
    next => cases hj
  | durationTicks d =>
    unfold Value.ofDurationTicks at hj
    split at hj
    next t _ => exact readsAlike_json (v := .int t) rfl hj _
    next => cases hj
  | present _ ih => exact (ih hj (hfull.imp_right (mt .present))).option
  | wrapped type _ ih => exact (ih hj (hfull.imp_right (mt (.wrapped type)))).wrapped type
  | named hname _ ih => exact (ih hj (hfull.imp_right (mt (.named hname)))).named hname
  | sequence _ ih =>
    rw [Value.json?] at hj
    obtain ⟨js, hjs, rfl⟩ := Option.map_eq_some_iff.1 hj
    refine .sequence fun j hj => ?_
    obtain ⟨v, hv, hvj⟩ := exists_of_mem_jsonItems? hjs hj
    exact ih v hv hvj (hfull.imp_right (mt (.sequence hv)))
  | anySequence _ ih =>
    rw [Value.json?] at hj
    obtain ⟨js, hjs, rfl⟩ := Option.map_eq_some_iff.1 hj
    refine .anySequence fun j hj => ?_
    obtain ⟨v, hv, hvj⟩ := exists_of_mem_jsonItems? hjs hj
    exact ih v hv hvj (.inr not_hollow_any)
  | tuple hlength _ ih =>
    rw [Value.json?] at hj
    obtain ⟨js, hjs, rfl⟩ := Option.map_eq_some_iff.1 hj
    refine .tuple ((length_jsonItems? hjs).trans hlength) fun p hp => ?_
    obtain ⟨v, hv, hvj⟩ := exists_of_mem_zip_jsonItems? hjs hp
    exact ih _ hv hvj (hfull.imp_right (mt (.tuple hv)))
  | tupleRecord type hlength _ ih =>
    rw [Value.json?] at hj
    obtain ⟨js, hjs, rfl⟩ := Option.map_eq_some_iff.1 hj
    refine .tupleRecord type ((length_jsonItems? hjs).trans hlength) fun p hp => ?_
    obtain ⟨v, hv, hvj⟩ := exists_of_mem_zip_jsonItems? hjs hp
    exact ih _ hv hvj (hfull.imp_right (mt (.tupleRecord type hv)))
  | inlineTuple hlength _ ih =>
    rw [Value.json?] at hj
    obtain ⟨js, hjs, rfl⟩ := Option.map_eq_some_iff.1 hj
    refine .inlineTuple ((length_jsonItems? hjs).trans hlength) (fun p hp => ?_)
      (hfull.imp_right fun hfull => ?_)
    · obtain ⟨v, hv, hvj⟩ := exists_of_mem_zip_jsonItems? hjs hp
      exact ih _ hv hvj (hfull.imp_right (mt (.inlineTuple hv)))
    · rintro rfl
      obtain rfl := List.length_eq_zero_iff.1 (length_jsonItems? hjs).symm
      obtain rfl := List.length_eq_zero_iff.1 hlength.symm
      exact hfull .empty
  | table hkeys _ ih =>
    rw [json?_table] at hj
    obtain ⟨pairs, hpairs, rfl⟩ := Option.map_eq_some_iff.1 hj
    refine .table (names_mapValues? hpairs ▸ hkeys) fun p hp => ?_
    obtain ⟨v, hv, hvj⟩ := exists_of_mem_mapValues? hpairs hp
    exact ih _ hv hvj (hfull.imp_right (mt (.table hv)))
  | anyTable hkeys _ ih =>
    rw [json?_table] at hj
    obtain ⟨pairs, hpairs, rfl⟩ := Option.map_eq_some_iff.1 hj
    refine .anyTable (names_mapValues? hpairs ▸ hkeys) fun p hp => ?_
    obtain ⟨v, hv, hvj⟩ := exists_of_mem_mapValues? hpairs hp
    exact ih _ hv hvj (.inr not_hollow_any)
  | record type hnames hknown _ ih =>
    rw [json?_record] at hj
    obtain ⟨pairs, hpairs, rfl⟩ := Option.map_eq_some_iff.1 hj
    refine (membersAlike hpairs hnames hknown fun e he f hf hname j hj => ?_).record type
    exact ih e he f hf hname hj (hfull.imp_right (mt (.record type he hf hname)))
  | inline tag hnames hknown _ ih =>
    rw [json?_record] at hj
    obtain ⟨pairs, hpairs, rfl⟩ := Option.map_eq_some_iff.1 hj
    refine (membersAlike hpairs hnames hknown fun e he f hf hname j hj => ?_).inline tag
    exact ih e he f hf hname hj (hfull.imp_right (mt (.inline tag he hf hname)))
  | variant type htag _ ih =>
    rw [Value.json?] at hj
    obtain ⟨j', hj', rfl⟩ := Option.map_eq_some_iff.1 hj
    exact (ih hj' (hfull.imp_right (mt (.variant type htag)))).variant htag

end Schema

end FieldSearch
