import FieldSearch.Proofs.Number.Shortest
import FieldSearch.Proofs.Object.Described

/-!
# Trees that are read alike

An object can be read from the tree of its text, or from the tree after it was settled. The two
differ in general: a settled tree has forgotten all but the last member of a name, it is settled as
a whole where a reader passes over what it does not know, and then the content of a variant may be
no array for its fields and no empty array for its values.

`Schema.ReadsAlike` says of a tree that settling makes no difference, failures included: reading it
at some depth is settling it at that depth and reading it then. Before settling it is read as it was
written, or by the rules of a settled tree already. It holds of scalars under any schema, and every
kind of container has a rule that asks for it of the parts at one level less. The level is the same
for settling and for reading, so either may run out of levels first. The rules for objects ask for
names that differ, and the rule for records asks that every member is one of a field. The two ways
to read before settling differ in one rule only: an empty variant is nothing in a settled tree, so
it is not read alike as it was written (`Schema.ReadsAlike.inlineTuple`).
-/

namespace FieldSearch

/-! ## Scalars -/

/-- A tree without other trees in it. -/
def Json.IsScalar : Json → Prop
  | .null | .bool _ | .number _ | .string (some _) => True
  | _ => False

namespace Schema

variable {catalog : Catalog} {origin : Origin} {s : Schema} {j : Json}

/-- A scalar is read without its surroundings. -/
lemma readBody_scalar (hj : j.IsScalar) (inner : Option (Schema → Json → Option Value))
    (s : Schema) : readBody origin inner s j = readBody .written none s j := by
  cases j with
  | null | bool _ | number _ => cases s <;> first | rfl | (cases inner <;> cases origin <;> rfl)
  | string text =>
    cases text with
    | none => exact hj.elim
    | some text => cases s <;> first | rfl | (cases inner <;> cases origin <;> rfl)
  | array _ | object _ | nameless _ => exact hj.elim

lemma readWith_scalar (hj : j.IsScalar) (inner : Option (Schema → Json → Option Value))
    (s : Schema) : readWith catalog origin inner s j = readWith catalog .written none s j := by
  cases s with
  | option s =>
    have h := readWith_scalar hj inner s
    cases j <;> simp only [readWith, h]
  | wrapped type s => simp only [readWith, readWith_scalar hj inner s]
  | named type => simp only [readWith, readBody_scalar hj inner]
  | _ => exact readBody_scalar hj inner _

/-- A numeral that is no number of any kind is read as nothing. -/
lemma readWith_numeral {n : Numeral} (hinteger : n.integer? = none) (hscaled : n.scaled? = none)
    (inner : Option (Schema → Json → Option Value)) (s : Schema) :
    readWith catalog origin inner s (.number n) = none := by
  have hbody (s : Schema) : readBody origin inner s (.number n) = none := by
    cases s
    case signed | unsigned | instantTicks | durationTicks =>
      simp only [readBody, readInteger, Json.integer?, hinteger]
      rfl
    case single => simp only [readBody, Json.single?, hinteger, hscaled, Option.map_none]
    case double => simp only [readBody, Json.double?, hinteger, hscaled, Option.map_none]
    case any => simp only [readBody, readNumber, hinteger, hscaled, Option.map_none]
    case record | inline => cases inner <;> cases origin <;> rfl
    all_goals rfl
  cases s with
  | option s => simp only [readWith, readWith_numeral hinteger hscaled inner s, Option.map_none]
  | wrapped type s =>
    simp only [readWith, readWith_numeral hinteger hscaled inner s, Option.map_none]
  | named type =>
    simp only [readWith, hbody]
    cases catalog type <;> rfl
  | _ => exact hbody _

/-! ## Reading before and after settling -/

/-- What a tree is read as at one level, which may be settled at that level and read then at that
level or more. -/
structure ReadsAlike (catalog : Catalog) (origin : Origin) (s : Schema) (j : Json) : Prop where
  legible : j.Legible
  reads : ∀ {depth level : Nat}, depth ≤ level →
    (j.settle depth).bind (readDeep catalog .settled level s) = readDeep catalog origin depth s j

lemma settle_scalar (hj : j.IsScalar) (depth : Nat) :
    j.settle depth = some j ∨ ∃ n, j = .number n ∧ n.integer? = none ∧ n.scaled? = none ∧
      j.settle depth = none := by
  cases j with
  | null | bool _ => cases depth <;> exact .inl rfl
  | string text =>
    cases text with
    | none => exact hj.elim
    | some _ => cases depth <;> exact .inl rfl
  | number n =>
    have hsettle : (Json.number n).settle depth =
        if n.integer?.isSome || n.scaled?.isSome then some (.number n) else none := by
      cases depth <;> rfl
    rw [hsettle]
    split
    next => exact .inl rfl
    next hnone =>
      obtain ⟨hinteger, hscaled⟩ : n.integer? = none ∧ n.scaled? = none := by
        simpa using hnone
      exact .inr ⟨n, rfl, hinteger, hscaled, rfl⟩
  | array _ | object _ | nameless _ => exact hj.elim

lemma readsAlike_scalar (hj : j.IsScalar) (hlegible : j.Legible) (s : Schema) :
    ReadsAlike catalog origin s j where
  legible := hlegible
  reads {depth level} _ := by
    rw [readDeep_eq, readWith_scalar hj]
    obtain hsettle | ⟨n, rfl, hinteger, hscaled, hsettle⟩ := settle_scalar hj depth
    · rw [hsettle, Option.bind_some, readDeep_eq, readWith_scalar hj]
    · rw [hsettle, Option.bind_none, readWith_numeral hinteger hscaled]

/-- Only null is settled as null. -/
lemma ne_null_of_settle {depth : Nat} {j' : Json} (hj : j ≠ .null) (h : j.settle depth = some j') :
    j' ≠ .null := by
  rintro rfl
  cases j with
  | null => exact hj rfl
  | string text => cases text <;> cases depth <;> simp [Json.settle, Json.settleWith] at h
  | _ => cases depth <;> simp [Json.settle, Json.settleWith, Option.bind_eq_some_iff] at h

lemma readDeep_option (hj : j ≠ .null) (depth : Nat) (s : Schema) :
    readDeep catalog origin depth (.option s) j =
      (readDeep catalog origin depth s j).map .present := by
  rw [readDeep_eq, readDeep_eq, readWith]
  exact hj

lemma ReadsAlike.option (h : ReadsAlike catalog origin s j) :
    ReadsAlike catalog origin (.option s) j where
  legible := h.legible
  reads {depth level} hle := by
    have hreads := h.reads hle
    by_cases hnull : j = .null
    · subst hnull
      exact (readsAlike_scalar (j := .null) trivial trivial (.option s)).reads hle
    · rw [readDeep_option hnull, ← hreads]
      cases hsettle : j.settle depth with
      | none => rfl
      | some j' =>
        rw [Option.bind_some, Option.bind_some,
          readDeep_option (ne_null_of_settle hnull hsettle)]

lemma readDeep_wrapped (depth : Nat) (type : String) (s : Schema) (j : Json) :
    readDeep catalog origin depth (.wrapped type s) j =
      (readDeep catalog origin depth s j).map (.wrapped type) := by
  rw [readDeep_eq, readDeep_eq, readWith]

lemma ReadsAlike.wrapped (type : String) (h : ReadsAlike catalog origin s j) :
    ReadsAlike catalog origin (.wrapped type s) j where
  legible := h.legible
  reads {depth level} hle := by
    rw [readDeep_wrapped, ← h.reads hle]
    cases j.settle depth with
    | none => rfl
    | some j' => rw [Option.bind_some, Option.bind_some, readDeep_wrapped]

/-- Under a name options, wrapping types and other names are read as nothing. -/
lemma readBody_cases (catalog : Catalog) (s : Schema) :
    (∀ origin inner j, readBody origin inner s j = none) ∨
      ∀ origin inner j, readBody origin inner s j = readWith catalog origin inner s j := by
  cases s with
  | option s | wrapped type s | named type =>
    refine .inl fun origin inner j => ?_
    cases j <;> rfl
  | _ => exact .inr fun _ _ _ => rfl

/-- A name is read as what it stands for, or as nothing. -/
lemma readDeep_named {name : String} (hname : catalog name = some s) :
    (∀ origin depth j, readDeep catalog origin depth (.named name) j = none) ∨
      ∀ origin depth j,
        readDeep catalog origin depth (.named name) j = readDeep catalog origin depth s j := by
  have hnamed (origin : Origin) (depth : Nat) (j : Json) :
      readDeep catalog origin depth (.named name) j =
        readBody origin (innerAt catalog origin depth) s j := by
    rw [readDeep_eq, readWith, hname, Option.bind_some]
  obtain hbody | hbody := readBody_cases catalog s
  · exact .inl fun _ _ _ => by rw [hnamed, hbody]
  · exact .inr fun _ _ _ => by rw [hnamed, hbody, readDeep_eq]

lemma ReadsAlike.named {name : String} (hname : catalog name = some s)
    (h : ReadsAlike catalog origin s j) : ReadsAlike catalog origin (.named name) j where
  legible := h.legible
  reads {depth level} hle := by
    obtain hnamed | hnamed := readDeep_named hname
    · have hfun : readDeep catalog .settled level (.named name) = fun _ => none :=
        funext (hnamed _ _)
      rw [hnamed, hfun, Option.bind_fun_none]
    · have hfun : readDeep catalog .settled level (.named name) =
          readDeep catalog .settled level s := funext (hnamed _ _)
      rw [hnamed, hfun, h.reads hle]

/-! ## Arrays -/

/-- Two steps for each item, or one step for all items and then the other one: a failure is a
failure, wherever it is. -/
lemma mapM_bind_mapM {α β γ : Type} {read : α → Option β} {again : β → Option γ}
    {both : α → Option γ} {l : List α} (h : ∀ a ∈ l, (read a).bind again = both a) :
    (l.mapM read).bind (List.mapM again) = l.mapM both := by
  induction l with
  | nil => rfl
  | cons a l ih =>
    rw [List.forall_mem_cons] at h
    rw [List.mapM_cons, List.mapM_cons, ← h.1, ← ih h.2]
    cases read a with
    | none => rfl
    | some b =>
      cases l.mapM read with
      | none => exact (Option.bind_fun_none (again b)).symm
      | some bs => exact List.mapM_cons

lemma mapM_congr {α β : Type} {f g : α → Option β} {l : List α} (h : ∀ a ∈ l, f a = g a) :
    l.mapM f = l.mapM g := by
  induction l with
  | nil => rfl
  | cons a l ih =>
    rw [List.forall_mem_cons] at h
    rw [List.mapM_cons, List.mapM_cons, h.1, ih h.2]

lemma mapM_eq_none {α β : Type} {f : α → Option β} {l : List α} {a : α} (ha : a ∈ l)
    (h : f a = none) : l.mapM f = none := by
  induction l with
  | nil => cases ha
  | cons b l ih =>
    rw [List.mapM_cons]
    rcases List.mem_cons.1 ha with rfl | ha
    · rw [h]
      rfl
    · rw [ih ha]
      exact Option.bind_fun_none (f b)

lemma mapM_ne_nil {α β : Type} {f : α → Option β} {l : List α} {r : List β}
    (h : l.mapM f = some r) (hl : l ≠ []) : r ≠ [] := by
  rintro rfl
  obtain ⟨a, l, rfl⟩ := List.exists_cons_of_ne_nil hl
  rw [List.mapM_cons] at h
  simp [Option.bind_eq_some_iff] at h

lemma legible_array {js : List Json} (h : ∀ j ∈ js, j.Legible) : (Json.array js).Legible := by
  have hitems : Json.LegibleItems js := by
    induction js with
    | nil => trivial
    | cons j js ih =>
      rw [List.forall_mem_cons] at h
      exact ⟨h.1, ih h.2⟩
  exact hitems

/-- An array is read alike if what is done with its items makes no difference between settling
them first and reading them as they were written. -/
lemma readsAlike_array {js : List Json} (build : List Value → Value)
    (items : (Schema → Json → Option Value) → List Json → Option (List Value))
    (hs : ∀ origin depth js', readDeep catalog origin (depth + 1) s (.array js') =
      (items (readDeep catalog origin depth) js').map build)
    (hzero : ∀ js', readDeep catalog origin 0 s (.array js') = none)
    (hlegible : ∀ j ∈ js, j.Legible)
    (hitems : ∀ {depth level}, depth ≤ level → (js.mapM (Json.settle depth)).bind
      (items (readDeep catalog .settled level)) = items (readDeep catalog origin depth) js) :
    ReadsAlike catalog origin s (.array js) where
  legible := legible_array hlegible
  reads {depth level} hle := by
    cases depth with
    | zero => exact (hzero js).symm
    | succ depth =>
      obtain ⟨level, rfl⟩ : ∃ k, level = k + 1 := ⟨level - 1, by omega⟩
      rw [hs, Json.settle_array, ← hitems (Nat.le_of_succ_le_succ hle)]
      cases js.mapM (Json.settle depth) with
      | none => rfl
      | some js' => rw [Option.map_some, Option.bind_some, Option.bind_some, hs]

lemma mapM_settled {js : List Json} (h : ∀ j ∈ js, ReadsAlike catalog origin s j)
    {depth level : Nat} (hle : depth ≤ level) :
    (js.mapM (Json.settle depth)).bind (List.mapM (readDeep catalog .settled level s)) =
      js.mapM (readDeep catalog origin depth s) :=
  mapM_bind_mapM fun j hj => (h j hj).reads hle

lemma readDeep_sequence (origin : Origin) (depth : Nat) (js : List Json) :
    readDeep catalog origin (depth + 1) (.sequence s) (.array js) =
      (js.mapM (readDeep catalog origin depth s)).map .sequence := by
  rw [Option.map_eq_bind]
  rfl

lemma ReadsAlike.sequence {js : List Json} (h : ∀ j ∈ js, ReadsAlike catalog origin s j) :
    ReadsAlike catalog origin (.sequence s) (.array js) :=
  readsAlike_array .sequence (fun inner => List.mapM (inner s)) readDeep_sequence (fun _ => rfl)
    (fun j hj => (h j hj).legible) (mapM_settled h)

/-- Values of any type are read as a sequence of such values. -/
lemma ReadsAlike.anySequence {js : List Json} (h : ∀ j ∈ js, ReadsAlike catalog origin .any j) :
    ReadsAlike catalog origin .any (.array js) :=
  readsAlike_array .sequence (fun inner => List.mapM (inner .any))
    (fun _ _ _ => by rw [Option.map_eq_bind]; rfl) (fun _ => rfl) (fun j hj => (h j hj).legible)
    (mapM_settled h)

lemma readTuple_cons (inner : Schema → Json → Option Value) (s : Schema) (ss : List Schema)
    (j : Json) (js : List Json) :
    readTuple inner (s :: ss) (j :: js) =
      (inner s j).bind fun v => (readTuple inner ss js).map (v :: ·) := by
  simp only [readTuple, List.length_cons, Nat.add_right_cancel_iff]
  split
  next hlength =>
    rw [List.zip_cons_cons, List.mapM_cons]
    exact congrArg (Option.bind (inner s j)) (funext fun v => Option.map_eq_bind.symm)
  next => exact (Option.bind_fun_none _).symm

lemma readTuple_settled {ss : List Schema} {js : List Json} {depth level : Nat}
    (hlength : js.length = ss.length) (h : ∀ p ∈ ss.zip js, ReadsAlike catalog origin p.1 p.2)
    (hle : depth ≤ level) :
    (js.mapM (Json.settle depth)).bind (readTuple (readDeep catalog .settled level) ss) =
      readTuple (readDeep catalog origin depth) ss js := by
  induction js generalizing ss with
  | nil =>
    obtain rfl := List.length_eq_zero_iff.1 hlength.symm
    rfl
  | cons j js ih =>
    obtain ⟨s, ss, rfl⟩ := List.exists_cons_of_length_eq_add_one hlength.symm
    rw [List.zip_cons_cons, List.forall_mem_cons] at h
    rw [List.mapM_cons, readTuple_cons, ← h.1.reads hle, ← ih (Nat.succ.inj hlength) h.2]
    cases j.settle depth with
    | none => rfl
    | some j' =>
      cases js.mapM (Json.settle depth) with
      | none => exact (Option.bind_fun_none _).symm
      | some js' => exact readTuple_cons ..

lemma legible_of_zip {ss : List Schema} {js : List Json} (hlength : js.length = ss.length)
    (h : ∀ p ∈ ss.zip js, ReadsAlike catalog origin p.1 p.2) : ∀ j ∈ js, j.Legible := by
  intro j hj
  obtain ⟨i, hi, rfl⟩ := List.getElem_of_mem hj
  have hzip : i < (ss.zip js).length := by
    rw [List.length_zip]
    omega
  have hmem : (ss.zip js)[i] ∈ ss.zip js := List.getElem_mem hzip
  rw [List.getElem_zip] at hmem
  exact (h _ hmem).legible

lemma readDeep_tuple (ss : List Schema) (origin : Origin) (depth : Nat) (js : List Json) :
    readDeep catalog origin (depth + 1) (.tuple ss) (.array js) =
      (readTuple (readDeep catalog origin depth) ss js).map .tuple := by
  rw [Option.map_eq_bind]
  rfl

lemma readDeep_tupleRecord (type : String) (ss : List Schema) (origin : Origin) (depth : Nat)
    (js : List Json) :
    readDeep catalog origin (depth + 1) (.tupleRecord type ss) (.array js) =
      (readTuple (readDeep catalog origin depth) ss js).map (.tupleRecord type) := by
  rw [Option.map_eq_bind]
  rfl

lemma ReadsAlike.tuple {ss : List Schema} {js : List Json} (hlength : js.length = ss.length)
    (h : ∀ p ∈ ss.zip js, ReadsAlike catalog origin p.1 p.2) :
    ReadsAlike catalog origin (.tuple ss) (.array js) :=
  readsAlike_array .tuple (fun inner => readTuple inner ss) (readDeep_tuple ss) (fun _ => rfl)
    (legible_of_zip hlength h) (readTuple_settled hlength h)

lemma ReadsAlike.tupleRecord (type : String) {ss : List Schema} {js : List Json}
    (hlength : js.length = ss.length) (h : ∀ p ∈ ss.zip js, ReadsAlike catalog origin p.1 p.2) :
    ReadsAlike catalog origin (.tupleRecord type ss) (.array js) :=
  readsAlike_array (.tupleRecord type) (fun inner => readTuple inner ss)
    (readDeep_tupleRecord type ss) (fun _ => rfl) (legible_of_zip hlength h)
    (readTuple_settled hlength h)

/-- The values of a variant are those of a tuple, but for an empty array in a settled tree. -/
lemma readDeep_inlineTuple (ss : List Schema) (origin : Origin) (depth : Nat) {js : List Json}
    (h : origin = .written ∨ js ≠ []) :
    readDeep catalog origin depth (.inlineTuple ss) (.array js) =
      readDeep catalog origin depth (.tuple ss) (.array js) := by
  cases origin with
  | written => cases depth <;> rfl
  | settled =>
    cases js with
    | nil => simp at h
    | cons j js => cases depth <;> rfl

lemma readDeep_inlineTuple_nil (ss : List Schema) (depth : Nat) :
    readDeep catalog .settled depth (.inlineTuple ss) (.array []) = none := by
  cases depth <;> rfl

lemma ReadsAlike.inlineTuple {ss : List Schema} {js : List Json} (hlength : js.length = ss.length)
    (h : ∀ p ∈ ss.zip js, ReadsAlike catalog origin p.1 p.2)
    (hempty : origin = .settled ∨ js ≠ []) :
    ReadsAlike catalog origin (.inlineTuple ss) (.array js) where
  legible := legible_array (legible_of_zip hlength h)
  reads {depth level} hle := by
    have htuple := (ReadsAlike.tuple hlength h).reads hle
    by_cases hjs : js = []
    · obtain rfl := hempty.resolve_right (· hjs)
      subst hjs
      rw [readDeep_inlineTuple_nil]
      cases depth with
      | zero => rfl
      | succ depth => exact readDeep_inlineTuple_nil ss level
    · rw [readDeep_inlineTuple ss origin depth (.inr hjs), ← htuple]
      cases depth with
      | zero => rfl
      | succ depth =>
        rw [Json.settle_array]
        cases hsettle : js.mapM (Json.settle depth) with
        | none => rfl
        | some js' =>
          exact readDeep_inlineTuple ss .settled level (.inr (mapM_ne_nil hsettle hjs))

/-! ## Objects -/

lemma legible_ofMembers {pairs : List (String × Json)} (h : ∀ p ∈ pairs, p.2.Legible) :
    (Json.ofMembers pairs).Legible := by
  induction pairs with
  | nil => trivial
  | cons p pairs ih =>
    rw [List.forall_mem_cons] at h
    exact ⟨h.1, ih h.2⟩

/-- An object is read alike if what is done with its members makes no difference between settling
and sorting them first and reading them as they were written. -/
lemma readsAlike_ofMembers {pairs : List (String × Json)} {α : Type} (build : α → Value)
    (members : (Schema → Json → Option Value) → List (String × Json) → Option α)
    (hs : ∀ origin depth pairs, readDeep catalog origin (depth + 1) s (.ofMembers pairs) =
      (members (readDeep catalog origin depth) pairs).map build)
    (hzero : ∀ pairs, readDeep catalog origin 0 s (.ofMembers pairs) = none)
    (hlegible : ∀ p ∈ pairs, p.2.Legible)
    (hmembers : ∀ {depth level}, depth ≤ level →
      ((mapValues? (Json.settle depth) pairs).bind fun settled =>
        members (readDeep catalog .settled level) (sortEntries settled)) =
          members (readDeep catalog origin depth) pairs) :
    ReadsAlike catalog origin s (.ofMembers pairs) where
  legible := legible_ofMembers hlegible
  reads {depth level} hle := by
    cases depth with
    | zero => exact (hzero pairs).symm
    | succ depth =>
      obtain ⟨level, rfl⟩ : ∃ k, level = k + 1 := ⟨level - 1, by omega⟩
      rw [hs, Json.settle_ofMembers, ← hmembers (Nat.le_of_succ_le_succ hle)]
      cases mapValues? (Json.settle depth) pairs with
      | none => rfl
      | some settled => rw [Option.map_some, Option.bind_some, Option.bind_some, hs]

/-- The entries of a map, in order of their names. -/
def readTable (inner : Json → Option Value) (pairs : List (String × Json)) :
    Option (List (String × Value)) :=
  (mapValues? inner pairs).map sortEntries

/-- The map of entries. -/
def tableOf (entries : List (String × Value)) : Value :=
  .map (entries.map fun (name, v) => (.text name, v))

lemma readTable_settled {pairs : List (String × Json)} (hnames : (pairs.map (·.1)).Nodup)
    (h : ∀ p ∈ pairs, ReadsAlike catalog origin s p.2) {depth level : Nat} (hle : depth ≤ level) :
    ((mapValues? (Json.settle depth) pairs).bind fun settled =>
      readTable (readDeep catalog .settled level s) (sortEntries settled)) =
        readTable (readDeep catalog origin depth s) pairs := by
  have hread : (mapValues? (Json.settle depth) pairs).bind
      (mapValues? (readDeep catalog .settled level s)) =
        mapValues? (readDeep catalog origin depth s) pairs :=
    mapValues?_bind fun p hp => (h p hp).reads hle
  rw [readTable, ← hread]
  cases hsettled : mapValues? (Json.settle depth) pairs with
  | none => rfl
  | some settled =>
    have hnodup : (settled.map (·.1)).Nodup := by rwa [names_mapValues? hsettled]
    exact mapValues?_sortEntries _ hnodup

lemma readDeep_table (origin : Origin) (depth : Nat) (pairs : List (String × Json)) :
    readDeep catalog origin (depth + 1) (.table s) (.ofMembers pairs) =
      (readTable (readDeep catalog origin depth s) pairs).map tableOf := by
  rw [readTable, Option.map_map, Option.map_eq_bind]
  exact congrArg (Option.bind · _) (Json.namedMembers?_ofMembers pairs)

lemma ReadsAlike.table {pairs : List (String × Json)} (hnames : (pairs.map (·.1)).Nodup)
    (h : ∀ p ∈ pairs, ReadsAlike catalog origin s p.2) :
    ReadsAlike catalog origin (.table s) (.ofMembers pairs) :=
  readsAlike_ofMembers tableOf (fun inner => readTable (inner s)) readDeep_table (fun _ => rfl)
    (fun p hp => (h p hp).legible) (readTable_settled hnames h)

/-- Members of any type are read as a map of such values. -/
lemma ReadsAlike.anyTable {pairs : List (String × Json)} (hnames : (pairs.map (·.1)).Nodup)
    (h : ∀ p ∈ pairs, ReadsAlike catalog origin .any p.2) :
    ReadsAlike catalog origin .any (.ofMembers pairs) :=
  readsAlike_ofMembers tableOf (fun inner => readTable (inner .any))
    (fun origin depth pairs => by
      rw [readTable, Option.map_map, Option.map_eq_bind]
      exact congrArg (Option.bind · _) (Json.namedMembers?_ofMembers pairs))
    (fun _ => rfl) (fun p hp => (h p hp).legible) (readTable_settled hnames h)

/-! ## Records -/

/-- A field of a record, from the member with its name if there is one. -/
def readMember (inner : Schema → Json → Option Value) (f : String × Schema × Option Value)
    (j : Option Json) : Option (String × Value) :=
  match j with
  | some j => (inner f.2.1 j).map (f.1, ·)
  | none =>
    match f.2.2 with
    | some v => some (f.1, v)
    | none => if f.2.1.isOption then some (f.1, .absent) else none

lemma readFields_ofMembers (inner : Schema → Json → Option Value)
    (fields : List (String × Schema × Option Value)) {pairs : List (String × Json)}
    (hnames : (pairs.map (·.1)).Nodup) :
    readFields inner fields (.ofMembers pairs) =
      fields.mapM fun f => readMember inner f (pairs.lookup f.1) := by
  simp only [readFields, fields?_ofMembers hnames, Option.bind_eq_bind, Option.bind_some,
    List.map_map, ← List.map_prod_left_eq_zip, List.mapM_map]
  refine mapM_congr fun f _ => ?_
  obtain ⟨name, s, default⟩ := f
  simp only [Function.comp_apply, readMember]
  cases pairs.lookup name <;> cases default <;> simp

/-- Members of a record: each has the name of a field and is read alike under it. -/
structure MembersAlike (catalog : Catalog) (origin : Origin)
    (fields : List (String × Schema × Option Value)) (pairs : List (String × Json)) : Prop where
  names : (pairs.map (·.1)).Nodup
  known : ∀ p ∈ pairs, ∃ f ∈ fields, f.1 = p.1
  alike : ∀ p ∈ pairs, ∀ f ∈ fields, f.1 = p.1 → ReadsAlike catalog origin f.2.1 p.2

section

variable {fields : List (String × Schema × Option Value)} {pairs : List (String × Json)}

lemma MembersAlike.legible (h : MembersAlike catalog origin fields pairs) :
    ∀ p ∈ pairs, p.2.Legible := by
  intro p hp
  obtain ⟨f, hf, hname⟩ := h.known p hp
  exact (h.alike p hp f hf hname).legible

lemma MembersAlike.readFields_settled (h : MembersAlike catalog origin fields pairs)
    {depth level : Nat} (hle : depth ≤ level) :
    ((mapValues? (Json.settle depth) pairs).bind fun settled =>
      readFields (readDeep catalog .settled level) fields (.ofMembers (sortEntries settled))) =
        readFields (readDeep catalog origin depth) fields (.ofMembers pairs) := by
  rw [readFields_ofMembers _ _ h.names]
  cases hsettled : mapValues? (Json.settle depth) pairs with
  | none =>
    -- A member that is not settled is not read either, and there is a field that asks for it.
    obtain ⟨p, hp, hsettle⟩ := exists_of_mapValues?_eq_none hsettled
    obtain ⟨f, hf, hname⟩ := h.known p hp
    have hreads := (h.alike p hp f hf hname).reads hle
    rw [hsettle, Option.bind_none] at hreads
    have hlookup : pairs.lookup f.1 = some p.2 := by
      rw [hname]
      exact (lookup_eq_some_iff_mem h.names).2 hp
    refine (mapM_eq_none hf ?_).symm
    rw [hlookup, readMember, ← hreads]
    rfl
  | some settled =>
    have hnodup : (settled.map (·.1)).Nodup := names_mapValues? hsettled ▸ h.names
    have hsorted := ((perm_sortEntries hnodup).map (·.1)).nodup_iff.2 hnodup
    rw [Option.bind_some, readFields_ofMembers _ _ hsorted]
    refine mapM_congr fun f hf => ?_
    rw [lookup_sortEntries hnodup, lookup_mapValues? hsettled]
    cases hlookup : pairs.lookup f.1 with
    | none => rfl
    | some j =>
      have hmem : (f.1, j) ∈ pairs := (lookup_eq_some_iff_mem h.names).1 hlookup
      obtain ⟨j', -, hj'⟩ := exists_read_of_mapValues? hsettled hmem
      have hreads := (h.alike _ hmem f hf rfl).reads hle
      rw [hj', Option.bind_some] at hreads
      simp only [Option.bind_some, hj', readMember, hreads]

lemma readDeep_record (type : String) (fields : List (String × Schema × Option Value))
    (origin : Origin) (depth : Nat) (pairs : List (String × Json)) :
    readDeep catalog origin (depth + 1) (.record type fields) (.ofMembers pairs) =
      (readFields (readDeep catalog origin depth) fields (.ofMembers pairs)).map
        (.record type) := by
  rw [Option.map_eq_bind]
  rfl

lemma MembersAlike.record (type : String) (h : MembersAlike catalog origin fields pairs) :
    ReadsAlike catalog origin (.record type fields) (.ofMembers pairs) :=
  readsAlike_ofMembers (.record type)
    (fun inner pairs => readFields inner fields (.ofMembers pairs)) (readDeep_record type fields)
    (fun _ => rfl) h.legible h.readFields_settled

/-- The fields of a variant are those of a record, as long as they are members. -/
lemma readDeep_inline (tag : String) (fields : List (String × Schema × Option Value))
    (origin : Origin) (depth : Nat) (pairs : List (String × Json)) :
    readDeep catalog origin depth (.inline tag fields) (.ofMembers pairs) =
      readDeep catalog origin depth (.record tag fields) (.ofMembers pairs) := by
  cases depth <;> cases origin <;> rfl

/-- The content of a variant is an object, and stays one when it is settled. -/
lemma MembersAlike.inline (tag : String) (h : MembersAlike catalog origin fields pairs) :
    ReadsAlike catalog origin (.inline tag fields) (.ofMembers pairs) :=
  readsAlike_ofMembers (.record tag)
    (fun inner pairs => readFields inner fields (.ofMembers pairs))
    (fun origin depth pairs => by rw [readDeep_inline, readDeep_record])
    (fun _ => by rw [readDeep_inline]; rfl) h.legible h.readFields_settled

end

/-! ## Variants -/

lemma readDeep_variant {type tag : String} {variants : List (String × Option Schema)}
    (htag : variants.lookup tag = some (some s)) (origin : Origin) (depth : Nat) (j : Json) :
    readDeep catalog origin (depth + 1) (.choice type variants) (.ofMembers [(tag, j)]) =
      (readDeep catalog origin depth s j).map (.variant type tag) := by
  rw [Option.map_eq_bind]
  exact congrArg (Option.bind · _) htag

lemma ReadsAlike.variant {type tag : String} {variants : List (String × Option Schema)}
    (htag : variants.lookup tag = some (some s)) (h : ReadsAlike catalog origin s j) :
    ReadsAlike catalog origin (.choice type variants) (.ofMembers [(tag, j)]) where
  legible := ⟨h.legible, trivial⟩
  reads {depth level} hle := by
    cases depth with
    | zero => rfl
    | succ depth =>
      obtain ⟨level, rfl⟩ : ∃ k, level = k + 1 := ⟨level - 1, by omega⟩
      rw [readDeep_variant htag, Json.settle_ofMembers, ← h.reads (Nat.le_of_succ_le_succ hle),
        mapValues?_cons]
      cases j.settle depth with
      | none => rfl
      | some j' => exact readDeep_variant htag .settled level j'

end Schema

end FieldSearch
