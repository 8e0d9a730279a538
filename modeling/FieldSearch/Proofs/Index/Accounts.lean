import FieldSearch.Proofs.Index.RoundTrip
import FieldSearch.Proofs.Mapping.Written
import FieldSearch.Proofs.Number.Shortest

/-!
# Floats through an index

Accounts carry a float, and JSON has no numeral for a float that is not finite: it is written as
null, which no schema of floats reads. So an account with such a balance is added without a
failure and cannot be read again, and a query for all accounts fails because of it. Every finite
balance is read, though not always to the last digit.

Main statement: `Account.toList_query_accounts`, with a closed case of the failure,
`Account.undecodable_nan`.
-/

namespace FieldSearch

/-- An account. -/
@[ext]
structure Account where
  id : Int64
  owner : String
  balance : Double

namespace Account

variable {catalog : Catalog} {origin : Origin} {a : Account}

/-- An account as its type describes it. -/
def value (a : Account) : Value :=
  .record "Account" [("id", .int a.id), ("owner", .text a.owner), ("balance", .double a.balance)]

/-- The shape of accounts. -/
def schema : Schema :=
  .record "Account" [("id", .signed 64, none), ("owner", .text, none), ("balance", .double, none)]

/-- The type of accounts, under a name. -/
def type (name : String) : ObjectType := { name := name, schema := schema }

/-! ## The payload -/

/-- The members of an account in its payload. -/
def members (a : Account) : List (String × Json) :=
  [("id", .ofInt a.id.toInt), ("owner", .ofString a.owner),
    ("balance", .ofFloat Json.doubleLayout a.balance)]

/-- The tree of an account. -/
def tree (a : Account) : Json := .ofMembers a.members

/-- The account as it is read: with the balance that its numeral is read as, if it has one. -/
def readBack? (a : Account) : Option Account :=
  if a.balance.isFinite then
    (Json.double? (Json.doubleLayout.numeral a.balance)).map fun x => { a with balance := x }
  else none

lemma isSome_readBack? : a.readBack?.isSome = true ↔ a.balance.isFinite = true := by
  unfold readBack?
  split
  next hfinite =>
    rw [Option.isSome_map, Binary.isSome_double?_numeral hfinite]
    simp [hfinite]
  next hnot => simp [hnot]

/-- What is read differs in the balance at most. -/
lemma readBack?_eq_some {b : Account} (h : a.readBack? = some b) :
    b.id = a.id ∧ b.owner = a.owner ∧
      Json.double? (Json.doubleLayout.numeral a.balance) = some b.balance := by
  unfold readBack? at h
  split at h
  · obtain ⟨x, hx, rfl⟩ := Option.map_eq_some_iff.1 h
    exact ⟨rfl, rfl, hx⟩
  · contradiction

lemma legible_tree : a.tree.Legible := by
  refine ⟨Numeral.grammatical_ofInt _, trivial, ?_, trivial⟩
  unfold Json.ofFloat
  split
  · exact a.balance.grammatical_numeral _
  · trivial

lemma readDeep_double (depth : Nat) (x : Double) :
    Schema.readDeep catalog origin depth .double (.ofFloat Json.doubleLayout x) =
      if x.isFinite then (Json.double? (Json.doubleLayout.numeral x)).map .double else none := by
  unfold Json.ofFloat
  split <;> cases depth <;> rfl

/-- The balance decides whether an account is read. -/
lemma readDeep_tree (depth : Nat) :
    Schema.readDeep catalog origin (depth + 1) schema a.tree = a.readBack?.map value := by
  have hid : Schema.readDeep catalog origin depth (.signed 64) (.ofInt a.id.toInt) =
      some (.int a.id) := by
    have hlow := a.id.le_toInt
    have hhigh := a.id.toInt_lt
    exact (Schema.keeps_signed (by norm_num; omega) (by norm_num; omega)).read depth (Nat.zero_le _)
  have howner : Schema.readDeep catalog origin depth .text (.ofString a.owner) =
      some (.text a.owner) := by
    cases depth <;> rfl
  have hfields := Schema.readFields_named (Schema.readDeep catalog origin depth)
    [("id", .signed 64, none), ("owner", .text, none), ("balance", .double, none)] a.members
    (by decide) rfl
  refine (congrArg (Option.bind · fun fields => some (Value.record "Account" fields))
    hfields).trans ?_
  simp only [members, List.zip_cons_cons, List.zip_nil_right, List.mapM_cons, List.mapM_nil, hid,
    howner, readDeep_double, readBack?]
  split
  · cases Json.double? (Json.doubleLayout.numeral a.balance) <;> rfl
  · rfl

lemma payload?_value (actual : TypeIdentity) :
    Envelope.payload? actual a.value = some (Envelope.payloadTree actual a.tree).text := rfl

/-! ## Reading documents -/

section Documents

variable {m : FieldMapper} {name : String} {d : Document}

/-- What the document of an account is read as. -/
def readBack (a : Account) (name : String) : Except Error Value :=
  match a.readBack? with
  | some b => .ok b.value
  | none => .error (.undecodable name)

lemma reconstruct_stored_eq {types : RecordedTypes} (h : m.Maps types a.value d)
    (hstore : m.config.storeSource = true) :
    FieldMapper.reconstruct (type name) d.stored = a.readBack name := by
  have hsource := (h.source_eq hstore (payload?_value types.actual)).2
  have hread : Envelope.readPayload? (type name) (Envelope.payloadTree types.actual a.tree).text =
      a.readBack?.map value := by
    rw [Envelope.readPayload?_text _ _ legible_tree]
    exact readDeep_tree 125
  rw [FieldMapper.reconstruct, Envelope.decode_eq hsource, hread, readBack]
  cases a.readBack? <;> rfl

/-- No account is refused. -/
lemma exists_toDocument (a : Account) (conventions : FieldConventions) (types : RecordedTypes)
    (clock : WriteClock) :
    ∃ d, ((FieldMapper.mk {} conventions).toDocument a.value types clock).1 = .ok d := by
  have hproject : ∃ p, (FieldMapper.mk {} conventions).project a.value = .ok p := ⟨_, rfl⟩
  obtain ⟨p, hp⟩ := hproject
  exact FieldMapper.exists_toDocument hp types clock

end Documents

/-! ## Lists of accounts -/

section Lists

variable {accounts : List Account} (name : String)

/-- Accounts with finite balances are read one by one. -/
lemma mapM_readBack_of_finite (h : ∀ a ∈ accounts, a.balance.isFinite = true) :
    ∃ read : List Account, (accounts.mapM fun a => a.readBack name) = .ok (read.map value) ∧
      List.Forall₂ (fun a b => a.readBack? = some b) accounts read := by
  induction accounts with
  | nil => exact ⟨[], rfl, .nil⟩
  | cons a accounts ih =>
    rw [List.forall_mem_cons] at h
    obtain ⟨b, hb⟩ := Option.isSome_iff_exists.1 (isSome_readBack?.2 h.1)
    obtain ⟨read, hread, hsame⟩ := ih h.2
    refine ⟨b :: read, ?_, .cons hb hsame⟩
    rw [List.mapM_cons, hread, readBack, hb]
    rfl

/-- One balance that is not finite is enough for none of the accounts to be read. -/
lemma mapM_readBack_of_not_finite (h : ∃ a ∈ accounts, a.balance.isFinite = false) :
    (accounts.mapM fun a => a.readBack name) = .error (.undecodable name) := by
  induction accounts with
  | nil =>
    obtain ⟨a, ha, -⟩ := h
    exact absurd ha List.not_mem_nil
  | cons a accounts ih =>
    rw [List.mapM_cons, readBack]
    cases hread : a.readBack? with
    | none => rfl
    | some b =>
      have hfinite : a.balance.isFinite = true :=
        isSome_readBack?.1 (Option.isSome_iff_exists.2 ⟨b, hread⟩)
      obtain ⟨a', ha', hnot⟩ := h
      obtain rfl | htail := List.mem_cons.1 ha'
      · rw [hfinite] at hnot
        contradiction
      · rw [ih ⟨a', htail, hnot⟩]
        rfl

end Lists

/-! ## The index -/

/-- Accounts are all added, and a query for them collects what each of them is read as. -/
lemma toList_eq_mapM_readBack {ω : Type} (config : IndexConfig) (conventions : FieldConventions)
    (name : String) {accounts : List Account} (hlength : accounts.length ≤ maxCount)
    (s : IndexState MemoryEngine ω) (hempty : s.engine = {}) :
    let i : ObjectIndex MemoryEngine :=
      .withMapper MemoryEngine.engine config { conventions := conventions }
    let added := (accounts.map value).forM (i.add (type name)) s
    added.1 = .ok () ∧
      ((i.query (type name)).toList MemoryEngine.engine added.2.engine).1 =
        accounts.mapM fun a => a.readBack name := by
  intro i added
  have hadded : added.1 = .ok () :=
    ObjectIndex.forM_add_eq_ok rfl (List.forall_mem_map.2 fun a _ clock =>
      a.exists_toDocument conventions _ clock)
  obtain ⟨ds, hmaps, hengine⟩ :=
    ObjectIndex.forM_add_cases (i := i) rfl (Prod.ext hadded rfl : added = (.ok (), added.2))
  have hread : List.Forall₂
      (fun a d => FieldMapper.reconstruct (type name) d.stored = a.readBack name) accounts ds :=
    (List.forall₂_map_left_iff.1 hmaps).imp fun a d hd => reconstruct_stored_eq hd rfl
  rw [hread.length_eq] at hlength
  rw [hengine, hempty]
  exact ⟨hadded, (ObjectIndex.toList_of_written (ObjectIndex.writes_of_maps hmaps) hlength).trans
    (ObjectIndex.mapM_eq_of_forall₂ hread)⟩

/-- Accounts are added without a failure, whatever their balances. If all balances are finite, a
query for accounts returns one for each that was added, with the balance that its numeral is read
as. If one balance is not, the query fails. -/
theorem toList_query_accounts {ω : Type} (config : IndexConfig) (conventions : FieldConventions)
    (name : String) (accounts : List Account) (hlength : accounts.length ≤ maxCount)
    (clock : WriteClock) (surroundings : ω) :
    let i : ObjectIndex MemoryEngine :=
      .withMapper MemoryEngine.engine config { conventions := conventions }
    let added := (accounts.map value).forM (i.add (type name)) ⟨{}, clock, surroundings⟩
    let found := ((i.query (type name)).toList MemoryEngine.engine added.2.engine).1
    added.1 = .ok () ∧
      ((∀ a ∈ accounts, a.balance.isFinite = true) →
        ∃ read : List Account, found = .ok (read.map value) ∧
          List.Forall₂ (fun a b => b.id = a.id ∧ b.owner = a.owner ∧
            Json.double? (Json.doubleLayout.numeral a.balance) = some b.balance) accounts read) ∧
      ((∃ a ∈ accounts, a.balance.isFinite = false) → found = .error (.undecodable name)) := by
  intro i added found
  obtain ⟨hadded, hfound⟩ := toList_eq_mapM_readBack config conventions name hlength
    ⟨{}, clock, surroundings⟩ rfl
  refine ⟨hadded, fun hfinite => ?_, fun hnot => ?_⟩
  · obtain ⟨read, hread, hsame⟩ := mapM_readBack_of_finite name hfinite
    exact ⟨read, hfound.trans hread, hsame.imp fun a b => readBack?_eq_some⟩
  · exact hfound.trans (mapM_readBack_of_not_finite name hnot)

/-- An account with a balance of twelve comes back alone, and no longer once an account without a
number for its balance is added. -/
theorem toList_query_accounts_two :
    let ann : Account := ⟨1, "ann", Format.double.ofInt 12⟩
    let bob : Account := ⟨2, "bob", Format.double.nan⟩
    let i : ObjectIndex MemoryEngine := .withMapper MemoryEngine.engine { executor := ⟨1⟩ } {}
    let s₀ : IndexState MemoryEngine Unit := ⟨{}, ⟨fun _ => 100, 0, 0⟩, ()⟩
    let found (accounts : List Account) : Except Error (List Value) :=
      ((i.query (type "Account")).toList MemoryEngine.engine
        ((accounts.map value).forM (i.add (type "Account")) s₀).2.engine).1
    [ann, bob].length ≤ maxCount ∧ (∀ a ∈ [ann], a.balance.isFinite = true) ∧
      (∃ a ∈ [ann, bob], a.balance.isFinite = false) ∧
      found [ann] = .ok [ann.value] ∧ found [ann, bob] = .error (.undecodable "Account") := by
  intro ann bob i s₀ found
  have hlength : [ann, bob].length ≤ maxCount := by decide
  have hfinite : ∀ a ∈ [ann], a.balance.isFinite = true := by decide +kernel
  have hnot : ∃ a ∈ [ann, bob], a.balance.isFinite = false := by decide +kernel
  obtain ⟨read, hfound, hsame⟩ := (toList_query_accounts { executor := ⟨1⟩ } {} "Account" [ann]
    (by decide) ⟨fun _ => 100, 0, 0⟩ ()).2.1 hfinite
  obtain ⟨b, rest, ⟨hid, howner, hbalance⟩, hrest, rfl⟩ := List.forall₂_cons_left_iff.1 hsame
  obtain rfl := List.forall₂_nil_left_iff.1 hrest
  have htwelve : Json.double? (Json.doubleLayout.numeral (Format.double.ofInt 12)) =
      some (Format.double.ofInt 12) := by decide +kernel
  have hann : b = ann :=
    Account.ext hid howner (Option.some.inj (hbalance.symm.trans htwelve))
  rw [hann] at hfound
  exact ⟨hlength, hfinite, hnot, hfound, (toList_query_accounts { executor := ⟨1⟩ } {} "Account"
    [ann, bob] hlength ⟨fun _ => 100, 0, 0⟩ ()).2.2 hnot⟩

/-- An account that was added without a failure and that no query for accounts can read. -/
theorem undecodable_nan :
    let account : ObjectType := type "driver::zoo::Account"
    let i : ObjectIndex MemoryEngine := .withMapper MemoryEngine.engine { executor := ⟨1⟩ } {}
    let s₀ : IndexState MemoryEngine Unit := ⟨{}, ⟨fun _ => 100, 0, 0⟩, ()⟩
    let added := [value ⟨1, "ann", Format.double.nan⟩].forM (i.add account) s₀
    added.1 = .ok () ∧ ((i.query account).toList MemoryEngine.engine added.2.engine).1 =
      .error (.undecodable "driver::zoo::Account") := by
  intro account i s₀ added
  obtain ⟨hadded, hfound⟩ := toList_eq_mapM_readBack { executor := ⟨1⟩ } {} "driver::zoo::Account"
    (by decide : [(⟨1, "ann", Format.double.nan⟩ : Account)].length ≤ maxCount) s₀ rfl
  exact ⟨hadded, hfound.trans (mapM_readBack_of_not_finite _ ⟨_, List.mem_cons_self, rfl⟩)⟩

end Account

end FieldSearch
