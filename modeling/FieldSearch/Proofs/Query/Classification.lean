import FieldSearch.Proofs.Mapping.Walk
import FieldSearch.Proofs.Query.Paths

/-!
# Fields as they are written and as they are queried

The kind of a field is determined twice: a query reads it off the declared type of a property
(`DeclaredType.classify`), and a walk off the value that it finds, where a tick count is an
integer except for the name of the type around it. `projected_eq_resolved` says that both agree
on every value of a property's type: what the walk finds at a path of records has the name, the
family and the kind that the path has in a query, and got its options under that name and kind.

Types of integers of 128 bits have no field. That is said by the query when the path is resolved,
and by the walk when it comes by such a value, so that it finds no leaf there.
-/

namespace FieldSearch

/-! ## Values of properties -/

/-- The values of the types that a property may be declared with. Boxes are not seen. -/
inductive Schema.Carries : Schema → Value → Prop
  | bool (b : Bool) : Carries .bool (.bool b)
  | signed {bits : Nat} (h : bits ≤ 64) (n : Int64) : Carries (.signed bits) (.int n)
  | unsigned {bits : Nat} (h : bits ≤ 64) (n : UInt64) : Carries (.unsigned bits) (.nat n)
  | wideSigned {bits : Nat} (h : 64 < bits) (n : Int) : Carries (.signed bits) (.wide true n)
  | wideUnsigned {bits : Nat} (h : 64 < bits) (n : Int) : Carries (.unsigned bits) (.wide false n)
  | single (x : Single) : Carries .single (.single x)
  | double (x : Double) : Carries .double (.double x)
  | char (c : Char) : Carries .char (.char c)
  | text (t : String) : Carries .text (.text t)
  | uuid (t : String) : Carries .uuid (.text t)
  | instantTicks (x : Instant) : Carries .instantTicks (.ofInstantTicks x)
  | durationTicks (d : Duration) : Carries .durationTicks (.ofDurationTicks d)
  | absent (s : Schema) : Carries (.option s) .absent
  | present {s : Schema} {v : Value} (h : Carries s v) : Carries (.option s) (.present v)
  | sequence {s : Schema} {vs : List Value} (h : ∀ v ∈ vs, Carries s v) :
      Carries (.sequence s) (.sequence vs)

/-- A value inside another one, under the names of the fields that lead to it. Options that are
there are passed through. -/
inductive Value.At : Value → List String → Value → Prop
  | here (v : Value) : At v [] v
  | present {u v : Value} {names : List String} (h : u.At names v) : At (.present u) names v
  | field (type : String) {fields : List (String × Value)} {name : String} {u v : Value}
      {names : List String} (hu : (name, u) ∈ fields) (h : u.At names v) :
      At (.record type fields) (name :: names) v

namespace Projection

variable {limit depth : Nat} {path : String} {marker : Option LeafKind} {p q r : Projection}
  {l : Leaf}

/-! ## Leaves of a walk, failed or not -/

lemma mem_followedBy (h : l ∈ (p.followedBy q).leaves) : l ∈ p.leaves ∨ l ∈ q.leaves := by
  unfold followedBy at h
  split at h
  · exact .inl h
  · exact List.mem_append.1 h

lemma mem_guarded {check : Option Error} (h : l ∈ (guarded check p).leaves) : l ∈ p.leaves := by
  cases check with
  | some e => cases h
  | none => exact h

/-- A leaf is of the kind that a marker names if it is an integer, and of its own otherwise. -/
lemma mem_leaf {kind : LeafKind} {value : FieldValue} :
    l ∈ (leaf path marker kind value).leaves → l.path = path ∧ l.value = value ∧
      l.kind = match marker, value with
        | some marker, .long _ => marker
        | _, _ => kind := by
  intro h
  simp only [leaf] at h
  split at h
  · cases h
  · split at h
    · cases h
    · split at h
      · cases h
      · obtain rfl := List.mem_singleton.1 h
        exact ⟨rfl, rfl, rfl⟩

lemma mem_unsignedLeaf {n : UInt64} (h : l ∈ (unsignedLeaf path marker n).leaves) :
    ∃ w, l ∈ (leaf path marker .integer (.long w)).leaves := by
  unfold unsignedLeaf at h
  split at h
  · exact ⟨_, h⟩
  · cases h

lemma mem_walkItems {vs : List Value} (h : l ∈ (walkItems limit path depth vs).leaves) :
    ∃ v ∈ vs, l ∈ (walk limit path depth none v).leaves := by
  induction vs with
  | nil =>
    simp only [walkItems] at h
    cases h
  | cons v vs ih =>
    simp only [walkItems] at h
    obtain h | h := mem_followedBy h
    · exact ⟨v, List.mem_cons_self, h⟩
    · obtain ⟨u, hu, h⟩ := ih h
      exact ⟨u, List.mem_cons_of_mem v hu, h⟩

/-- A leaf of a value has the path of the value, and the kind of the value's declared type. -/
lemma kind_of_mem_walk {s : Schema} {v : Value} (hv : s.Carries v)
    (hl : l ∈ (walk limit path depth none v).leaves) :
    l.path = path ∧ (DeclaredType.ofSchema s).core = .leaf l.kind ∧
      l.value.semanticType = l.kind.semanticType := by
  induction hv generalizing depth with
  | bool b | single x | double x | char c | text t | uuid t =>
    simp only [walk] at hl
    obtain ⟨hpath, hvalue, hkind⟩ := mem_leaf hl
    rw [hpath, hvalue, hkind]
    exact ⟨rfl, rfl, rfl⟩
  | signed hbits n =>
    simp only [walk] at hl
    obtain ⟨hpath, hvalue, hkind⟩ := mem_leaf hl
    rw [hpath, hvalue, hkind, DeclaredType.ofSchema, if_pos hbits]
    exact ⟨rfl, rfl, rfl⟩
  | unsigned hbits n =>
    simp only [walk] at hl
    obtain ⟨w, hl⟩ := mem_unsignedLeaf hl
    obtain ⟨hpath, hvalue, hkind⟩ := mem_leaf hl
    rw [hpath, hvalue, hkind, DeclaredType.ofSchema, if_pos hbits]
    exact ⟨rfl, rfl, rfl⟩
  -- What is refused or absent leaves nothing that could differ from the declared kind.
  | wideSigned _ n | wideUnsigned _ n | absent s =>
    simp only [walk] at hl
    cases hl
  | instantTicks x =>
    unfold Value.ofInstantTicks at hl
    split at hl
    · simp only [walk] at hl
      obtain ⟨hpath, hvalue, hkind⟩ := mem_leaf hl
      rw [hpath, hvalue, hkind]
      exact ⟨rfl, rfl, rfl⟩
    · simp only [walk] at hl
      cases hl
  | durationTicks d =>
    unfold Value.ofDurationTicks at hl
    split at hl
    · simp only [walk] at hl
      obtain ⟨hpath, hvalue, hkind⟩ := mem_leaf hl
      rw [hpath, hvalue, hkind]
      exact ⟨rfl, rfl, rfl⟩
    · simp only [walk] at hl
      cases hl
  | present _ ih =>
    simp only [walk] at hl
    exact ih hl
  | sequence _ ih =>
    simp only [walk] at hl
    obtain ⟨v, hv, hl⟩ := mem_walkItems (mem_guarded hl)
    exact ih v hv hl

/-! ## The part of a walk below a path -/

lemma nothing_followedBy : nothing.followedBy p = p := by
  simp [followedBy, nothing]

lemma followedBy_nothing : p.followedBy nothing = p := by
  obtain ⟨ls, failure⟩ := p
  cases failure <;> simp [followedBy, nothing]

lemma followedBy_assoc : (p.followedBy q).followedBy r = p.followedBy (q.followedBy r) := by
  obtain ⟨ls, failure⟩ := p
  obtain ⟨ls', failure'⟩ := q
  cases failure with
  | some e => simp [followedBy]
  | none => cases failure' <;> simp [followedBy]

lemma guarded_eq_followedBy {check : Option Error} :
    guarded check p = (guarded check nothing).followedBy p := by
  cases check with
  | some e => simp [guarded, followedBy, fail]
  | none => simp only [guarded, nothing_followedBy]

lemma walkFields_append {fields fields' : List (String × Value)} :
    walkFields limit path depth (fields ++ fields') =
      (walkFields limit path depth fields).followedBy (walkFields limit path depth fields') := by
  induction fields with
  | nil => simp only [walkFields, nothing_followedBy, List.nil_append]
  | cons field fields ih =>
    obtain ⟨name, v⟩ := field
    simp only [walkFields, List.cons_append, ih, followedBy_assoc]

/-- The walk through a record is what comes before a value in it, the walk through the value, and
what comes after. -/
theorem exists_walk_of_at {root v : Value} {names : List String} (above : List String)
    (h : root.At names v) (habove : "" ∉ above) (hnames : "" ∉ names) :
    ∃ before after : Projection, walk limit (Path.ofNames above) depth none root =
      before.followedBy ((walk limit (Path.ofNames (above ++ names)) (depth + names.length)
        none v).followedBy after) := by
  induction h generalizing depth above with
  | here v => exact ⟨nothing, nothing, by simp [nothing_followedBy, followedBy_nothing]⟩
  | present _ ih =>
    rw [walk]
    exact ih above habove hnames
  | @field type fields name u v names hu _ ih =>
    -- The fields in front of this one are walked before it, and the others after it.
    obtain ⟨front, back, rfl⟩ := List.append_of_mem hu
    obtain ⟨hname, hnames⟩ : "" ≠ name ∧ "" ∉ names := by simpa using hnames
    obtain ⟨before, after, hwalk⟩ := @ih (depth + 1) (above ++ [name])
      (by simpa [habove] using hname) hnames
    rw [List.append_assoc, Nat.add_right_comm] at hwalk
    rw [walk, guarded_eq_followedBy, walkFields_append, walkFields, Path.join_ofNames habove,
      hwalk]
    refine ⟨(guarded (tooDeep limit (Path.ofNames above) depth) nothing).followedBy
        ((walkFields limit (Path.ofNames above) (depth + 1) front).followedBy before),
      after.followedBy (walkFields limit (Path.ofNames above) (depth + 1) back), ?_⟩
    simp only [followedBy_assoc]
    rfl

end Projection

/-! ## Written and queried fields -/

lemma Expr.IsChain.empty_notMem {ω : Type} {e : Expr ω} {names : List String}
    (h : e.IsChain names) : "" ∉ names := by
  induction h with
  | parameter => exact List.not_mem_nil
  | member type _ hname ih => simpa [ih] using Ne.symm hname

namespace FieldMapper

open Projection

variable {ω : Type} {m : FieldMapper} {root v : Value} {s : Schema} {names : List String}
  {target : Expr ω} {name : String}

/-- The walk through an object goes through the value at a path of records at that path. -/
lemma exists_ofValue_of_at (limit : Nat) (hat : root.At names v) (hnames : "" ∉ names) :
    ∃ before after : Projection, ofValue limit root = before.followedBy
      ((walk limit (Path.ofNames names) names.length none v).followedBy after) := by
  have hparts := @exists_walk_of_at limit 0 _ _ _ [] hat List.not_mem_nil hnames
  rwa [List.nil_append, Nat.zero_add] at hparts

/-- What the walk finds there makes a part of the fields of the object. -/
lemma exists_fields_of_at {d : Document} (hat : root.At names v) (hnames : "" ∉ names)
    (h : m.project root = .ok d) :
    ∃ front back, d.fields = front ++ (walk m.config.maxDepth (Path.ofNames names) names.length
      none v).leaves.map m.conventions.field ++ back := by
  obtain ⟨ls, hwalk, hfields⟩ := project_eq_ok.1 h
  obtain ⟨before, after, hparts⟩ := exists_ofValue_of_at m.config.maxDepth hat hnames
  rw [hparts] at hwalk
  obtain ⟨as, bs, -, hrest, rfl⟩ := followedBy_eq_found.1 hwalk
  obtain ⟨cs, ds, hpart, -, rfl⟩ := followedBy_eq_found.1 hrest
  refine ⟨as.map m.conventions.field, ds.map m.conventions.field, ?_⟩
  rw [hfields, hpart]
  simp only [List.map_append, List.append_assoc]

/-- For a value of a property's type at a path of records, the walk through the object goes
through that value at that path, and its fields are a part of the object's fields. The path has a
field in a query if its type has a leaf at its core, and every leaf found there has the name, the
family and the kind of that field, and was offered to the conventions under them. -/
theorem projected_eq_resolved (m : FieldMapper) (hat : root.At names v) (hv : s.Carries v)
    (hpath : (Expr.member target name (.ofSchema s)).IsChain names) :
    let part := walk m.config.maxDepth (Path.ofNames names) names.length none v
    (∃ before after : Projection,
      ofValue m.config.maxDepth root = before.followedBy (part.followedBy after)) ∧
    (∀ d, m.project root = .ok d →
      ∃ front back, d.fields = front ++ part.leaves.map m.conventions.field ++ back) ∧
    (∀ kind, (DeclaredType.ofSchema s).core = .leaf kind →
      (Expr.member target name (.ofSchema s)).resolve = .ok (some ⟨Path.ofNames names, kind⟩)) ∧
    ∀ l ∈ part.leaves, ∃ f, (Expr.member target name (.ofSchema s)).resolve = .ok (some f) ∧
      l.path = f.name ∧ l.value.semanticType = f.semanticType ∧ l.kind = f.kind ∧
      m.conventions.field l = ⟨f.name, l.value, m.conventions.optionFor f.name f.kind⟩ := by
  have hnames := hpath.empty_notMem
  have hresolve : ∀ kind, (DeclaredType.ofSchema s).core = .leaf kind →
      (Expr.member target name (.ofSchema s)).resolve = .ok (some ⟨Path.ofNames names, kind⟩) :=
    fun kind hcore => Expr.resolve_eq_some_iff.2 (.intro hpath hcore)
  refine ⟨exists_ofValue_of_at _ hat hnames, fun d => exists_fields_of_at hat hnames, hresolve,
    fun l hl => ?_⟩
  obtain ⟨hlpath, hcore, hfamily⟩ := kind_of_mem_walk hv hl
  refine ⟨_, hresolve _ hcore, hlpath, hfamily, rfl, ?_⟩
  rw [FieldConventions.field, hlpath]

/-- A visit at the start of 1970. -/
def visitTimes : Value :=
  .present (.sequence [.ofInstantTicks ⟨0, 0, by decide, by decide, by decide⟩])

/-- A note with the visit in a record of it. -/
def visitedNote : Value :=
  .record "Note" [("id", .int 7), ("visit", .present (.record "Visit" [("times", visitTimes)]))]

/-- The path to the times of the visit. -/
def visitTimesPath : Expr Unit :=
  .member (.member .parameter "visit" (.object "Visit")) "times"
    (.ofSchema (.option (.sequence .instantTicks)))

theorem projected_eq_resolved_visit :
    visitedNote.At ["visit", "times"] visitTimes ∧
      (Schema.option (.sequence .instantTicks)).Carries visitTimes ∧
      visitTimesPath.IsChain ["visit", "times"] ∧
      (walk 64 "visit.times" 2 none visitTimes).leaves =
        [⟨"visit.times", .dateTime, .long 621355968000000000⟩] ∧
      ∃ f, visitTimesPath.resolve = .ok (some f) ∧ f.name = "visit.times" ∧ f.kind = .dateTime := by
  have hat : visitedNote.At ["visit", "times"] visitTimes :=
    .field "Note" (u := .present (.record "Visit" [("times", visitTimes)])) (by simp)
      (.present (.field "Visit" (u := visitTimes) (by simp) (.here visitTimes)))
  have hv : (Schema.option (.sequence .instantTicks)).Carries visitTimes :=
    .present (.sequence (by simpa using .instantTicks _))
  have hpath : visitTimesPath.IsChain ["visit", "times"] :=
    .member _ (.member (.object "Visit") .parameter (by decide)) (by decide)
  have hleaves : (walk 64 "visit.times" 2 none visitTimes).leaves =
      [⟨"visit.times", .dateTime, .long 621355968000000000⟩] := rfl
  obtain ⟨-, -, -, hagree⟩ := projected_eq_resolved {} hat hv hpath
  have hmem := List.mem_singleton_self
    (⟨"visit.times", .dateTime, .long 621355968000000000⟩ : Leaf)
  rw [← hleaves] at hmem
  obtain ⟨f, hf, hname, -, hkind, -⟩ := hagree _ hmem
  exact ⟨hat, hv, hpath, hleaves, f, hf, hname.symm, hkind.symm⟩

end FieldMapper

end FieldSearch
