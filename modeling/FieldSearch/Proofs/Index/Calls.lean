import FieldSearch.Index
import FieldSearch.Proofs.Engine.Slots
import FieldSearch.Proofs.Mapping.Recorded
import Mathlib.Data.List.Forall2

/-!
# Calls of an index

What a call of an index on the memory engine does to the engine, whatever comes of it. A call that
fails leaves the engine as it was, since all that can fail comes before the engine is touched and
the document of an object is never empty. A call that succeeds takes away documents that match a
query, if it takes any away, and puts the documents of its objects behind all others.

`IndexCall.run_cases` says this for every call at once: a query that takes documents away never
matches an object of another type than the one the call is about, and the documents that are put
in are recorded under the types of the call.
-/

namespace FieldSearch

namespace ObjectIndex

variable {ω : Type} {m : FieldMapper} {i : ObjectIndex MemoryEngine}
  {s s' : IndexState MemoryEngine ω} {types : RecordedTypes} {t : ObjectType}

/-! ## Documents -/

/-- Mapping an object takes stamps from the clock and changes nothing else. -/
lemma document_cases {v : Value} {r : Except Error Document}
    (h : document (m.documentMapper t) types v s = (r, s')) :
    s'.engine = s.engine ∧ ∀ d, r = .ok d → m.Maps types v d := by
  obtain ⟨rfl, rfl⟩ := Prod.mk.inj h
  exact ⟨rfl, fun d hd => ⟨s.clock, hd⟩⟩

lemma documents_cases {vs : List Value} {r : Except Error (List Document)}
    (h : vs.mapM (document (m.documentMapper t) types) s = (r, s')) :
    s'.engine = s.engine ∧ ∀ ds, r = .ok ds → List.Forall₂ (m.Maps types) vs ds := by
  induction vs generalizing s s' r with
  | nil =>
    obtain ⟨rfl, rfl⟩ := Prod.mk.inj h
    refine ⟨rfl, fun ds hds => ?_⟩
    obtain rfl := Except.ok.inj hds
    exact .nil
  | cons v vs ih =>
    rw [List.mapM_cons] at h
    obtain ⟨e, hfail, rfl⟩ | ⟨d, s₁, hd, h⟩ := Answer.bind_cases h
    · exact ⟨(document_cases hfail).1, fun ds hds => by cases hds⟩
    obtain ⟨hengine, hmaps⟩ := document_cases hd
    obtain ⟨e, hfail, rfl⟩ | ⟨ds, s₂, hds, h⟩ := Answer.bind_cases h
    · exact ⟨(ih hfail).1.trans hengine, fun ds hds => by cases hds⟩
    obtain ⟨hengine', hmaps'⟩ := ih hds
    obtain ⟨rfl, rfl⟩ := Prod.mk.inj h
    refine ⟨hengine'.trans hengine, fun all hall => ?_⟩
    obtain rfl := Except.ok.inj hall
    exact .cons (hmaps d rfl) (hmaps' ds rfl)

lemma writes_of_maps {vs : List Value} {ds : List Document}
    (h : List.Forall₂ (m.Maps types) vs ds) : ∀ d ∈ ds, m.Writes types d := by
  induction h with
  | nil => exact fun d hd => absurd hd List.not_mem_nil
  | @cons v d vs ds hd _ ih => exact List.forall_mem_cons.2 ⟨⟨v, hd⟩, ih⟩

lemma writes_replicate {vs : List Value} {ds : List Document}
    (h : List.Forall₂ (m.Maps types) vs ds) :
    List.Forall₂ m.Writes (List.replicate vs.length types) ds := by
  induction h with
  | nil => exact .nil
  | cons hd _ ih => exact .cons ⟨_, hd⟩ ih

/-! ## Writing -/

lemma ofAnswer_eq {α : Type} {call : Answer MemoryEngine α} {r : Except Error α}
    {e : MemoryEngine} (h : call s.engine = (r, e)) :
    IndexAction.ofAnswer call s = (r, { s with engine := e }) := by
  simp only [IndexAction.ofAnswer, h]

/-- Documents of objects are written one after the other, and none of them is refused. -/
lemma writeAll_eq (hi : i.engine = MemoryEngine.engine) {ds : List Document}
    (hds : ∀ d ∈ ds, d.isEmpty = false) :
    (ds.forM fun d => IndexAction.ofAnswer (i.engine.write d)) s =
      (.ok (), { s with engine := s.engine.pushAll ds }) := by
  induction ds generalizing s with
  | nil => rfl
  | cons d ds ih =>
    have hwrite : IndexAction.ofAnswer (i.engine.write d) s =
        (.ok (), { s with engine := s.engine.pushAll [d] }) := by
      rw [hi]
      exact ofAnswer_eq (MemoryEngine.write_eq (hds d List.mem_cons_self) s.engine)
    refine (Answer.bind_ok hwrite).trans ?_
    rw [ih fun d hd => hds d (List.mem_cons_of_mem _ hd)]
    rfl

lemma addRecorded_cases (hi : i.engine = MemoryEngine.engine) {v : Value} {r : Except Error Unit}
    (h : i.addRecorded (m.documentMapper t) types v s = (r, s')) :
    (∃ e, r = .error e ∧ s'.engine = s.engine) ∨
      ∃ d, m.Maps types v d ∧ r = .ok () ∧ s'.engine = s.engine.pushAll [d] := by
  obtain ⟨e, hfail, rfl⟩ | ⟨d, s₁, hd, h⟩ := Answer.bind_cases h
  · exact .inl ⟨e, rfl, (document_cases hfail).1⟩
  obtain ⟨hengine, hmaps⟩ := document_cases hd
  have hempty : d.isEmpty = false := FieldMapper.Writes.isEmpty_eq_false ⟨v, hmaps d rfl⟩
  rw [hi, ofAnswer_eq (MemoryEngine.write_eq hempty s₁.engine)] at h
  obtain ⟨rfl, rfl⟩ := Prod.mk.inj h
  exact .inr ⟨d, hmaps d rfl, rfl, by rw [hengine]⟩

lemma addAll_cases (hi : i.engine = MemoryEngine.engine) {vs : List Value} {r : Except Error Nat}
    (h : i.addAll t vs s = (r, s')) :
    (∃ e, r = .error e ∧ s'.engine = s.engine) ∨
      ∃ ds, List.Forall₂ (i.mapper.Maps (.of t.identity)) vs ds ∧
        r = .ok ds.length ∧ s'.engine = s.engine.pushAll ds := by
  rw [addAll] at h
  obtain ⟨e, hfail, rfl⟩ | ⟨ds, s₁, hds, h⟩ := Answer.bind_cases h
  · exact .inl ⟨e, rfl, (documents_cases hfail).1⟩
  obtain ⟨hengine, hmaps⟩ := documents_cases hds
  have hempty : ∀ d ∈ ds, d.isEmpty = false :=
    fun d hd => (writes_of_maps (hmaps ds rfl) d hd).isEmpty_eq_false
  rw [Answer.bind_ok (writeAll_eq hi hempty)] at h
  obtain ⟨rfl, rfl⟩ := Prod.mk.inj h
  exact .inr ⟨ds, hmaps ds rfl, rfl, by simp only [hengine]⟩

/-! ## Keys -/

/-- A key is translated without touching the engine, and its query matches objects of its type
alone. -/
lemma keyQuery_cases {t : TypeIdentity} {key : Expr ω} {r : Except Error Query}
    (h : keyQuery (σ := MemoryEngine) t key s = (r, s')) :
    s'.engine = s.engine ∧ ∀ q, r = .ok q → ∀ x : IndexedDocument,
      x.satisfies q = true → x.satisfies (.ofActualType t) = true := by
  obtain ⟨e, hfail, rfl⟩ | ⟨p, s₁, hp, h⟩ := Answer.bind_cases h
  · obtain ⟨-, rfl⟩ := Prod.mk.inj hfail
    exact ⟨rfl, fun q hq => by cases hq⟩
  obtain ⟨-, rfl⟩ := Prod.mk.inj hp
  obtain ⟨rfl, rfl⟩ := Prod.mk.inj h
  refine ⟨rfl, fun q hq x hx => ?_⟩
  obtain rfl := Except.ok.inj hq
  exact (IndexedDocument.satisfies_intersect.1 hx).2

/-- An update fails and changes nothing in the engine, or puts its object in the place of documents
of its type. -/
lemma update_cases (hi : i.engine = MemoryEngine.engine) {key : Expr ω} {v : Value}
    {r : Except Error Nat} (h : i.update t key v s = (r, s')) :
    (∃ e, r = .error e ∧ s'.engine = s.engine) ∨
      ∃ n q d, i.mapper.Writes (.of t.identity) d ∧ r = .ok n ∧
        s'.engine = (s.engine.without (some q)).pushAll [d] ∧
        ∀ x : IndexedDocument, x.satisfies q = true →
          x.satisfies (.ofActualType t.identity) = true := by
  obtain ⟨e, hfail, rfl⟩ | ⟨q, s₁, hq, h⟩ := Answer.bind_cases h
  · exact .inl ⟨e, rfl, (keyQuery_cases hfail).1⟩
  obtain ⟨hengine, hkey⟩ := keyQuery_cases hq
  obtain ⟨e, hfail, rfl⟩ | ⟨d, s₂, hd, h⟩ := Answer.bind_cases h
  · exact .inl ⟨e, rfl, (document_cases hfail).1.trans hengine⟩
  obtain ⟨hengine', hmaps⟩ := document_cases hd
  have hwrites : i.mapper.Writes (.of t.identity) d := ⟨v, hmaps d rfl⟩
  rw [hi, ofAnswer_eq (MemoryEngine.replaceBy_eq hwrites.isEmpty_eq_false q s₂.engine)] at h
  obtain ⟨rfl, rfl⟩ := Prod.mk.inj h
  exact .inr ⟨_, q, d, hwrites, rfl, by rw [hengine', hengine], hkey q rfl⟩

lemma delete_cases (hi : i.engine = MemoryEngine.engine) {t : TypeIdentity} {key : Expr ω}
    {r : Except Error Nat} (h : i.delete t key s = (r, s')) :
    (∃ e, r = .error e ∧ s'.engine = s.engine) ∨
      ∃ n q, r = .ok n ∧ s'.engine = s.engine.without (some q) ∧
        ∀ x : IndexedDocument, x.satisfies q = true → x.satisfies (.ofActualType t) = true := by
  obtain ⟨e, hfail, rfl⟩ | ⟨q, s₁, hq, h⟩ := Answer.bind_cases h
  · exact .inl ⟨e, rfl, (keyQuery_cases hfail).1⟩
  obtain ⟨hengine, hkey⟩ := keyQuery_cases hq
  rw [hi] at h
  obtain ⟨rfl, rfl⟩ := Prod.mk.inj h
  exact .inr ⟨_, q, rfl, by rw [← hengine]; rfl, hkey q rfl⟩

end ObjectIndex

/-! ## Calls -/

/-- A call that writes to an index. -/
inductive IndexCall (ω : Type) where
  | add (t : ObjectType) (v : Value)
  | addAs (declared : TypeIdentity) (t : ObjectType) (v : Value)
  | addAll (t : ObjectType) (vs : List Value)
  | update (t : ObjectType) (key : Expr ω) (v : Value)
  | delete (t : TypeIdentity) (key : Expr ω)
  | deleteAll (t : TypeIdentity)

namespace IndexCall

variable {σ ω : Type}

/-- The action of a call, without its count. -/
def run (i : ObjectIndex σ) : IndexCall ω → IndexAction σ ω Unit
  | add t v => i.add t v
  | addAs declared t v => i.addAs declared t v
  | addAll t vs => do let _ ← i.addAll t vs
  | update t key v => do let _ ← i.update t key v
  | delete t key => do let _ ← i.delete t key
  | deleteAll t => do let _ ← i.deleteAll t

/-- The types under which a call records the objects that it writes, in their order. -/
def recorded : IndexCall ω → List RecordedTypes
  | add t _ | update t _ _ => [.of t.identity]
  | addAs declared t _ => [⟨t.identity, declared⟩]
  | addAll t vs => List.replicate vs.length (.of t.identity)
  | delete .. | deleteAll _ => []

/-- The type whose objects a call may take away. -/
def target : IndexCall ω → Option TypeIdentity
  | add .. | addAs .. | addAll .. => none
  | update t _ _ => some t.identity
  | delete t _ | deleteAll t => some t

/-- A call whose count is not asked for does the same. -/
lemma exists_counted {call : IndexAction σ ω Nat} {s s' : IndexState σ ω} {r : Except Error Unit}
    (h : (do let _ ← call : IndexAction σ ω Unit) s = (r, s')) :
    ∃ n, call s = (n, s') ∧ r = n.map fun _ => () := by
  obtain ⟨e, hfail, rfl⟩ | ⟨n, s₁, hcall, h⟩ := Answer.bind_cases h
  · exact ⟨.error e, hfail, rfl⟩
  · obtain ⟨rfl, rfl⟩ := Prod.mk.inj h
    exact ⟨.ok n, hcall, rfl⟩

variable {i : ObjectIndex MemoryEngine} {s s' : IndexState MemoryEngine ω}

/-- A call fails and leaves the engine as it was, or takes documents of its type away, if any, and
writes its objects behind all others. -/
theorem run_cases (hi : i.engine = MemoryEngine.engine) {c : IndexCall ω} {r : Except Error Unit}
    (h : c.run i s = (r, s')) :
    (∃ e, r = .error e ∧ s'.engine = s.engine) ∨
      ∃ gone ds, r = .ok () ∧ List.Forall₂ i.mapper.Writes c.recorded ds ∧
        s'.engine = (s.engine.without gone).pushAll ds ∧
        ∀ q ∈ gone, ∃ t, c.target = some t ∧ ∀ x : IndexedDocument,
          x.satisfies q = true → x.satisfies (.ofActualType t) = true := by
  have hnone : ∀ q ∈ (none : Option Query), ∃ t, c.target = some t ∧ ∀ x : IndexedDocument,
      x.satisfies q = true → x.satisfies (.ofActualType t) = true := by
    rintro q ⟨⟩
  cases c with
  | add t v =>
    obtain ⟨e, rfl, hengine⟩ | ⟨d, hd, rfl, hengine⟩ := ObjectIndex.addRecorded_cases hi h
    · exact .inl ⟨e, rfl, hengine⟩
    · exact .inr ⟨none, [d], rfl, .cons ⟨v, hd⟩ .nil, hengine, hnone⟩
  | addAs declared t v =>
    obtain ⟨e, rfl, hengine⟩ | ⟨d, hd, rfl, hengine⟩ := ObjectIndex.addRecorded_cases hi h
    · exact .inl ⟨e, rfl, hengine⟩
    · exact .inr ⟨none, [d], rfl, .cons ⟨v, hd⟩ .nil, hengine, hnone⟩
  | addAll t vs =>
    obtain ⟨n, hcall, rfl⟩ := exists_counted h
    obtain ⟨e, rfl, hengine⟩ | ⟨ds, hds, rfl, hengine⟩ := ObjectIndex.addAll_cases hi hcall
    · exact .inl ⟨e, rfl, hengine⟩
    · exact .inr ⟨none, ds, rfl, ObjectIndex.writes_replicate hds, hengine, hnone⟩
  | update t key v =>
    obtain ⟨n, hcall, rfl⟩ := exists_counted h
    obtain ⟨e, rfl, hengine⟩ | ⟨n', q, d, hd, rfl, hengine, hkey⟩ :=
      ObjectIndex.update_cases hi hcall
    · exact .inl ⟨e, rfl, hengine⟩
    refine .inr ⟨some q, [d], rfl, .cons hd .nil, hengine, ?_⟩
    rintro q' ⟨⟩
    exact ⟨t.identity, rfl, hkey⟩
  | delete t key =>
    obtain ⟨n, hcall, rfl⟩ := exists_counted h
    obtain ⟨e, rfl, hengine⟩ | ⟨n', q, rfl, hengine, hkey⟩ := ObjectIndex.delete_cases hi hcall
    · exact .inl ⟨e, rfl, hengine⟩
    refine .inr ⟨some q, [], rfl, .nil, hengine, ?_⟩
    rintro q' ⟨⟩
    exact ⟨t, rfl, hkey⟩
  | deleteAll t =>
    -- There is no key: the query is the type filter itself.
    simp only [run, ObjectIndex.deleteAll, hi] at h
    obtain ⟨rfl, rfl⟩ := Prod.mk.inj h
    refine .inr ⟨some (.ofActualType t), [], rfl, .nil, rfl, ?_⟩
    rintro q' ⟨⟩
    exact ⟨t, rfl, fun x hx => hx⟩

end IndexCall

end FieldSearch
