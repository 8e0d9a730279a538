import FieldSearch.Proofs.Index.Calls
import FieldSearch.Proofs.Mapping.Integrity
import FieldSearch.Proofs.Mapping.Refusals

/-!
# Write times in the order of writes

The clock of an index hands out stamps, each of them later than the last one, whatever the wall
clock reads. Not every stamp ends up in the engine: adding many objects takes a stamp for each one
that is mapped, and they are lost if a later one is not. But those that do end up there are written
in the order in which they were handed out. Documents that are deleted or replaced leave gaps, and
a document in the place of others is a new one behind all others, so the live documents have some
of the stamps, in their order.

`IndexCall.run_stamps` says what a call does to the clock and the engine together
(`IndexState.Stamps`), and `IndexCall.Stamped` is what it keeps.

Main statement: `IndexCall.live_stamps_increase`.
-/

namespace FieldSearch

/-! ## Stamps -/

namespace WriteClock

/-- The clock after a number of stamps. -/
def after (c : WriteClock) : Nat → WriteClock
  | 0 => c
  | n + 1 => c.advance.after n

/-- The next stamps of a clock, in the order in which they are handed out. -/
def handOut (c : WriteClock) : Nat → List Int64
  | 0 => []
  | n + 1 => c.stamp :: c.advance.handOut n

variable {c : WriteClock}

@[simp] lemma length_handOut (c : WriteClock) (n : Nat) : (c.handOut n).length = n := by
  induction n generalizing c with
  | zero => rfl
  | succ n ih => rw [handOut, List.length_cons, ih]

lemma after_add (c : WriteClock) (n k : Nat) : c.after (n + k) = (c.after n).after k := by
  induction n generalizing c with
  | zero => rw [Nat.zero_add, after]
  | succ n ih => rw [Nat.succ_add, after, after, ih]

lemma handOut_add (c : WriteClock) (n k : Nat) :
    c.handOut (n + k) = c.handOut n ++ (c.after n).handOut k := by
  induction n generalizing c with
  | zero => rw [Nat.zero_add, handOut, after, List.nil_append]
  | succ n ih => rw [Nat.succ_add, handOut, handOut, after, ih, List.cons_append]

lemma requests_after (c : WriteClock) (n : Nat) : (c.after n).requests = c.requests + n := by
  induction n generalizing c with
  | zero => rfl
  | succ n ih => rw [after, ih, advance, Nat.add_right_comm, Nat.add_assoc]

lemma reading_le_stamp : c.reading c.requests ≤ c.stamp := by
  unfold stamp
  dsimp only
  split
  next hlt => exact Int64.le_iff_toInt_le.2 (Int.le_of_lt hlt)
  next => exact Int64.le_refl _

/-- As long as the last stamp is not the largest one, there is a later one. -/
lemma last_lt_stamp (h : c.last ≠ Int64.maxValue) : c.last < c.stamp := by
  have hlast : c.last.toInt < 9223372036854775807 := by
    have hle := c.last.toInt_le
    have hne : c.last.toInt ≠ Int64.maxValue.toInt := fun heq => h (Int64.toInt_inj.1 heq)
    rw [Int64.toInt_maxValue] at hle hne
    omega
  have hlow := c.last.le_toInt
  have hsuccessor : (clampWord (c.last.toInt + 1)).toInt = c.last.toInt + 1 :=
    toInt_clampWord (by unfold wordEnd; omega) (by unfold wordEnd; omega)
  rw [Int64.lt_iff_toInt_lt]
  unfold stamp
  dsimp only
  split <;> omega

lemma reading_le_handOut {n k : Nat} (h : k < (c.handOut n).length) :
    c.reading (c.requests + k) ≤ (c.handOut n)[k] := by
  induction n generalizing c k with
  | zero => exact absurd h (Nat.not_lt_zero k)
  | succ n ih =>
    cases k with
    | zero => exact reading_le_stamp
    | succ k =>
      have hrequests : c.requests + (k + 1) = c.advance.requests + k := by
        rw [advance, Nat.add_assoc, Nat.add_comm 1]
      rw [hrequests]
      exact ih (c := c.advance) (Nat.lt_of_succ_lt_succ h)

/-- Each stamp is later than the one before, and so than all before, until the largest one has been
handed out. -/
lemma pairwise_last_handOut {n : Nat} (h : Int64.maxValue ∉ (c.last :: c.handOut n).dropLast) :
    (c.last :: c.handOut n).Pairwise (· < ·) := by
  induction n generalizing c with
  | zero => exact List.pairwise_singleton _ _
  | succ n ih =>
    rw [handOut, List.dropLast_cons_cons, List.mem_cons, not_or] at h
    have hlt : c.last < c.stamp := last_lt_stamp (Ne.symm h.1)
    have hrest : (c.stamp :: c.advance.handOut n).Pairwise (· < ·) :=
      ih (c := c.advance) h.2
    refine List.pairwise_cons.2 ⟨List.forall_mem_cons.2 ⟨hlt, fun t ht => ?_⟩, hrest⟩
    exact Int64.lt_trans hlt ((List.pairwise_cons.1 hrest).1 t ht)

lemma pairwise_handOut {n : Nat} (h : Int64.maxValue ∉ (c.handOut n).dropLast) :
    (c.handOut n).Pairwise (· < ·) := by
  cases n with
  | zero => exact .nil
  | succ n => exact pairwise_last_handOut (c := c.advance) h

end WriteClock

/-- Each of the documents has one of the stamps for its write time, in their order. -/
def Envelope.Carry (stamps : List Int64) (ds : List Document) : Prop :=
  ds.map (·.values timestampField) = stamps.map fun t => [.long t]

lemma Envelope.carry_nil : Carry [] [] := rfl

lemma Envelope.Carry.cons {stamps : List Int64} {ds : List Document} {stamp : Int64} {d : Document}
    (h : Carry stamps ds) (hd : d.values timestampField = [.long stamp]) :
    Carry (stamp :: stamps) (d :: ds) := by
  rw [Carry, List.map_cons, List.map_cons, hd, h]

/-! ## Documents -/

namespace ObjectIndex

variable {ω : Type} {m : FieldMapper} {i : ObjectIndex MemoryEngine}
  {s s' : IndexState MemoryEngine ω} {types : RecordedTypes} {t : ObjectType}

/-- An object that is mapped takes the next stamp, and one that is not takes none. -/
lemma document_stamps {v : Value} {r : Except Error Document}
    (h : document (m.documentMapper t) types v s = (r, s')) :
    (∃ e, r = .error e ∧ s' = s) ∨
      ∃ d, r = .ok d ∧ d.values timestampField = [.long s.clock.stamp] ∧
        s' = { s with clock := s.clock.advance } := by
  obtain ⟨rfl, rfl⟩ := Prod.mk.inj h
  cases hproject : m.project v with
  | error e =>
    have hfails : m.toDocument v types s.clock = (.error e, s.clock) :=
      FieldMapper.toDocument_of_project_error hproject
    exact .inl ⟨e, congrArg Prod.fst hfails, by simp only [FieldMapper.documentMapper, hfails]⟩
  | ok p =>
    obtain ⟨untimed, huntimed⟩ := FieldMapper.exists_untimed hproject types
    have hdocument := huntimed s.clock
    obtain ⟨-, hseals, -⟩ := FieldMapper.seals_toDocument (congrArg Prod.fst hdocument)
    refine .inr ⟨_, congrArg Prod.fst hdocument, hseals.timestamp_once, ?_⟩
    simp only [FieldMapper.documentMapper, hdocument]

lemma documents_stamps {vs : List Value} {r : Except Error (List Document)}
    (h : vs.mapM (document (m.documentMapper t) types) s = (r, s')) :
    ∃ n, s' = { s with clock := s.clock.after n } ∧
      ∀ ds, r = .ok ds → Envelope.Carry (s.clock.handOut n) ds := by
  induction vs generalizing s s' r with
  | nil =>
    obtain ⟨rfl, rfl⟩ := Prod.mk.inj h
    refine ⟨0, rfl, fun ds hds => ?_⟩
    obtain rfl := Except.ok.inj hds
    exact Envelope.carry_nil
  | cons v vs ih =>
    rw [List.mapM_cons] at h
    obtain ⟨e, hfail, rfl⟩ | ⟨d, s₁, hd, h⟩ := Answer.bind_cases h
    · obtain ⟨e, -, rfl⟩ | ⟨d, ⟨⟩, -⟩ := document_stamps hfail
      exact ⟨0, rfl, fun ds hds => by cases hds⟩
    obtain ⟨e, ⟨⟩, -⟩ | ⟨d, ⟨⟩, htime, rfl⟩ := document_stamps hd
    -- The stamp of the first object is lost if one of the others is not mapped.
    obtain ⟨e, hfail, rfl⟩ | ⟨ds, s₂, hds, h⟩ := Answer.bind_cases h
    · obtain ⟨n, rfl, -⟩ := ih hfail
      exact ⟨n + 1, rfl, fun ds hds => by cases hds⟩
    obtain ⟨n, rfl, hcarry⟩ := ih hds
    obtain ⟨rfl, rfl⟩ := Prod.mk.inj h
    refine ⟨n + 1, rfl, fun all hall => ?_⟩
    obtain rfl := Except.ok.inj hall
    exact (hcarry ds rfl).cons htime

end ObjectIndex

/-! ## Calls -/

/-- What a call may do to the clock and the engine: stamps are handed out and the engine stays as it
was, or documents with these stamps are put behind those that are left of the ones before. -/
inductive IndexState.Stamps {ω : Type} (s : IndexState MemoryEngine ω) :
    IndexState MemoryEngine ω → Prop
  | failed (n : Nat) (surroundings : ω) : s.Stamps ⟨s.engine, s.clock.after n, surroundings⟩
  | written (n : Nat) (gone : Option Query) (ds : List Document) (surroundings : ω)
      (h : Envelope.Carry (s.clock.handOut n) ds) :
      s.Stamps ⟨(s.engine.without gone).pushAll ds, s.clock.after n, surroundings⟩

namespace ObjectIndex

variable {ω : Type} {m : FieldMapper} {i : ObjectIndex MemoryEngine}
  {s s' : IndexState MemoryEngine ω} {types : RecordedTypes} {t : ObjectType}

lemma addRecorded_stamps (hi : i.engine = MemoryEngine.engine) {v : Value} {r : Except Error Unit}
    (h : i.addRecorded (m.documentMapper t) types v s = (r, s')) : s.Stamps s' := by
  obtain ⟨e, hfail, rfl⟩ | ⟨d, s₁, hd, h⟩ := Answer.bind_cases h
  · obtain ⟨e, -, rfl⟩ | ⟨d, ⟨⟩, -⟩ := document_stamps hfail
    exact .failed 0 _
  have hempty : d.isEmpty = false :=
    FieldMapper.Writes.isEmpty_eq_false ⟨v, (document_cases hd).2 d rfl⟩
  obtain ⟨e, ⟨⟩, -⟩ | ⟨d, ⟨⟩, htime, rfl⟩ := document_stamps hd
  rw [hi, ofAnswer_eq (MemoryEngine.write_eq hempty _)] at h
  obtain ⟨-, rfl⟩ := Prod.mk.inj h
  exact .written 1 none [d] _ (Envelope.carry_nil.cons htime)

lemma addAll_stamps (hi : i.engine = MemoryEngine.engine) {vs : List Value} {r : Except Error Nat}
    (h : i.addAll t vs s = (r, s')) : s.Stamps s' := by
  rw [addAll] at h
  obtain ⟨e, hfail, rfl⟩ | ⟨ds, s₁, hds, h⟩ := Answer.bind_cases h
  · obtain ⟨n, rfl, -⟩ := documents_stamps hfail
    exact .failed n _
  have hempty : ∀ d ∈ ds, d.isEmpty = false := fun d hd =>
    (writes_of_maps ((documents_cases hds).2 ds rfl) d hd).isEmpty_eq_false
  obtain ⟨n, rfl, hcarry⟩ := documents_stamps hds
  rw [Answer.bind_ok (writeAll_eq hi hempty)] at h
  obtain ⟨-, rfl⟩ := Prod.mk.inj h
  exact .written n none ds _ (hcarry ds rfl)

/-- A key is translated without the clock and the engine. -/
lemma keyQuery_state {t : TypeIdentity} {key : Expr ω} {r : Except Error Query}
    (h : keyQuery (σ := MemoryEngine) t key s = (r, s')) :
    ∃ surroundings, s' = { s with surroundings } := by
  obtain ⟨e, hfail, rfl⟩ | ⟨p, s₁, hp, h⟩ := Answer.bind_cases h
  · obtain ⟨-, rfl⟩ := Prod.mk.inj hfail
    exact ⟨_, rfl⟩
  obtain ⟨-, rfl⟩ := Prod.mk.inj hp
  obtain ⟨-, rfl⟩ := Prod.mk.inj h
  exact ⟨_, rfl⟩

lemma update_stamps (hi : i.engine = MemoryEngine.engine) {key : Expr ω} {v : Value}
    {r : Except Error Nat} (h : i.update t key v s = (r, s')) : s.Stamps s' := by
  obtain ⟨e, hfail, rfl⟩ | ⟨q, s₁, hq, h⟩ := Answer.bind_cases h
  · obtain ⟨surroundings, rfl⟩ := keyQuery_state hfail
    exact .failed 0 _
  obtain ⟨surroundings, rfl⟩ := keyQuery_state hq
  obtain ⟨e, hfail, rfl⟩ | ⟨d, s₂, hd, h⟩ := Answer.bind_cases h
  · obtain ⟨e, -, rfl⟩ | ⟨d, ⟨⟩, -⟩ := document_stamps hfail
    exact .failed 0 _
  have hempty : d.isEmpty = false :=
    FieldMapper.Writes.isEmpty_eq_false ⟨v, (document_cases hd).2 d rfl⟩
  obtain ⟨e, ⟨⟩, -⟩ | ⟨d, ⟨⟩, htime, rfl⟩ := document_stamps hd
  rw [hi, ofAnswer_eq (MemoryEngine.replaceBy_eq hempty q _)] at h
  obtain ⟨-, rfl⟩ := Prod.mk.inj h
  exact .written 1 (some q) [d] _ (Envelope.carry_nil.cons htime)

lemma delete_stamps (hi : i.engine = MemoryEngine.engine) {t : TypeIdentity} {key : Expr ω}
    {r : Except Error Nat} (h : i.delete t key s = (r, s')) : s.Stamps s' := by
  obtain ⟨e, hfail, rfl⟩ | ⟨q, s₁, hq, h⟩ := Answer.bind_cases h
  · obtain ⟨surroundings, rfl⟩ := keyQuery_state hfail
    exact .failed 0 _
  obtain ⟨surroundings, rfl⟩ := keyQuery_state hq
  rw [hi] at h
  obtain ⟨-, rfl⟩ := Prod.mk.inj h
  exact .written 0 (some q) [] _ Envelope.carry_nil

end ObjectIndex

/-- Deleting leaves a part of the documents, in their order. -/
lemma MemoryEngine.documents_without_sublist (m : MemoryEngine) (gone : Option Query) :
    (m.without gone).documents.Sublist m.documents := by
  rw [documents, documents, ← found_all, ← found_all, found_without]
  exact List.filter_sublist.map _

namespace IndexCall

variable {ω : Type} {i : ObjectIndex MemoryEngine} {s s' : IndexState MemoryEngine ω}
  {clock : WriteClock}

/-- A call hands out stamps and writes its documents with them, in their order, if it writes any. -/
theorem run_stamps (hi : i.engine = MemoryEngine.engine) {c : IndexCall ω} {r : Except Error Unit}
    (h : c.run i s = (r, s')) : s.Stamps s' := by
  cases c with
  | add t v => exact ObjectIndex.addRecorded_stamps hi h
  | addAs declared t v => exact ObjectIndex.addRecorded_stamps hi h
  | addAll t vs =>
    obtain ⟨n, hcall, -⟩ := exists_counted h
    exact ObjectIndex.addAll_stamps hi hcall
  | update t key v =>
    obtain ⟨n, hcall, -⟩ := exists_counted h
    exact ObjectIndex.update_stamps hi hcall
  | delete t key =>
    obtain ⟨n, hcall, -⟩ := exists_counted h
    exact ObjectIndex.delete_stamps hi hcall
  | deleteAll t =>
    simp only [run, ObjectIndex.deleteAll, hi] at h
    obtain ⟨-, rfl⟩ := Prod.mk.inj h
    exact .written 0 (some (.ofActualType t)) [] _ Envelope.carry_nil

/-! ## Runs -/

/-- The state after calls one after the other, whether they fail or not. -/
def runAll (i : ObjectIndex MemoryEngine) (cs : List (IndexCall ω))
    (s : IndexState MemoryEngine ω) : IndexState MemoryEngine ω :=
  cs.foldl (fun s c => (c.run i s).2) s

/-- Since a clock was new, only its stamps were handed out, and the documents of the engine have
some of them, in their order. -/
def Stamped (clock : WriteClock) (s : IndexState MemoryEngine ω) : Prop :=
  ∃ n, s.clock = clock.after n ∧
    (s.engine.documents.map (·.values timestampField)).Sublist
      ((clock.handOut n).map fun t => [.long t])

/-- What a call does keeps the order. -/
lemma Stamped.step (h : Stamped clock s) (hstep : s.Stamps s') : Stamped clock s' := by
  obtain ⟨n, hclock, hsublist⟩ := h
  cases hstep with
  | failed k surroundings =>
    refine ⟨n + k, by rw [hclock, WriteClock.after_add], ?_⟩
    rw [WriteClock.handOut_add, List.map_append]
    exact hsublist.trans (List.sublist_append_left _ _)
  | written k gone ds surroundings hcarry =>
    have hleft := ((s.engine.documents_without_sublist gone).map _).trans hsublist
    refine ⟨n + k, by rw [hclock, WriteClock.after_add], ?_⟩
    rw [MemoryEngine.documents_pushAll, List.map_append, hcarry, hclock, WriteClock.handOut_add,
      List.map_append]
    exact hleft.append (List.Sublist.refl _)

lemma Stamped.runAll (hi : i.engine = MemoryEngine.engine) (h : Stamped clock s)
    (cs : List (IndexCall ω)) : Stamped clock (runAll i cs s) := by
  induction cs generalizing s with
  | nil => exact h
  | cons c cs ih => exact ih (h.step (run_stamps hi rfl))

/-- **Write times are in the order of writes.** Whatever calls are made of a new index, whether they
fail or not, and whatever the wall clock reads at each request, no stamp is before its reading. As
long as none but the last is the largest stamp there is, the stamps grow, and each live document has
one of them for its only write time, a later one at a greater address. -/
theorem live_stamps_increase (config : IndexConfig) (m : FieldMapper) (reading : Nat → Int64)
    (surroundings : ω) (cs : List (IndexCall ω)) :
    let i : ObjectIndex MemoryEngine := .withMapper MemoryEngine.engine config m
    let clock : WriteClock := { reading }
    let s := runAll i cs ⟨{}, clock, surroundings⟩
    let stamps := clock.handOut s.clock.requests
    s.clock = clock.after s.clock.requests ∧
      (∀ (k : Nat) (hk : k < stamps.length), reading k ≤ stamps[k]) ∧
      (Int64.maxValue ∉ stamps.dropLast →
        stamps.Pairwise (· < ·) ∧
          s.engine.liveDocuments.Pairwise (fun a b => a.1 < b.1) ∧
          ∃ times : List Int64,
            s.engine.liveDocuments.map (·.2.values timestampField) =
              times.map (fun t => [.long t]) ∧
            times.Sublist stamps ∧ times.Pairwise (· < ·)) := by
  intro i clock s stamps
  have hstart : Stamped clock (⟨{}, clock, surroundings⟩ : IndexState MemoryEngine ω) :=
    ⟨0, rfl, List.Sublist.refl _⟩
  obtain ⟨n, hclock, hsublist⟩ := hstart.runAll rfl cs (i := i)
  have hrequests : s.clock.requests = n := by
    rw [hclock, WriteClock.requests_after, Nat.zero_add]
  refine ⟨by rw [hrequests, hclock], fun k hk => ?_, fun hlargest => ?_⟩
  · have hreading := WriteClock.reading_le_handOut hk
    rwa [Nat.zero_add] at hreading
  · have hincrease : stamps.Pairwise (· < ·) := WriteClock.pairwise_handOut hlargest
    obtain ⟨times, htimes, hvalues⟩ := List.sublist_map_iff.1 hsublist
    rw [MemoryEngine.documents, List.map_map] at hvalues
    rw [← hrequests] at htimes
    exact ⟨hincrease, MemoryEngine.liveDocuments_pairwise, times, hvalues, htimes,
      hincrease.sublist htimes⟩

/-- A wall clock that goes back twice. The stamp of a note that is written with one that is not
mapped is lost, and the second note is replaced. -/
theorem live_stamps_increase_notes :
    let note : ObjectType := { name := "app::Note", schema := .any }
    let small (n : Int64) : Value := .record "Note" [("id", .int n)]
    let wide : Value := .record "Note" [("id", .wide true 7)]
    let second : Expr Unit := (Property.ofName "id" (.leaf .integer)).term (.constant (.long 2))
    let i : ObjectIndex MemoryEngine := .withMapper MemoryEngine.engine {} {}
    let clock : WriteClock := { reading := fun k => [100, 50, 300, 40, 302].getD k 0 }
    let cs : List (IndexCall Unit) :=
      [.add note (small 1), .addAll note [small 2, wide], .addAll note [small 2, small 3],
        .update note second (small 4)]
    let s := runAll i cs ⟨{}, clock, ()⟩
    let stamps : List Int64 := [100, 101, 300, 301, 302]
    clock.handOut s.clock.requests = stamps ∧
      (∀ (k : Nat) (hk : k < stamps.length), clock.reading k ≤ stamps[k]) ∧
      Int64.maxValue ∉ stamps.dropLast ∧ stamps.Pairwise (· < ·) ∧
      s.engine.liveDocuments.map (·.1) = [0, 2, 3] ∧
      ∃ times : List Int64,
        s.engine.liveDocuments.map (·.2.values timestampField) = times.map (fun t => [.long t]) ∧
        times.Sublist stamps ∧ times.Pairwise (· < ·) := by
  intro note small wide second i clock cs s stamps
  have hstamps : clock.handOut s.clock.requests = stamps := by decide +kernel
  have hlargest : Int64.maxValue ∉ stamps.dropLast := by decide
  have haddresses : s.engine.liveDocuments.map (·.1) = [0, 2, 3] := by decide +kernel
  obtain ⟨-, hreading, hincrease⟩ := live_stamps_increase {} {} clock.reading () cs
  rw [hstamps] at hreading hincrease
  obtain ⟨hstrict, -, hlive⟩ := hincrease hlargest
  exact ⟨hstamps, hreading, hlargest, hstrict, haddresses, hlive⟩

end IndexCall

end FieldSearch
