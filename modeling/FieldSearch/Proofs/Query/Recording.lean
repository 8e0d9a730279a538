import FieldSearch.Proofs.Query.Reads

/-!
# When captured operands are read

A captured operand may give another value each time it is read, so it matters how often and when
translation reads it. `Expr.recorded` is an expression whose captured operands, wherever they
stand, note in the surroundings where they are and what they gave. Translating it leaves a log of
all reads, and is otherwise the translation of the expression itself.

`Recording` ties three runs of one step together: the plain one, the one with its reads noted, and
the one with the values that were read given beforehand. It holds of the steps of a translation and
is kept as they follow one another, so it holds of translations; `Expr.Reading` adds which reads
these were. `Expr.translate_reads_in_order` is the main statement: a translation that succeeds
reads the captured operands of its clauses, each once and from left to right, and one that fails
those of them that do not come after the node at which it stops.
-/

namespace FieldSearch

/-- What was read, with the places it was read at, in order. -/
abbrev ReadLog := List (Place × Operand)

namespace Expr

variable {ω υ : Type} {e : Expr ω}

/-! ## Expressions with their captured operands replaced -/

/-- What to put in the place of each captured operand. -/
abbrev Replacement (ω υ : Type) := Place → (ω → Operand × ω) → Expr υ

mutual

/-- An expression with others in the place of its captured operands. -/
def substitute (f : Replacement ω υ) : Expr ω → Expr υ
  | parameter => parameter
  | member target name type => member (target.substitute fun p => f (0 :: p)) name type
  | constant v => constant v
  | captured read => f [] read
  | range field min max minInclusive maxInclusive =>
    range (field.substitute fun p => f (0 :: p)) (substituteSide (fun p => f (1 :: p)) min)
      (substituteSide (fun p => f (2 :: p)) max) minInclusive maxInclusive
  | term field value =>
    term (field.substitute fun p => f (0 :: p)) (value.substitute fun p => f (1 :: p))
  | and es => and (substituteAll f 0 es)
  | or es => or (substituteAll f 0 es)
  | not e => not (e.substitute fun p => f (0 :: p))
  | binary op l r => binary op (l.substitute fun p => f (0 :: p)) (r.substitute fun p => f (1 :: p))
  | call method args => call method (substituteAll f 0 args)

/-- A side of a range with others in the place of its captured operands. -/
def substituteSide (f : Replacement ω υ) : Option (Expr ω) → Option (Expr υ)
  | none => none
  | some e => some (e.substitute f)

/-- Children from the given number on, with others in the place of their captured operands. -/
def substituteAll (f : Replacement ω υ) (i : Nat) :
    List (Expr ω) → List (Expr υ)
  | [] => []
  | e :: es => e.substitute (fun p => f (i :: p)) :: substituteAll f (i + 1) es

end

/-! ## Fields of substituted expressions -/

/-- Captured operands are replaced by captured operands. -/
def Recaptures (f : Replacement ω υ) : Prop :=
  ∀ p read, ∃ read', f p read = captured read'

lemma Recaptures.child {f : Replacement ω υ} (hf : Recaptures f) (i : Nat) :
    Recaptures fun p => f (i :: p) := fun p => hf (i :: p)

mutual

/-- No text tells captured operands apart. -/
lemma display_substitute {f : Replacement ω υ} (hf : Recaptures f) (e : Expr ω) :
    (e.substitute f).display = e.display := by
  cases e with
  | parameter => rfl
  | member target name type =>
    simp only [substitute, display, display_substitute (hf.child 0) target]
  | constant v => rfl
  | captured read =>
    obtain ⟨read', h⟩ := hf [] read
    simp only [substitute, h, display]
  | range field min max minInclusive maxInclusive =>
    simp only [substitute, display, display_substitute (hf.child 0) field,
      displaySide_substitute (hf.child 1) min,
      displaySide_substitute (hf.child 2) max]
  | term field value =>
    simp only [substitute, display, display_substitute (hf.child 0) field,
      display_substitute (hf.child 1) value]
  | and es | or es | call method es =>
    simp only [substitute, display, displayList_substitute hf 0 es]
  | not e => simp only [substitute, display, display_substitute (hf.child 0) e]
  | binary op l r =>
    simp only [substitute, display, display_substitute (hf.child 0) l,
      display_substitute (hf.child 1) r]

lemma displaySide_substitute {f : Replacement ω υ} (hf : Recaptures f)
    (side : Option (Expr ω)) : displaySide (substituteSide f side) = displaySide side := by
  cases side with
  | none => rfl
  | some e => simp only [substituteSide, displaySide, display_substitute hf e]

lemma displayList_substitute {f : Replacement ω υ} (hf : Recaptures f) (i : Nat)
    (es : List (Expr ω)) (separator : String) :
    displayList separator (substituteAll f i es) = displayList separator es := by
  match es with
  | [] => rfl
  | [e] => simp only [substituteAll, displayList, display_substitute (hf.child i) e]
  | e :: d :: es =>
    have htail := displayList_substitute hf (i + 1) (d :: es) separator
    simp only [substituteAll] at htail
    simp only [substituteAll, displayList, display_substitute (hf.child i) e, htail]

end

lemma names_substitute {f : Replacement ω υ} (hf : Recaptures f) (e : Expr ω) :
    (e.substitute f).names = e.names := by
  cases e with
  | member target name type =>
    simp only [substitute, names, names_substitute (hf.child 0) target]
  | captured read =>
    obtain ⟨read', h⟩ := hf [] read
    simp only [substitute, h, names]
  | _ => rfl

/-- A field, or how it is refused, does not depend on captured operands. -/
lemma field_substitute {f : Replacement ω υ} (hf : Recaptures f) (e : Expr ω) :
    (e.substitute f).field = e.field := by
  have hresolve : (e.substitute f).resolve = e.resolve := by
    cases e with
    | member target name type =>
      have hnames := names_substitute hf (member target name type)
      simp only [substitute] at hnames
      simp only [substitute, resolve, hnames]
    | captured read =>
      obtain ⟨read', h⟩ := hf [] read
      simp only [substitute, h, resolve]
    | _ => rfl
  simp only [field, hresolve, display_substitute hf]

/-- A path has no captured operands. -/
lemma IsChain.substitute {f : Replacement ω υ} {names : List String}
    (h : e.IsChain names) :
    (e.substitute f).IsChain names := by
  induction h generalizing f with
  | parameter => exact .parameter
  | member type _ hname ih => exact .member type ih hname

lemma IsField.substitute {f : Replacement ω υ} {m : MappedField}
    (h : e.IsField m) : (e.substitute f).IsField m := by
  cases h with
  | intro hchain hkind => exact .intro (hchain.substitute (f := f)) hkind

/-- A captured operand that notes where it stands and what it gave. -/
def recorder (p : Place) (read : ω → Operand × ω) : Expr (ω × ReadLog) :=
  captured fun s => ((read s.1).1, (read s.1).2, s.2 ++ [(p, (read s.1).1)])

/-- An expression whose captured operands note when they are read. -/
def recorded (e : Expr ω) : Expr (ω × ReadLog) := e.substitute recorder

/-- An expression with given values in the place of its captured operands. -/
def filled (values : Place → Operand) (e : Expr ω) : Expr Unit :=
  e.substitute fun p _ => constant (values p)

end Expr

/-! ## Recorded translations -/

/-- How three translations go together: a plain one, the same one with its reads noted, at places
that may lie further down in another expression, and the same one with the values that were read
in the place of its reads. -/
structure Recording {ω α : Type} (plain : Translation ω α)
    (noted : (Place → Place) → Translation (ω × ReadLog) α)
    (given : (Place → Operand) → Translation Unit α) (s : ω) (log : ReadLog) : Prop where
  noted_eq : ∀ below before, noted below (s, before) =
    ((plain s).1, (plain s).2, before ++ log.map (Prod.map below id))
  given_eq : ∀ a s', plain s = (.ok a, s') → ∀ values : Place → Operand,
    (∀ r ∈ log, values r.1 = r.2) → given values () = (.ok a, ())

namespace Recording

variable {ω α β : Type} {x : Translation ω α} {f : α → Translation ω β}
  {y : (Place → Place) → Translation (ω × ReadLog) α}
  {g : (Place → Place) → α → Translation (ω × ReadLog) β}
  {z : (Place → Operand) → Translation Unit α} {h : (Place → Operand) → α → Translation Unit β}
  {s s₁ : ω} {log log₁ : ReadLog} {a : α} {err : Error}

/-- What does not look at the surroundings reads nothing. -/
lemma ofExcept (r : Except Error α) :
    Recording (.ofExcept r) (fun _ => .ofExcept r) (fun _ => .ofExcept r) s [] where
  noted_eq below before := by
    simp only [Translation.ofExcept, List.map_nil, List.append_nil]
  given_eq a s' ha _ _ := by
    obtain ⟨rfl, -⟩ := Translation.ofExcept_eq_ok.1 ha
    rfl

lemma bind_ok (hx : Recording x y z s log) (hok : x s = (.ok a, s₁))
    (hf : Recording (f a) (g · a) (h · a) s₁ log₁) :
    Recording (x >>= f) (fun below => y below >>= g below) (fun values => z values >>= h values) s
      (log ++ log₁) where
  noted_eq below before := by
    have hy : y below (s, before) = (.ok a, s₁, before ++ log.map (Prod.map below id)) := by
      rw [hx.noted_eq, hok]
    rw [Translation.bind_of_ok hy, Translation.bind_of_ok hok, hf.noted_eq, List.map_append,
      List.append_assoc]
  given_eq b s' hb values hvalues := by
    rw [List.forall_mem_append] at hvalues
    rw [Translation.bind_of_ok hok] at hb
    rw [Translation.bind_of_ok (hx.given_eq a s₁ hok values hvalues.1)]
    exact hf.given_eq b s' hb values hvalues.2

lemma bind_error (hx : Recording x y z s log) (herror : x s = (.error err, s₁)) :
    Recording (x >>= f) (fun below => y below >>= g below) (fun values => z values >>= h values) s
      log where
  noted_eq below before := by
    have hy : y below (s, before) = (.error err, s₁, before ++ log.map (Prod.map below id)) := by
      rw [hx.noted_eq, herror]
    rw [Translation.bind_of_error hy, Translation.bind_of_error herror]
  given_eq b s' hb := by
    rw [Translation.bind_of_error herror] at hb
    cases hb

/-- A step after which nothing is read. -/
lemma bind_ofExcept (hx : Recording x y z s log) (r : α → Except Error β) :
    Recording (x >>= fun a => .ofExcept (r a)) (fun below => y below >>= fun a => .ofExcept (r a))
      (fun values => z values >>= fun a => .ofExcept (r a)) s log := by
  cases hresult : x s with
  | mk result s₁ =>
    cases result with
    | error err => exact hx.bind_error hresult
    | ok a =>
      have h := hx.bind_ok (f := fun a => .ofExcept (r a)) (g := fun _ a => .ofExcept (r a))
        (h := fun _ a => .ofExcept (r a)) hresult (.ofExcept (r a))
      rwa [List.append_nil] at h

/-- The child with a number, as part of the whole. -/
lemma child (hx : Recording x y z s log) (i : Nat) :
    Recording x (fun below => y fun p => below (i :: p)) (fun values => z fun p => values (i :: p))
      s (log.map (Prod.map (i :: ·) id)) where
  noted_eq below before := by
    rw [hx.noted_eq, List.map_map]
    rfl
  given_eq a s' ha values hvalues :=
    hx.given_eq a s' ha _ fun r hr => hvalues _ (List.mem_map_of_mem hr)

end Recording

namespace Expr

variable {ω : Type} {e : Expr ω} {es : List (Expr ω)} {s s' : ω} {p : Place} {err : Error}

/-- An expression that is part of another one, with its captured operands noted as parts of that. -/
def recordedBelow (below : Place → Place) (e : Expr ω) : Expr (ω × ReadLog) :=
  e.substitute fun p => recorder (below p)

lemma recaptures_recorder (below : Place → Place) :
    Recaptures fun p (read : ω → Operand × ω) => recorder (below p) read := fun _ _ => ⟨_, rfl⟩

/-- What an operand reads. -/
def operandLog : Expr ω → ω → ReadLog
  | captured read, s => [([], (read s).1)]
  | _, _ => []

/-- What a side of a range reads. -/
def sideLog : Option (Expr ω) → ω → ReadLog
  | none, _ => []
  | some e, s => e.operandLog s

lemma places_operandLog (e : Expr ω) (s : ω) : (e.operandLog s).map Prod.fst = e.operandReads := by
  cases e <;> rfl

lemma places_sideLog (side : Option (Expr ω)) (s : ω) :
    (sideLog side s).map Prod.fst = sideReads side := by
  cases side with
  | none => rfl
  | some e => exact places_operandLog e s

lemma recording_field (e : Expr ω) (s : ω) :
    Recording (.ofExcept e.field) (fun below => .ofExcept (e.recordedBelow below).field)
      (fun values => .ofExcept (e.filled values).field) s [] where
  noted_eq below before := by
    simp only [recordedBelow, field_substitute (recaptures_recorder below), Translation.ofExcept,
      List.map_nil, List.append_nil]
  given_eq m s' hm values _ := by
    obtain ⟨hm, -⟩ := Translation.ofExcept_eq_ok.1 hm
    have hfield : (e.filled values).field = .ok m :=
      field_eq_ok_iff.2 (field_eq_ok_iff.1 hm).substitute
    rw [hfield, Translation.ofExcept]

lemma recording_operand (e : Expr ω) (s : ω) :
    Recording e.operand (fun below => (e.recordedBelow below).operand)
      (fun values => (e.filled values).operand) s (e.operandLog s) where
  noted_eq below before := by
    have hdisplay := display_substitute (recaptures_recorder below) e
    cases e with
    | constant v =>
      simp only [operandLog, List.map_nil, List.append_nil]
      rfl
    | captured read => rfl
    | _ =>
      simp only [recordedBelow, substitute] at hdisplay ⊢
      simp only [operand, hdisplay, operandLog, List.map_nil, List.append_nil]
      rfl
  given_eq v s' hv values hvalues := by
    cases operand_eq_ok_iff.1 hv with
    | constant => rfl
    | captured read =>
      have hread : values [] = (read s).1 := hvalues ([], (read s).1) (List.mem_singleton_self _)
      simp only [filled, substitute, hread]
      rfl

lemma recording_side (f : MappedField) (side : Option (Expr ω)) (s : ω) :
    Recording (Expr.side f side)
      (fun below => Expr.side f (substituteSide (fun p => recorder (below p)) side))
      (fun values => Expr.side f (substituteSide (fun p _ => constant (values p)) side)) s
      (sideLog side s) := by
  cases side with
  | none => exact .ofExcept (.ok none)
  | some e => exact (recording_operand e s).bind_ofExcept f.bound

/-! ## Single clauses -/

/-- What a translation reads: all reads of the expression if it succeeds, and those that do not
come after the node at which it stops if it fails. -/
structure Reading (e : Expr ω) (s : ω) (log : ReadLog) : Prop where
  recording : Recording e.translate (fun below => (e.recordedBelow below).translate)
    (fun values => (e.filled values).translate) s log
  places_of_ok : ∀ q s', e.translate s = (.ok q, s') → log.map Prod.fst = e.reads
  places_of_error : ∀ err s', e.translate s = (.error err, s') →
    ∃ p, e.StopsAt s p ∧ log.map Prod.fst = e.reads.filter fun r => !p.before r

variable {log : ReadLog}

lemma Reading.of_error
    (hrecording : Recording e.translate (fun below => (e.recordedBelow below).translate)
      (fun values => (e.filled values).translate) s log)
    (h : e.translate s = (.error err, s')) (hstops : e.StopsAt s p)
    (hplaces : log.map Prod.fst = e.reads.filter fun r => !p.before r) : e.Reading s log where
  recording := hrecording
  places_of_ok q s' hok := by
    rw [h] at hok
    cases hok
  places_of_error _ _ _ := ⟨p, hstops, hplaces⟩

lemma places_child (i : Nat) (log : ReadLog) :
    (log.map (Prod.map (i :: ·) id)).map Prod.fst = (log.map Prod.fst).map (i :: ·) := by
  rw [List.map_map, List.map_map]
  rfl

/-- All that a clause without a field might read comes after its field. -/
lemma LacksField.filter_reads (h : e.LacksField) :
    (e.reads.filter fun r => !Place.before [0] r) = [] := by
  rw [List.filter_eq_nil_iff]
  intro r hr
  cases e with
  | range | term =>
    obtain ⟨i, hi, rfl⟩ := h.isClause.mem_reads_iff.1 hr
    cases hi <;> decide
  | _ => cases h

lemma reading_range_of_lacksField {field : Expr ω} (min max : Option (Expr ω))
    (minInclusive maxInclusive : Bool)
    (h : ∀ f, field.IsField f → f.semanticType.isNumeric = false) (s : ω) :
    (range field min max minInclusive maxInclusive).Reading s [] := by
  have hfield := (recording_field field s).child 0
  cases hf : field.field with
  | error err =>
    have hresult : Translation.ofExcept field.field s = (.error err, s) :=
      Translation.ofExcept_eq_error.2 ⟨hf, rfl⟩
    have herror : (range field min max minInclusive maxInclusive).translate s =
        (.error err, s) := by
      rw [translate, rangeQuery, Translation.bind_of_error hresult]
    refine .of_error ?_ herror (.field (.range h)) (LacksField.range h).filter_reads.symm
    simp only [recordedBelow, filled, substitute, translate, rangeQuery]
    exact hfield.bind_error hresult
  | ok m =>
    have hresult : Translation.ofExcept field.field s = (.ok m, s) :=
      Translation.ofExcept_eq_ok.2 ⟨hf, rfl⟩
    have hnumeric := h m (field_eq_ok_iff.1 hf)
    have herror : (range field min max minInclusive maxInclusive).translate s =
        (.error (.textRange m.name), s) := by
      rw [translate, rangeQuery, Translation.bind_of_ok hresult, hnumeric]
      rfl
    refine .of_error ?_ herror (.field (.range h)) (LacksField.range h).filter_reads.symm
    simp only [recordedBelow, filled, substitute, translate, rangeQuery]
    refine hfield.bind_ok hresult ?_
    simp only [hnumeric]
    exact .ofExcept (.error (.textRange m.name))

lemma reading_term_of_lacksField {field : Expr ω} (value : Expr ω)
    (h : ∀ f, ¬ field.IsField f) (s : ω) : (term field value).Reading s [] := by
  cases hf : field.field with
  | ok m => exact absurd (field_eq_ok_iff.1 hf) (h m)
  | error err =>
    have hresult : Translation.ofExcept field.field s = (.error err, s) :=
      Translation.ofExcept_eq_error.2 ⟨hf, rfl⟩
    have herror : (term field value).translate s = (.error err, s) := by
      rw [translate, termQuery, Translation.bind_of_error hresult]
    refine .of_error ?_ herror (.field (.term h)) (LacksField.term h).filter_reads.symm
    simp only [recordedBelow, filled, substitute, translate, termQuery]
    exact ((recording_field field s).child 0).bind_error hresult

/-- Nothing is read in a clause without a field: the field is looked at first. -/
lemma LacksField.reading (h : e.LacksField) (s : ω) : e.Reading s [] := by
  cases h with
  | range h => exact reading_range_of_lacksField _ _ _ _ h s
  | term h => exact reading_term_of_lacksField _ h s

/-- The lower side is read, and then the upper one, unless the lower one is refused. -/
lemma exists_recording_sides (m : MappedField) (min max : Option (Expr ω))
    (query : Option NumericValue → Option NumericValue → Query) (s : ω) :
    ∃ log, Recording
      (do
        let lo ← Expr.side m min
        let hi ← Expr.side m max
        return query lo hi)
      (fun below => do
        let lo ← Expr.side m (substituteSide (fun p => recorder (below (1 :: p))) min)
        let hi ← Expr.side m (substituteSide (fun p => recorder (below (2 :: p))) max)
        return query lo hi)
      (fun values => do
        let lo ← Expr.side m (substituteSide (fun p _ => constant (values (1 :: p))) min)
        let hi ← Expr.side m (substituteSide (fun p _ => constant (values (2 :: p))) max)
        return query lo hi) s log ∧
      ((∃ err s₁, Expr.side m min s = (.error err, s₁) ∧
          log.map Prod.fst = (sideReads min).map (1 :: ·)) ∨
        ∃ lo s₁, Expr.side m min s = (.ok lo, s₁) ∧
          log.map Prod.fst = (sideReads min).map (1 :: ·) ++ (sideReads max).map (2 :: ·)) := by
  have hlower := (recording_side m min s).child 1
  cases hmin : Expr.side m min s with
  | mk result s₁ =>
    cases result with
    | error err =>
      refine ⟨_, hlower.bind_error hmin, .inl ⟨err, s₁, rfl, ?_⟩⟩
      rw [places_child, places_sideLog]
    | ok lo =>
      have hupper := (recording_side m max s₁).child 2
      refine ⟨_, hlower.bind_ok hmin (hupper.bind_ofExcept fun hi => .ok (query lo hi)),
        .inr ⟨lo, s₁, rfl, ?_⟩⟩
      rw [List.map_append, places_child, places_child, places_sideLog, places_sideLog]

lemma exists_reading_range {field : Expr ω} (min max : Option (Expr ω))
    (minInclusive maxInclusive : Bool) {m : MappedField} (hm : field.IsField m)
    (hnumeric : m.semanticType.isNumeric = true) (s : ω) :
    ∃ log, (range field min max minInclusive maxInclusive).Reading s log := by
  obtain ⟨log, hrecording, hplaces⟩ := exists_recording_sides m min max
    (fun lo hi => .range ⟨m.name, m.semanticType, lo, hi, minInclusive, maxInclusive⟩) s
  have hfield : Translation.ofExcept field.field s = (.ok m, s) :=
    Translation.ofExcept_eq_ok.2 ⟨field_eq_ok_iff.2 hm, rfl⟩
  refine ⟨log, ?_, ?_, ?_⟩
  · simp only [recordedBelow, filled, substitute, translate, rangeQuery]
    refine ((recording_field field s).child 0).bind_ok hfield ?_
    simpa only [hnumeric, if_true] using hrecording
  · intro q s' hq
    rw [translate] at hq
    obtain ⟨m', lo, hi, s₁, hm', hlo, -, -⟩ := rangeQuery_eq_ok hq
    obtain rfl : m = m' := by simpa [field_eq_ok_iff.2 hm] using hm'
    obtain ⟨err, s₂, herror, -⟩ | ⟨-, -, -, hplaces⟩ := hplaces
    · rw [hlo] at herror
      cases herror
    · exact hplaces
  · intro err s' hq
    rw [translate, rangeQuery_of_numeric hm hnumeric] at hq
    obtain ⟨err, s₁, herror, hplaces⟩ | ⟨lo, s₁, hlo, hplaces⟩ := hplaces
    · refine ⟨[1], .lower hm hnumeric fun s' h => ?_, ?_⟩
      · obtain ⟨lo, hlo⟩ := (exists_side_iff hnumeric).2 h
        rw [hlo] at herror
        cases herror
      · obtain hmin | hmin := sideReads_cases min <;> obtain hmax | hmax := sideReads_cases max <;>
          simp [hplaces, reads, hmin, hmax, Place.before]
    · rw [Translation.bind_of_ok hlo] at hq
      refine ⟨[2], .upper hm hnumeric ((exists_side_iff hnumeric).1 ⟨lo, hlo⟩) fun s' h => ?_, ?_⟩
      · obtain ⟨hi, hhi⟩ := (exists_side_iff hnumeric).2 h
        rw [Translation.bind_of_ok hhi] at hq
        exact Translation.pure_ne_error hq
      · obtain hmin | hmin := sideReads_cases min <;> obtain hmax | hmax := sideReads_cases max <;>
          simp [hplaces, reads, hmin, hmax, Place.before]

/-- An equality reads its value once its field is there. -/
lemma reading_term {field : Expr ω} (value : Expr ω) {m : MappedField} (hm : field.IsField m)
    (s : ω) :
    (term field value).Reading s ((value.operandLog s).map (Prod.map (1 :: ·) id)) := by
  have hfield : Translation.ofExcept field.field s = (.ok m, s) :=
    Translation.ofExcept_eq_ok.2 ⟨field_eq_ok_iff.2 hm, rfl⟩
  have hvalue := (recording_operand value s).child 1
  refine ⟨?_, ?_, ?_⟩
  · simp only [recordedBelow, filled, substitute, translate, termQuery]
    exact ((recording_field field s).child 0).bind_ok hfield (hvalue.bind_ofExcept m.termQuery)
  · intro q s' _
    rw [places_child, places_operandLog, reads]
  · intro err s' herror
    rw [translate] at herror
    refine ⟨[1], .value hm fun v s₁ hreads hsuits => ?_, ?_⟩
    · obtain ⟨q, hq⟩ := MappedField.exists_termQuery_iff.2 hsuits
      rw [termQuery_of_reads hm hreads, hq] at herror
      cases herror
    · rw [places_child, places_operandLog]
      obtain h | h : value.operandReads = [] ∨ value.operandReads = [[]] :=
        sideReads_cases (some value)
      · simp [reads, h]
      · simp [reads, h, Place.before]

/-- Any other expression is refused as it is, and has nothing to read. -/
lemma translate_of_not_comparison (hclause : e.IsClause) (hcomparison : ¬ e.IsComparison) :
    e.translate = throw (.notPredicate e.display) ∧ e.reads = [] ∧
      ∀ below, (e.recordedBelow below).translate = throw (.notPredicate e.display) := by
  have hdisplay (below : Place → Place) := display_substitute (recaptures_recorder below) e
  cases e with
  | and es => exact absurd rfl (hclause es)
  | range => exact absurd (.range ..) hcomparison
  | term => exact absurd (.term ..) hcomparison
  | captured read =>
    refine ⟨by simp only [translate], rfl, fun below => ?_⟩
    simp only [recordedBelow, substitute, recorder, translate, display]
  | _ =>
    refine ⟨by simp only [translate], rfl, fun below => ?_⟩
    rw [← hdisplay below]
    simp only [recordedBelow, substitute, translate]

lemma reading_of_not_comparison (hclause : e.IsClause) (hcomparison : ¬ e.IsComparison) (s : ω) :
    e.Reading s [] := by
  obtain ⟨htranslate, hreads, hrecorded⟩ := translate_of_not_comparison hclause hcomparison
  have herror : e.translate s = (.error (.notPredicate e.display), s) := by
    rw [htranslate]
    rfl
  refine .of_error ⟨?_, ?_⟩ herror (.other hclause hcomparison) (by rw [hreads]; rfl)
  · intro below before
    rw [hrecorded, htranslate, List.map_nil, List.append_nil]
    rfl
  · intro a s' h
    rw [herror] at h
    cases h

/-! ## Whole predicates -/

lemma filter_readsAll_here (i : Nat) (p : Place) (e : Expr ω) (es : List (Expr ω)) :
    (readsAll i (e :: es)).filter (fun r => !Place.before (i :: p) r) =
      (e.reads.filter fun r => !p.before r).map (i :: ·) := by
  have hrest : (readsAll (i + 1) es).filter (fun r => !Place.before (i :: p) r) = [] := by
    rw [List.filter_eq_nil_iff]
    intro r hr
    obtain ⟨j, _, q, -, -, rfl⟩ := mem_readsAll_iff.1 hr
    rw [Place.before_cons_of_lt (by omega)]
    decide
  rw [readsAll, List.filter_append, hrest, List.append_nil, List.filter_map]
  simp only [Function.comp_def, Place.before_cons_self]

lemma filter_readsAll_later {i j : Nat} (h : i < j) (p : Place) (e : Expr ω) (es : List (Expr ω)) :
    (readsAll i (e :: es)).filter (fun r => !Place.before (j :: p) r) =
      e.reads.map (i :: ·) ++
        (readsAll (i + 1) es).filter fun r => !Place.before (j :: p) r := by
  have hfirst : (e.reads.map (i :: ·)).filter (fun r => !Place.before (j :: p) r) =
      e.reads.map (i :: ·) := by
    rw [List.filter_eq_self]
    intro r hr
    obtain ⟨q, -, rfl⟩ := List.mem_map.1 hr
    rw [Place.not_before_cons_of_lt h]
    rfl
  rw [readsAll, List.filter_append, hfirst]

/-- What the translations of clauses one after the other read, from the child with a number on. -/
structure ReadingAll (i : Nat) (es : List (Expr ω)) (s : ω) (log : ReadLog) : Prop where
  recording : Recording (es.mapM translate)
    (fun below => (substituteAll (fun p => recorder (below p)) i es).mapM translate)
    (fun values => (substituteAll (fun p _ => constant (values p)) i es).mapM translate) s log
  places_of_ok : ∀ qs s', es.mapM translate s = (.ok qs, s') → log.map Prod.fst = readsAll i es
  places_of_error : ∀ err s', es.mapM translate s = (.error err, s') →
    ∃ good bad rest s₁ p, es = good ++ bad :: rest ∧ DerivesAll good s s₁ ∧ bad.StopsAt s₁ p ∧
      log.map Prod.fst =
        (readsAll i es).filter fun r => !Place.before ((i + good.length) :: p) r

/-- A clause that stops keeps all clauses behind it from being read. -/
lemma Reading.stop (h : e.Reading s log) {s₁ : ω} (herror : e.translate s = (.error err, s₁))
    (i : Nat) (es : List (Expr ω)) :
    ReadingAll i (e :: es) s (log.map (Prod.map (i :: ·) id)) where
  recording := by
    simp only [substituteAll, List.mapM_cons]
    exact (h.recording.child i).bind_error herror
  places_of_ok qs s' hok := by
    rw [List.mapM_cons, Translation.bind_of_error herror] at hok
    cases hok
  places_of_error err' s' herror' := by
    obtain ⟨p, hstops, hplaces⟩ := h.places_of_error err s₁ herror
    refine ⟨[], e, es, s, p, rfl, .nil s, hstops, ?_⟩
    rw [places_child, hplaces]
    exact (filter_readsAll_here i p e es).symm

/-- The reads of a clause that translates come before those of the clauses behind it. -/
lemma Reading.next (h : e.Reading s log) {s₁ : ω} {query : Query}
    (hok : e.translate s = (.ok query, s₁)) {i : Nat} {log₁ : ReadLog}
    (hes : ReadingAll (i + 1) es s₁ log₁) :
    ReadingAll i (e :: es) s (log.map (Prod.map (i :: ·) id) ++ log₁) where
  recording := by
    simp only [substituteAll, List.mapM_cons]
    exact (h.recording.child i).bind_ok hok
      (hes.recording.bind_ofExcept fun queries => .ok (query :: queries))
  places_of_ok qs s' hall := by
    rw [List.mapM_cons, Translation.bind_of_ok hok] at hall
    obtain ⟨queries, s₂, hqueries, -⟩ := Translation.bind_eq_ok.1 hall
    rw [List.map_append, places_child, h.places_of_ok query s₁ hok,
      hes.places_of_ok queries s₂ hqueries, readsAll]
  places_of_error err s' herror := by
    rw [List.mapM_cons, Translation.bind_of_ok hok] at herror
    obtain herror | ⟨_, _, -, herror⟩ := Translation.bind_eq_error.1 herror
    · obtain ⟨good, bad, rest, s₂, p, rfl, hgood, hstops, hplaces⟩ :=
        hes.places_of_error err s' herror
      refine ⟨e :: good, bad, rest, s₂, p, rfl,
        .cons (exists_translate_iff.1 ⟨query, hok⟩) hgood, hstops, ?_⟩
      rw [List.map_append, places_child, h.places_of_ok query s₁ hok, hplaces, List.length_cons,
        Nat.add_right_comm, Nat.add_assoc, filter_readsAll_later (by omega)]
    · exact absurd herror Translation.pure_ne_error

/-- A conjunction reads what its clauses read. -/
lemma ReadingAll.and (h : ReadingAll 0 es s log) : (Expr.and es).Reading s log where
  recording := by
    simp only [recordedBelow, filled, substitute, translate, translateAll_eq_mapM, map_eq_pure_bind]
    exact h.recording.bind_ofExcept fun queries => .ok (queries.foldl Query.intersect .all)
  places_of_ok q s' hok := by
    rw [translate, translateAll_eq_mapM, Translation.map_eq_ok] at hok
    obtain ⟨queries, hqueries, -⟩ := hok
    exact h.places_of_ok queries s' hqueries
  places_of_error err s' herror := by
    rw [translate, translateAll_eq_mapM, Translation.map_eq_error] at herror
    obtain ⟨good, bad, rest, s₁, p, rfl, hgood, hstops, hplaces⟩ := h.places_of_error err s' herror
    rw [Nat.zero_add] at hplaces
    exact ⟨good.length :: p, .within hgood hstops, hplaces⟩

mutual

theorem exists_reading (e : Expr ω) (s : ω) : ∃ log, e.Reading s log := by
  cases e with
  | range field min max minInclusive maxInclusive =>
    by_cases h : ∃ m, field.IsField m ∧ m.semanticType.isNumeric = true
    · obtain ⟨m, hm, hnumeric⟩ := h
      exact exists_reading_range min max minInclusive maxInclusive hm hnumeric s
    · refine ⟨[], LacksField.reading (.range fun m hm => ?_) s⟩
      simpa using fun hnumeric => h ⟨m, hm, hnumeric⟩
  | term field value =>
    by_cases h : ∃ m, field.IsField m
    · obtain ⟨m, hm⟩ := h
      exact ⟨_, reading_term value hm s⟩
    · exact ⟨[], LacksField.reading (.term fun m hm => h ⟨m, hm⟩) s⟩
  | and es =>
    obtain ⟨log, h⟩ := exists_readingAll 0 es s
    exact ⟨log, h.and⟩
  | _ => exact ⟨[], reading_of_not_comparison (by rintro es ⟨⟩) (by rintro ⟨⟩) s⟩

theorem exists_readingAll (i : Nat) (es : List (Expr ω)) (s : ω) :
    ∃ log, ReadingAll i es s log := by
  cases es with
  | nil =>
    refine ⟨[], ?_, fun _ _ _ => rfl, fun _ _ h => absurd h Translation.pure_ne_error⟩
    exact .ofExcept (.ok [])
  | cons e es =>
    obtain ⟨log, he⟩ := exists_reading e s
    cases h : e.translate s with
    | mk result s₁ =>
      cases result with
      | error err => exact ⟨_, he.stop h i es⟩
      | ok query =>
        obtain ⟨log₁, hes⟩ := exists_readingAll (i + 1) es s₁
        exact ⟨_, he.next h hes⟩

end

/-! ## The values that were read -/

lemma exists_values {log : ReadLog} (h : (log.map Prod.fst).Nodup) :
    ∃ values : Place → Operand, ∀ r ∈ log, values r.1 = r.2 := by
  induction log with
  | nil => exact ⟨fun _ => .null, by simp⟩
  | cons r log ih =>
    rw [List.map_cons, List.nodup_cons] at h
    obtain ⟨values, hvalues⟩ := ih h.2
    refine ⟨fun p => if p = r.1 then r.2 else values p, List.forall_mem_cons.2 ⟨if_pos rfl, ?_⟩⟩
    intro t ht
    have hne : t.1 ≠ r.1 := fun heq => h.1 (heq ▸ List.mem_map_of_mem ht)
    exact (if_neg hne).trans (hvalues t ht)

/-- Captured operands are read once and in order. The captured operands of the clauses, from left to
right, are what a translation that succeeds reads, each of them once, and the query is that of the
expression with the values that were read in their places. A translation that fails reads those of
them that do not come after the one node at which it stops. In no case is anything read in a clause
without a field to compare. -/
theorem translate_reads_in_order (e : Expr ω) (s : ω) :
    e.reads.Pairwise (Place.before · · = true) ∧
    (∀ p, p ∈ e.reads ↔ ∃ q c i, e.ClauseAt q c ∧ c.Captures i ∧ p = q ++ [i]) ∧
    ∃ log : ReadLog,
      e.recorded.translate (s, []) = ((e.translate s).1, (e.translate s).2, log) ∧
      (∀ query s', e.translate s = (.ok query, s') → ∃ values : Place → Operand,
        log = e.reads.map (fun p => (p, values p)) ∧
        (e.filled values).translate () = (.ok query, ())) ∧
      (∀ err s', e.translate s = (.error err, s') → ∃ p, (∀ q, e.StopsAt s q ↔ q = p) ∧
        log.map Prod.fst = e.reads.filter fun r => !p.before r) ∧
      ∀ q c, e.ClauseAt q c → c.LacksField → ∀ r ∈ log.map Prod.fst, ¬ q <+: r := by
  obtain ⟨log, hrecording, hok, herror⟩ := exists_reading e s
  refine ⟨reads_pairwise e, fun p => mem_reads_iff, log, ?_, ?_, ?_, ?_⟩
  · have h := hrecording.noted_eq id []
    rwa [List.nil_append, Prod.map_id, List.map_id] at h
  · intro query s' h
    have hplaces := hok query s' h
    obtain ⟨values, hvalues⟩ := exists_values (hplaces ▸ reads_nodup e)
    refine ⟨values, ?_, hrecording.given_eq query s' h values hvalues⟩
    rw [← hplaces, List.map_map]
    refine (List.map_id log).symm.trans (List.map_congr_left fun r hr => ?_)
    exact Prod.ext rfl (hvalues r hr).symm
  · intro err s' h
    obtain ⟨p, hstops, hplaces⟩ := herror err s' h
    exact ⟨p, fun q => ⟨fun hq => hq.unique hstops, fun hq => hq ▸ hstops⟩, hplaces⟩
  · intro q c hc hlacks r hr hq
    cases h : e.translate s with
    | mk result s' =>
      cases result with
      | ok query =>
        obtain ⟨s₁, s₂, hderives⟩ := hc.exists_derives (exists_translate_iff.1 ⟨query, h⟩)
        exact hlacks.not_derives hderives
      | error err =>
        obtain ⟨p, hstops, hplaces⟩ := herror err s' h
        rw [hplaces, List.mem_filter] at hr
        rw [hc.before_of_lacksField hlacks hstops hr.1 hq] at hr
        exact absurd hr.2 (by decide)

/-- Numbers between two values and equal to a third one, all of them taken from a counter. -/
def counted : Expr Nat :=
  let number : Property Nat := .ofName "id" (.leaf .integer)
  let next : Expr Nat := .captured fun n => (.long (Int64.ofNat n), n + 1)
  and [number.between next next, and [number.term next]]

/-- The same with a range over text in between, which is refused. -/
def miscounted : Expr Nat :=
  let number : Property Nat := .ofName "id" (.leaf .integer)
  let tags : Property Nat := .ofName "tags" (.sequence (.leaf .string))
  let next : Expr Nat := .captured fun n => (.long (Int64.ofNat n), n + 1)
  and [number.term next, and [tags.between next next], number.term next]

theorem translate_reads_in_order_counted :
    (∃ query, counted.translate 5 = (.ok query, 8)) ∧
      (∃ log values, counted.recorded.translate (5, []) = ((counted.translate 5).1, 8, log) ∧
        log = [([0, 1], values [0, 1]), ([0, 2], values [0, 2]), ([1, 0, 1], values [1, 0, 1])] ∧
        (counted.filled values).translate () = ((counted.translate 5).1, ())) ∧
      miscounted.recorded.translate (5, []) =
        (.error (.textRange "tags"), 6, [([0, 1], .long (Int64.ofNat 5))]) ∧
      ∃ p, (∀ q, miscounted.StopsAt 5 q ↔ q = p) ∧
        [[0, 1]] = miscounted.reads.filter fun r => !Place.before p r := by
  have hok : counted.translate 5 = (.ok _, 8) := rfl
  have herror : miscounted.translate 5 = (.error (.textRange "tags"), 6) := rfl
  have hrecorded : miscounted.recorded.translate (5, []) =
      (.error (.textRange "tags"), 6, [([0, 1], .long (Int64.ofNat 5))]) := rfl
  obtain ⟨-, -, log, hlog, hvalues, -⟩ := translate_reads_in_order counted 5
  obtain ⟨values, hread, hfilled⟩ := hvalues _ _ hok
  obtain ⟨-, -, log', hlog', -, hstops, -⟩ := translate_reads_in_order miscounted 5
  obtain ⟨p, hp, hplaces⟩ := hstops _ _ herror
  obtain rfl : log' = _ := congrArg (·.2.2) (hlog'.symm.trans hrecorded)
  exact ⟨⟨_, hok⟩, ⟨log, values, hlog, hread, hfilled⟩, hrecorded, p, hp, hplaces⟩

end Expr

end FieldSearch
