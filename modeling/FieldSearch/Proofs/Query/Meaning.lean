import FieldSearch.Proofs.Engine.Matching
import FieldSearch.Proofs.Mapping.Envelope
import FieldSearch.Proofs.Query.Translation

/-!
# Translation preserves meaning

`Expr.Holds` reads a settled predicate directly over the entries that an object was projected
onto: a range asks for one entry within both bounds, a term for one entry that is equal to it or
has it among its words, a conjunction for all of its clauses. The document of the object matches
the translated query exactly then.

The statement is about predicates that fit the entries (`Expr.Fits`): their paths are not names of
the envelope, and ranges and numeric terms compare integers with integers. Floats are compared as
doubles by the engine, which is no reading of the predicate itself.

Main statement: `Expr.satisfies_iff_holds`.
-/

namespace FieldSearch

/-! ## Operands as integers -/

namespace Operand

/-- The integer that an operand is kept as in a field of integers. -/
def encoded? : Operand → Option Int64
  | long n => some n
  | boolean b => some (if b then 1 else 0)
  | dateTime x => x.toTicks?
  | duration d => d.toTicks?
  | _ => none

/-- Whether an operand is null or of a kind that is kept as an integer. -/
def isIntegral : Operand → Bool
  | null | long _ | boolean _ | dateTime _ | duration _ => true
  | float _ | double _ | string _ => false

end Operand

namespace MappedField

variable {f : MappedField} {v : Operand} {q : Query}

lemma bound_of_integral {b : Option NumericValue} (hf : f.semanticType = .long)
    (hv : v.isIntegral = true) (h : f.bound v = .ok b) :
    v = .null ∧ b = none ∨ v ≠ .null ∧ ∃ n, v.encoded? = some n ∧ b = some (.long n) := by
  cases v with
  | null =>
    simp only [bound, Except.ok.injEq] at h
    exact .inl ⟨rfl, h.symm⟩
  | long n | boolean n =>
    simp only [bound, hf, Except.ok.injEq] at h
    exact .inr ⟨by simp, _, rfl, h.symm⟩
  | dateTime x | duration x =>
    simp only [bound, hf] at h
    split at h
    next n hn =>
      simp only [Except.ok.injEq] at h
      exact .inr ⟨by simp, n, hn, h.symm⟩
    next => cases h
  | float _ | double _ | string _ => cases hv

lemma termQuery_of_string (hf : f.semanticType = .string) (h : f.termQuery v = .ok q) :
    ∃ t, v = .string t ∧ q = .term f.name t := by
  unfold termQuery at h
  rw [if_pos hf] at h
  cases v with
  | string t => exact ⟨t, rfl, (Except.ok.inj h).symm⟩
  | _ => cases h

lemma termQuery_of_integral (hf : f.semanticType = .long) (hv : v.isIntegral = true)
    (h : f.termQuery v = .ok q) :
    ∃ n, v.encoded? = some n ∧ q = .range (.point f.name .long (.long n)) := by
  unfold termQuery at h
  rw [if_neg (by simp [hf])] at h
  split at h
  · cases h
  next b hb =>
    obtain ⟨-, hnone⟩ | ⟨-, n, hn, hbound⟩ := bound_of_integral hf hv hb
    · cases hnone
    · obtain rfl := Option.some.inj hbound
      rw [hf] at h
      exact ⟨n, hn, (Except.ok.inj h).symm⟩
  · cases h

end MappedField

/-! ## Ranges of integers -/

namespace NumericRange

variable {r : NumericRange} {n b : Int64}

lemma aboveMin_open (h : r.min = none) : r.aboveMin (.long n) = true := by
  rw [aboveMin, h]
  rfl

lemma belowMax_open (h : r.max = none) : r.belowMax (.long n) = true := by
  rw [belowMax, h]
  rfl

/-- An integer is on one side of a bound, and comparing says on which. -/
lemma compare_long_cases (n b : Int64) :
    (n < b ∧ (NumericValue.long b).compare? (.long n) = some .lt) ∨
      (n = b ∧ (NumericValue.long b).compare? (.long n) = some .eq) ∨
      (b < n ∧ (NumericValue.long b).compare? (.long n) = some .gt) := by
  have hcompare : (NumericValue.long b).compare? (.long n) = some (compare n.toInt b.toInt) := rfl
  rw [hcompare, Int64.lt_iff_toInt_lt, Int64.lt_iff_toInt_lt, ← Int64.toInt_inj]
  rcases Int.lt_trichotomy n.toInt b.toInt with hlt | heq | hgt
  · exact .inl ⟨hlt, congrArg some (Int.compare_eq_lt.2 hlt)⟩
  · exact .inr (.inl ⟨heq, congrArg some (Int.compare_eq_eq.2 heq)⟩)
  · exact .inr (.inr ⟨hgt, congrArg some (Int.compare_eq_gt.2 hgt)⟩)

lemma aboveMin_long (h : r.min = some (.long b)) :
    r.aboveMin (.long n) = true ↔ if r.minInclusive then b ≤ n else b < n := by
  unfold aboveMin
  rw [h]
  rcases compare_long_cases n b with ⟨hlt, hord⟩ | ⟨rfl, hord⟩ | ⟨hgt, hord⟩
  · cases r.minInclusive <;> simp [hord, hlt, Int64.le_of_lt]
  · cases r.minInclusive <;> simp [hord]
  · cases r.minInclusive <;> simp [hord, hgt, Int64.le_of_lt]

lemma belowMax_long (h : r.max = some (.long b)) :
    r.belowMax (.long n) = true ↔ if r.maxInclusive then n ≤ b else n < b := by
  unfold belowMax
  rw [h]
  rcases compare_long_cases n b with ⟨hlt, hord⟩ | ⟨rfl, hord⟩ | ⟨hgt, hord⟩
  · cases r.maxInclusive <;> simp [hord, hlt, Int64.le_of_lt]
  · cases r.maxInclusive <;> simp [hord]
  · cases r.maxInclusive <;> simp [hord, hgt, Int64.le_of_lt]

lemma contains_point {field : String} {kind : SemanticType} :
    (point field kind (.long b)).contains (.long n) = true ↔ b = n := by
  rw [contains, Bool.and_eq_true, aboveMin_long rfl, belowMax_long rfl]
  simp only [point, if_true, Int64.le_iff_toInt_le, ← Int64.toInt_inj]
  omega

end NumericRange

/-! ## Reading a predicate -/

namespace Expr

variable {ω : Type}

/-- A side of a range whose bound, if it has one, is right. A null operand is no bound. -/
def Bounds (right : Int64 → Prop) : Option (Expr ω) → Prop
  | none => True
  | some (constant v) => v = .null ∨ ∃ b, v.encoded? = some b ∧ right b
  | some _ => False

mutual

/-- A settled predicate holds of the entries of an object. -/
def Holds (entries : List Field) : Expr ω → Prop
  | range field min max minInclusive maxInclusive =>
    ∃ f ∈ entries, f.name = field.dotted ∧ ∃ n, f.value = .long n ∧
      Bounds (fun b => if minInclusive then b ≤ n else b < n) min ∧
      Bounds (fun b => if maxInclusive then n ≤ b else n < b) max
  | term field (constant (.string t)) =>
    ∃ f ∈ entries, f.name = field.dotted ∧ ∃ text, f.value = .string text ∧
      if f.option.analyzed then t ∈ analyze text else text = t
  | term field (constant v) =>
    ∃ f ∈ entries, f.name = field.dotted ∧ ∃ n, f.value = .long n ∧ v.encoded? = some n
  | and es => HoldsAll entries es
  | _ => False

/-- All of the predicates hold. -/
def HoldsAll (entries : List Field) : List (Expr ω) → Prop
  | [] => True
  | e :: es => e.Holds entries ∧ HoldsAll entries es

end

/-- An operand that is null or of a kind that is kept as an integer. -/
def Integral (e : Expr ω) : Prop := ∀ v, e = constant v → v.isIntegral = true

/-- A property of integers, all of whose entries are integers. -/
def OnIntegers (entries : List Field) (field : Expr ω) : Prop :=
  field.family? = some .long ∧
    ∀ f ∈ entries, f.name = field.dotted → ∃ n, f.value = .long n

mutual

/-- A predicate stays clear of the envelope and compares only integers in ranges and terms of
numbers. -/
def Fits (entries : List Field) : Expr ω → Prop
  | range field min max _ _ =>
    isReserved field.dotted = false ∧ OnIntegers entries field ∧
      (∀ e ∈ min, e.Integral) ∧ ∀ e ∈ max, e.Integral
  | term field value =>
    isReserved field.dotted = false ∧
      (field.family? = some .string ∨ OnIntegers entries field ∧ value.Integral)
  | and es => FitsAll entries es
  | _ => True

/-- All of the predicates fit. -/
def FitsAll (entries : List Field) : List (Expr ω) → Prop
  | [] => True
  | e :: es => e.Fits entries ∧ FitsAll entries es

end

/-! ## Leaves of a predicate -/

variable {f : MappedField} {s s' : ω} {right : Int64 → Prop}

/-- A check of one side of a range asks what the settled side asks, if it asks nothing without a
bound and asks of a bound what is right. -/
lemma check_iff_bounds {e : Option (Expr ω)} {b : Option NumericValue} {check : Bool}
    (hf : f.semanticType = .long) (h : side f e s = (.ok b, s'))
    (hintegral : ∀ a ∈ (settleSide e s).1, a.Integral) (hopen : b = none → check = true)
    (hbound : ∀ n, b = some (.long n) → (check = true ↔ right n)) :
    check = true ↔ Bounds right (settleSide e s).1 := by
  obtain ⟨he, hnone⟩ | ⟨v, he, hb⟩ := settleSide_of_side h
  · rw [he]
    exact iff_of_true (hopen hnone) trivial
  · rw [he] at hintegral ⊢
    have hv : v.isIntegral = true := hintegral _ rfl v rfl
    obtain ⟨rfl, hnone⟩ | ⟨hnull, n, hn, hsome⟩ := MappedField.bound_of_integral hf hv hb
    · exact iff_of_true (hopen hnone) (.inl rfl)
    · rw [hbound n hsome]
      simp [Bounds, hnull, hn]

lemma holds_term_of_integral {entries : List Field} {field : Expr ω} {w : Operand}
    (hw : w.isIntegral = true) :
    (term field (constant w)).Holds entries ↔
      ∃ f ∈ entries, f.name = field.dotted ∧
        ∃ n, f.value = .long n ∧ w.encoded? = some n := by
  cases w with
  | string t => cases hw
  | _ => simp only [Holds]

/-! ## The theorem -/

section

variable {m : FieldMapper} {v : Value} {types : RecordedTypes} {clock : WriteClock}
  {d p : Document} {s s' : ω} {q : Query}

/-- Under a path outside the envelope, the indexed fields of a document are those of its
object. -/
lemma exists_field_iff (hdocument : (m.toDocument v types clock).1 = .ok d)
    (hproject : m.project v = .ok p) {name : String} (hname : isReserved name = false)
    {P : Field → Prop} :
    (∃ f ∈ d.fields, f.name = name ∧ f.option.indexed = true ∧ P f) ↔
      ∃ f ∈ p.fields, f.name = name ∧ P f := by
  obtain ⟨p', payload, hp', -, hfields⟩ := FieldMapper.toDocument_eq_ok hdocument
  obtain rfl : p' = p := Except.ok.inj (hp'.symm.trans hproject)
  constructor
  · rintro ⟨f, hf, rfl, -, hP⟩
    rw [hfields, List.mem_append] at hf
    obtain hf | hf := hf
    · exact ⟨f, hf, rfl, hP⟩
    · rw [Envelope.isReserved_added f hf] at hname
      cases hname
  · rintro ⟨f, hf, rfl, hP⟩
    refine ⟨f, ?_, rfl, FieldMapper.indexed_of_project hproject f hf, hP⟩
    rw [hfields]
    exact List.mem_append_left _ hf

lemma satisfies_rangeQuery (hdocument : (m.toDocument v types clock).1 = .ok d)
    (hproject : m.project v = .ok p) {field : Expr ω} {min max : Option (Expr ω)}
    {minInclusive maxInclusive : Bool}
    (h : rangeQuery field min max minInclusive maxInclusive s = (.ok q, s'))
    (hfits : ((range field min max minInclusive maxInclusive).settle s).1.Fits p.fields) :
    (IndexedDocument.ofDocument d).satisfies q = true ↔
      ((range field min max minInclusive maxInclusive).settle s).1.Holds p.fields := by
  obtain ⟨f, lo, hi, s₁, hf, hlo, hhi, rfl⟩ := rangeQuery_eq_ok h
  obtain ⟨hname, hfamily⟩ := field_eq_ok hf
  simp only [settle, settleSide_snd hlo, Fits, Holds] at hfits ⊢
  obtain ⟨hreserved, ⟨hlong, hentries⟩, hmin, hmax⟩ := hfits
  have hkind : f.semanticType = .long := Option.some.inj (hfamily.symm.trans hlong)
  rw [IndexedDocument.satisfies_range_iff, hname,
    exists_field_iff hdocument hproject hreserved]
  refine exists_congr fun x => and_congr_right fun hx => and_congr_right fun hpath => ?_
  obtain ⟨n, hn⟩ := hentries x hx hpath
  have hlower : NumericRange.aboveMin ⟨field.dotted, f.semanticType, lo, hi, minInclusive,
      maxInclusive⟩ (.long n) = true ↔
        Bounds (fun b => if minInclusive then b ≤ n else b < n) (settleSide min s).1 :=
    check_iff_bounds hkind hlo hmin (fun hb => NumericRange.aboveMin_open hb)
      fun _ hb => NumericRange.aboveMin_long hb
  have hupper : NumericRange.belowMax ⟨field.dotted, f.semanticType, lo, hi, minInclusive,
      maxInclusive⟩ (.long n) = true ↔
        Bounds (fun b => if maxInclusive then n ≤ b else n < b) (settleSide max s₁).1 :=
    check_iff_bounds hkind hhi hmax (fun hb => NumericRange.belowMax_open hb)
      fun _ hb => NumericRange.belowMax_long hb
  rw [hn, NumericRange.contains, Bool.and_eq_true, hlower, hupper]
  simp only [FieldValue.long.injEq, exists_eq_left']

lemma satisfies_termQuery (hdocument : (m.toDocument v types clock).1 = .ok d)
    (hproject : m.project v = .ok p) {field value : Expr ω}
    (h : termQuery field value s = (.ok q, s'))
    (hfits : ((term field value).settle s).1.Fits p.fields) :
    (IndexedDocument.ofDocument d).satisfies q = true ↔
      ((term field value).settle s).1.Holds p.fields := by
  obtain ⟨f, w, hf, hw, hq⟩ := termQuery_eq_ok h
  obtain ⟨hname, hfamily⟩ := field_eq_ok hf
  simp only [settle, settleOperand_of_operand hw, Fits] at hfits ⊢
  obtain ⟨hreserved, hstring | ⟨⟨hlong, hentries⟩, hintegral⟩⟩ := hfits
  · have hkind : f.semanticType = .string := Option.some.inj (hfamily.symm.trans hstring)
    obtain ⟨t, rfl, rfl⟩ := MappedField.termQuery_of_string hkind hq
    rw [IndexedDocument.satisfies_term_iff, hname, Holds]
    exact exists_field_iff hdocument hproject hreserved
  · have hkind : f.semanticType = .long := Option.some.inj (hfamily.symm.trans hlong)
    obtain ⟨b, hb, rfl⟩ := MappedField.termQuery_of_integral hkind (hintegral w rfl) hq
    have hpoint : (NumericRange.point f.name .long (.long b)).field = field.dotted := hname
    rw [IndexedDocument.satisfies_range_iff, hpoint, exists_field_iff hdocument hproject hreserved,
      holds_term_of_integral (hintegral w rfl)]
    refine exists_congr fun x => and_congr_right fun hx => and_congr_right fun hpath => ?_
    obtain ⟨n, hn⟩ := hentries x hx hpath
    rw [hn, NumericRange.contains_point, hb]
    simp

mutual

theorem satisfies_translate {m : FieldMapper} {v : Value} {types : RecordedTypes}
    {clock : WriteClock} {d p : Document} (hdocument : (m.toDocument v types clock).1 = .ok d)
    (hproject : m.project v = .ok p) {e : Expr ω} {s s' : ω} {q : Query}
    (h : e.translate s = (.ok q, s')) (hfits : (e.settle s).1.Fits p.fields) :
    (IndexedDocument.ofDocument d).satisfies q = true ↔ (e.settle s).1.Holds p.fields := by
  cases e with
  | range field min max minInclusive maxInclusive =>
    rw [translate] at h
    exact satisfies_rangeQuery hdocument hproject h hfits
  | term field value =>
    rw [translate] at h
    exact satisfies_termQuery hdocument hproject h hfits
  | and es =>
    rw [translate] at h
    simp only [settle, Fits, Holds] at hfits ⊢
    rw [satisfies_translateAll hdocument hproject h hfits]
    simp [IndexedDocument.satisfies]
  | _ =>
    simp only [translate] at h
    exact absurd h Translation.throw_ne_ok

theorem satisfies_translateAll {m : FieldMapper} {v : Value} {types : RecordedTypes}
    {clock : WriteClock} {d p : Document} (hdocument : (m.toDocument v types clock).1 = .ok d)
    (hproject : m.project v = .ok p) {es : List (Expr ω)} {s s' : ω} {q r : Query}
    (h : translateAll q es s = (.ok r, s')) (hfits : FitsAll p.fields (settleAll es s).1) :
    (IndexedDocument.ofDocument d).satisfies r = true ↔
      (IndexedDocument.ofDocument d).satisfies q = true ∧
        HoldsAll p.fields (settleAll es s).1 := by
  cases es with
  | nil =>
    obtain ⟨rfl, rfl⟩ := Translation.pure_eq_ok.1 h
    simp [settleAll, HoldsAll]
  | cons e es =>
    rw [translateAll] at h
    obtain ⟨a, s₁, he, hes⟩ := Translation.bind_eq_ok.1 h
    simp only [settleAll, settle_of_translate he, FitsAll, HoldsAll] at hfits ⊢
    rw [satisfies_translateAll hdocument hproject hes hfits.2,
      IndexedDocument.satisfies_intersect, satisfies_translate hdocument hproject he hfits.1,
      and_assoc]

end

end

/-- If an object has a document and a predicate has a query, then the object was projected onto
entries, and if the predicate fits them, the document matches the query exactly if the predicate
holds of the entries. Captured operands count with the values they had while the query was made,
and nothing else was read from the surroundings. -/
theorem satisfies_iff_holds (m : FieldMapper) (v : Value) (types : RecordedTypes)
    (clock : WriteClock) (d : Document) (hdocument : (m.toDocument v types clock).1 = .ok d)
    (e : Expr ω) (s s' : ω) (q : Query) (htranslate : e.translate s = (.ok q, s')) :
    ∃ p, m.project v = .ok p ∧ (e.settle s).2 = s' ∧
      ((e.settle s).1.Fits p.fields →
        ((IndexedDocument.ofDocument d).satisfies q = true ↔
          (e.settle s).1.Holds p.fields)) := by
  obtain ⟨p, payload, hproject, -, -⟩ := FieldMapper.toDocument_eq_ok hdocument
  exact ⟨p, hproject, settle_of_translate htranslate,
    satisfies_translate hdocument hproject htranslate⟩

/-- A note with two tags. -/
def note : Value :=
  .record "Note" [("id", .int 7), ("tags", .sequence [.text "Red Fox", .text "blue"])]

/-- The fields of the note. -/
def noteFields : List Field :=
  [⟨"id", .long 7, .exact⟩, ⟨"tags", .string "Red Fox", ⟨true, false, true⟩⟩,
    ⟨"tags", .string "blue", ⟨true, false, true⟩⟩]

/-- Notes from a captured number on, with a word in a tag. The surroundings are the number, which
grows when it is read. -/
def fromNumber : Expr Nat :=
  .and [(Property.ofName "id" (.leaf .integer)).between
      (.captured fun n => (.long (.ofNat n), n + 1)) (.constant .null),
    .and [(Property.ofName "tags" (.sequence (.leaf .string))).term (.constant (.string "fox"))]]

theorem satisfies_iff_holds_note :
    ∃ d q,
      ((FieldMapper.mk { storeSource := false } {}).toDocument note (.of ⟨"Note"⟩)
        ⟨fun _ => 100, 0, 0⟩).1 = .ok d ∧
      fromNumber.translate 5 = (.ok q, 6) ∧ (fromNumber.settle 5).1.Fits noteFields ∧
      ((IndexedDocument.ofDocument d).satisfies q = true ↔
        (fromNumber.settle 5).1.Holds noteFields) := by
  have hdocument : ((FieldMapper.mk { storeSource := false } {}).toDocument note (.of ⟨"Note"⟩)
      ⟨fun _ => 100, 0, 0⟩).1 = .ok ⟨noteFields ++
        [⟨"$type", .string "Note", ⟨true, true, false⟩⟩,
          ⟨"$static_type", .string "Note", ⟨true, true, false⟩⟩,
          ⟨"$timestamp", .long 100, .storedOnly⟩]⟩ := rfl
  have htranslate : fromNumber.translate 5 =
      (.ok (.intersection [.range ⟨"id", .long, some (.long 5), none, true, true⟩,
        .term "tags" "fox"]), 6) := rfl
  have hfits : (fromNumber.settle 5).1.Fits noteFields := by
    simp [noteFields, fromNumber, Property.term, Property.between, Property.ofName,
      ObjectPath.property, Property.range, settle, settleAll, settleSide, settleOperand, Fits,
      FitsAll, OnIntegers, family?, DeclaredType.classify, Except.toOption,
      LeafKind.semanticType, dotted, Path.join, Integral, Operand.isIntegral, isReserved,
      reservedFields, actualTypeField, declaredTypeField, sourceField, timestampField]
  obtain ⟨p, hproject, -, hiff⟩ := satisfies_iff_holds _ _ _ _ _ hdocument _ _ _ _ htranslate
  obtain rfl : ⟨noteFields⟩ = p := Except.ok.inj hproject
  exact ⟨_, _, hdocument, htranslate, hfits, hiff hfits⟩

end Expr

end FieldSearch
