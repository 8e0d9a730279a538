import FieldSearch.Proofs.Query.Translation

/-!
# Property paths

What an expression has to look like to be a path, and what its field is then, told apart from the
way resolving finds it out: the field of a chain of named members has the name of the chain and
the kind that the declared type of the last member has under its sequences and options.

Resolving goes from the last member inward, so a member without a name is found before anything
is known of what lies below it. `Expr.field_eq_error_iff` lists what is refused, and how.
-/

namespace FieldSearch

/-! ## Declared types -/

namespace DeclaredType

/-- What is left of a declared type without the sequences and options around it. -/
def core : DeclaredType → DeclaredType
  | sequence t | optional t => t.core
  | t => t

variable {t : DeclaredType} {kind : LeafKind} {err : Error}

lemma classify_eq_ok_iff : t.classify = .ok kind ↔ t.core = .leaf kind := by
  induction t with
  | leaf _ => simp [classify, core]
  | sequence t ih => exact ih
  | optional t ih => exact ih
  | object name => simp [classify, core]
  | unsupported name => simp [classify, core]

/-- What is no leaf at its core is refused by what it is there. -/
inductive Fieldless (t : DeclaredType) : Error → Prop
  | object {name : String} : t.core = .object name → Fieldless t (.compositeProperty name)
  | unsupported {name : String} : t.core = .unsupported name → Fieldless t (.unmappedProperty name)

lemma Fieldless.of_core {u : DeclaredType} (hcore : t.core = u.core) (h : t.Fieldless err) :
    u.Fieldless err := by
  cases h with
  | object h => exact .object (hcore ▸ h)
  | unsupported h => exact .unsupported (hcore ▸ h)

lemma classify_eq_error_iff : t.classify = .error err ↔ t.Fieldless err := by
  induction t with
  | leaf kind =>
    constructor
    · rintro ⟨⟩
    · rintro (⟨⟨⟩⟩ | ⟨⟨⟩⟩)
  | sequence t ih => exact ih.trans ⟨.of_core rfl, .of_core rfl⟩
  | optional t ih => exact ih.trans ⟨.of_core rfl, .of_core rfl⟩
  | object name =>
    constructor
    · rintro ⟨⟩
      exact .object rfl
    · rintro (⟨⟨⟩⟩ | ⟨⟨⟩⟩)
      rfl
  | unsupported name =>
    constructor
    · rintro ⟨⟩
      exact .unsupported rfl
    · rintro (⟨⟨⟩⟩ | ⟨⟨⟩⟩)
      rfl

end DeclaredType

/-! ## Chains of members -/

namespace Expr

variable {ω : Type} {e target : Expr ω} {name : String} {type : DeclaredType}
  {names : List String} {err : Error} {f : MappedField}

/-- A chain of named members down from the parameter. -/
inductive IsChain : Expr ω → List String → Prop
  | parameter : IsChain .parameter []
  | member {target : Expr ω} {names : List String} {name : String} (type : DeclaredType) :
      target.IsChain names → name ≠ "" → IsChain (.member target name type) (names ++ [name])

/-- A member without a name, or members of such a one. -/
inductive IsUnnamed : Expr ω → Prop
  | here (target : Expr ω) (type : DeclaredType) : IsUnnamed (.member target "" type)
  | within {target : Expr ω} (name : String) (type : DeclaredType) :
      target.IsUnnamed → IsUnnamed (.member target name type)

lemma isChain_member_iff :
    (member target name type).IsChain names ↔
      ∃ ns, target.IsChain ns ∧ name ≠ "" ∧ names = ns ++ [name] := by
  constructor
  · rintro (_ | ⟨_, h, hname⟩)
    exact ⟨_, h, hname, rfl⟩
  · rintro ⟨ns, h, hname, rfl⟩
    exact .member type h hname

lemma isUnnamed_member_iff :
    (member target name type).IsUnnamed ↔ name = "" ∨ target.IsUnnamed := by
  constructor
  · rintro (_ | ⟨_, _, h⟩)
    · exact .inl rfl
    · exact .inr h
  · rintro (rfl | h)
    · exact .here target type
    · exact .within name type h

lemma names_eq_some_iff : e.names = .ok (some names) ↔ e.IsChain names := by
  fun_induction Expr.names e generalizing names with
  | case1 =>
    constructor
    · rintro ⟨⟩
      exact .parameter
    · rintro ⟨⟩
      rfl
  | case2 => simp [isChain_member_iff]
  | case3 target name type hname ih =>
    rw [isChain_member_iff]
    constructor
    · intro h
      cases htarget : target.names with
      | error e => simp [htarget, Except.map] at h
      | ok found =>
        cases found with
        | none => simp [htarget, Except.map] at h
        | some ns =>
          refine ⟨ns, ih.1 htarget, hname, ?_⟩
          simpa [htarget, Except.map] using h.symm
    · rintro ⟨ns, htarget, -, rfl⟩
      rw [ih.2 htarget]
      rfl
  | case4 e hparameter hmember =>
    constructor
    · rintro ⟨⟩
    · rintro (_ | _)
      · exact (hparameter rfl).elim
      · exact (hmember _ _ _ rfl).elim

lemma names_eq_error_iff : e.names = .error err ↔ e.IsUnnamed ∧ err = .emptyPropertyName := by
  fun_induction Expr.names e with
  | case1 =>
    constructor
    · rintro ⟨⟩
    · rintro ⟨⟨⟩, -⟩
  | case2 target type => simp [isUnnamed_member_iff, eq_comm]
  | case3 target name type hname ih =>
    rw [isUnnamed_member_iff, or_iff_right hname, ← ih]
    cases target.names with
    | error e => simp [Except.map]
    | ok found => simp [Except.map]
  | case4 e hparameter hmember =>
    constructor
    · rintro ⟨⟩
    · rintro ⟨_ | _, -⟩
      · exact (hmember _ _ _ rfl).elim
      · exact (hmember _ _ _ rfl).elim

/-! ## Fields -/

/-- A chain of one member at least with a leaf at the core of its type, and the field of that
name and kind. -/
inductive IsField : Expr ω → MappedField → Prop
  | intro {target : Expr ω} {name : String} {type : DeclaredType} {names : List String}
      {kind : LeafKind} : (member target name type).IsChain names → type.core = .leaf kind →
      IsField (.member target name type) ⟨Path.ofNames names, kind⟩

/-- What has no field, and how it is refused: by a missing name wherever it is, as no path, or by
the type at the end of the path. -/
inductive Fieldless : Expr ω → Error → Prop
  | unnamed {e : Expr ω} : e.IsUnnamed → Fieldless e .emptyPropertyName
  | notPath {e : Expr ω} :
      ¬ e.IsUnnamed → (∀ ns, e.IsChain ns → ns = []) → Fieldless e (.notPath e.display)
  | type {target : Expr ω} {name : String} {type : DeclaredType} {names : List String}
      {err : Error} : (member target name type).IsChain names → type.Fieldless err →
      Fieldless (.member target name type) err

lemma resolve_eq_some_iff : e.resolve = .ok (some f) ↔ e.IsField f := by
  constructor
  · intro h
    cases e with
    | member target name type =>
      simp only [resolve] at h
      split at h
      · cases h
      · cases h
      · rename_i ns hnames
        cases hkind : type.classify with
        | error err => simp [hkind, Except.map] at h
        | ok kind =>
          simp only [hkind, Except.map, Except.ok.injEq, Option.some.injEq] at h
          subst h
          exact .intro (names_eq_some_iff.1 hnames) (DeclaredType.classify_eq_ok_iff.1 hkind)
    | _ => simp [resolve] at h
  · rintro ⟨hnames, hkind⟩
    rw [resolve, names_eq_some_iff.2 hnames, DeclaredType.classify_eq_ok_iff.2 hkind]
    rfl

lemma field_eq_ok_iff : e.field = .ok f ↔ e.IsField f := by
  rw [← resolve_eq_some_iff, field]
  split
  · simp [*]
  · simp [*]
  · simp [*]

lemma names_eq_none_of_notPath (hunnamed : ¬ e.IsUnnamed) (hchain : ∀ ns, ¬ e.IsChain ns) :
    e.names = .ok none := by
  cases h : e.names with
  | error err => exact (hunnamed (names_eq_error_iff.1 h).1).elim
  | ok found =>
    cases found with
    | none => rfl
    | some ns => exact (hchain ns (names_eq_some_iff.1 h)).elim

theorem field_eq_error_iff : e.field = .error err ↔ e.Fieldless err := by
  constructor
  · intro h
    cases e with
    | member target name type =>
      simp only [field, resolve] at h
      cases hnames : (member target name type).names with
      | error err' =>
        obtain ⟨hunnamed, rfl⟩ := names_eq_error_iff.1 hnames
        obtain rfl : Error.emptyPropertyName = err := by simpa [hnames] using h
        exact .unnamed hunnamed
      | ok found =>
        have hunnamed : ¬ (member target name type).IsUnnamed := by
          intro hu
          simp [names_eq_error_iff.2 ⟨hu, rfl⟩] at hnames
        cases found with
        | none =>
          obtain rfl : Error.notPath (member target name type).display = err := by
            simpa [hnames] using h
          refine .notPath hunnamed fun ns hns => ?_
          simp [names_eq_some_iff.2 hns] at hnames
        | some ns =>
          cases hkind : type.classify with
          | error err' =>
            obtain rfl : err' = err := by simpa [hnames, hkind, Except.map] using h
            exact .type (names_eq_some_iff.1 hnames) (DeclaredType.classify_eq_error_iff.1 hkind)
          | ok kind => simp [hnames, hkind, Except.map] at h
    | parameter =>
      obtain rfl := Except.error.inj h
      refine .notPath (by rintro ⟨⟩) fun ns hns => ?_
      cases hns
      rfl
    | _ =>
      obtain rfl := Except.error.inj h
      exact .notPath (by rintro ⟨⟩) (by rintro _ ⟨⟩)
  · intro h
    cases h with
    | unnamed hunnamed =>
      have hnames := names_eq_error_iff.2 ⟨hunnamed, rfl⟩
      cases hunnamed <;> simp only [field, resolve, hnames]
    | notPath hunnamed hchain =>
      cases e with
      | member target name type =>
        have hnames := names_eq_none_of_notPath hunnamed fun ns hns => by
          obtain ⟨ms, -, -, rfl⟩ := isChain_member_iff.1 hns
          simpa using hchain _ hns
        simp only [field, resolve, hnames]
      | _ => rfl
    | type hchain htype =>
      simp only [field, resolve, names_eq_some_iff.2 hchain,
        DeclaredType.classify_eq_error_iff.2 htype, Except.map]

end Expr

end FieldSearch
