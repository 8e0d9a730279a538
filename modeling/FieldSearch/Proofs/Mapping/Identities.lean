import FieldSearch.Proofs.Mapping.Recorded

/-!
# Identities tell types apart

The identity of a type is its name, a comma and a blank, and the module of the name, which is the
part before the first `::`. Names may have commas and blanks themselves, so no delimiter says where
the name ends; and the module that follows is a prefix of the name, as long as the name allows.

Still an identity can be read in one way only. If one name were longer than the other one, it would
be the shorter one with something behind it, which starts with a comma. A shorter name that has a
`::` gives both names one module (`moduleOf_append`), and the lengths of the two identities differ.
A shorter name without a `::` is its own module, and the module of the longer name goes on behind
the comma (`moduleOf_append_comma`), so the lengths differ again.

Main statement: `TypeIdentity.ofTypeName_eq_iff`.
-/

namespace FieldSearch

namespace TypeIdentity

variable {name rest : List Char}

/-! ## Modules -/

lemma moduleOf_cons {c : Char} {cs : List Char} (h : ∀ tail, c :: cs ≠ ':' :: ':' :: tail) :
    moduleOf (c :: cs) = c :: moduleOf cs := by
  rw [moduleOf.eq_2]
  rintro tail rfl rfl
  exact h tail rfl

/-- What follows a name with a module is no part of the module. -/
lemma moduleOf_append (h : moduleOf name ≠ name) : moduleOf (name ++ rest) = moduleOf name := by
  fun_induction moduleOf name with
  | case1 tail => rfl
  | case2 c cs hcolons ih =>
    have hcs : moduleOf cs ≠ cs := fun heq => h (congrArg (c :: ·) heq)
    rw [List.cons_append, moduleOf_cons, ih hcs]
    -- The name goes on behind its first character, or it would be its own module.
    cases cs with
    | nil => exact absurd rfl hcs
    | cons d ds =>
      rintro tail ⟨⟩
      exact hcolons _ rfl rfl
  | case3 => exact absurd rfl h

/-- Behind a comma the module of a name without one goes on. -/
lemma moduleOf_append_comma (h : moduleOf name = name) :
    moduleOf (name ++ ',' :: rest) = name ++ ',' :: moduleOf rest := by
  fun_induction moduleOf name with
  | case1 tail => cases h
  | case2 c cs hcolons ih =>
    rw [List.cons_append, moduleOf_cons, ih (List.cons.inj h).2, List.cons_append]
    cases cs with
    | nil => rintro tail ⟨⟩
    | cons d ds =>
      rintro tail ⟨⟩
      exact hcolons _ rfl rfl
  | case3 => exact moduleOf_cons (by rintro tail ⟨⟩)

/-! ## Identities -/

lemma toList_text_ofTypeName (full : String) :
    (ofTypeName full).text.toList =
      plainName full.toList ++ (',' :: ' ' :: moduleOf (plainName full.toList)) := by
  simp [ofTypeName, ofParts]

/-- A longer name has another identity. -/
lemma eq_nil_of_identity_eq
    (h : (name ++ rest) ++ (',' :: ' ' :: moduleOf (name ++ rest)) =
      name ++ (',' :: ' ' :: moduleOf name)) : rest = [] := by
  rw [List.append_assoc, List.append_cancel_left_eq] at h
  have hlength := congrArg List.length h
  by_cases hmodule : moduleOf name = name
  · cases rest with
    | nil => rfl
    | cons c cs =>
      obtain ⟨rfl, -⟩ := List.cons.inj h
      simp only [moduleOf_append_comma hmodule, hmodule, List.length_append, List.length_cons]
        at hlength
      omega
  · simp only [moduleOf_append hmodule, List.length_append, List.length_cons] at hlength
    exact List.eq_nil_of_length_eq_zero (by omega)

lemma name_eq_of_identity_eq {name' : List Char}
    (h : name ++ (',' :: ' ' :: moduleOf name) = name' ++ (',' :: ' ' :: moduleOf name')) :
    name = name' := by
  obtain ⟨rest, rfl, -⟩ | ⟨rest, rfl, -⟩ := List.append_eq_append_iff.1 h
  · rw [eq_nil_of_identity_eq h.symm, List.append_nil]
  · rw [eq_nil_of_identity_eq h, List.append_nil]

/-! ## Type names -/

/-- A type name without the mark of a dynamic type, if it starts with one. -/
def unmarked (full : String) : List Char :=
  if "dyn ".toList <+: full.toList then full.toList.drop 4 else full.toList

lemma plainName_toList (full : String) : plainName full.toList = unmarked full := by
  unfold unmarked
  generalize full.toList = cs
  fun_cases plainName cs with
  | case1 name =>
    rw [if_pos ⟨name, rfl⟩]
    rfl
  | case2 _ hplain =>
    rw [if_neg]
    rintro ⟨name, rfl⟩
    exact hplain name rfl

lemma ofTypeName_inj_iff {a b : String} :
    ofTypeName a = ofTypeName b ↔ unmarked a = unmarked b := by
  rw [← plainName_toList, ← plainName_toList]
  constructor
  · intro h
    apply name_eq_of_identity_eq
    rw [← toList_text_ofTypeName, ← toList_text_ofTypeName, h]
  · intro h
    simp only [ofTypeName, h]

/-- **Identities tell types apart.** Two type names have one identity exactly if they are the same
without a leading mark of a dynamic type. So of the documents that a mapper writes, a filter for a
type finds those that were recorded under its own name, marked or not, and no others. -/
theorem ofTypeName_eq_iff (a b : String) :
    ((ofTypeName a).text = (ofTypeName b).text ↔ unmarked a = unmarked b) ∧
    ∀ (m : FieldMapper) (types : RecordedTypes) (d : Document), m.Writes types d →
      (types.actual = ofTypeName a →
        ((IndexedDocument.ofDocument d).satisfies (.ofActualType (ofTypeName b)) = true ↔
          unmarked a = unmarked b)) ∧
      (types.declared = ofTypeName a →
        ((IndexedDocument.ofDocument d).satisfies (.ofDeclaredType (ofTypeName b)) = true ↔
          unmarked a = unmarked b)) := by
  refine ⟨?_, fun m types d hd => ⟨fun hactual => ?_, fun hdeclared => ?_⟩⟩
  · rw [← ofTypeName_inj_iff]
    exact ⟨fun htext => congrArg mk htext, congrArg text⟩
  · rw [hd.satisfies_ofActualType, hactual, ofTypeName_inj_iff]
  · rw [hd.satisfies_ofDeclaredType, hdeclared, ofTypeName_inj_iff]

/-- A document recorded under a dynamic type is found by its plain name, and not by a name that
goes on as the identity does. -/
theorem ofTypeName_eq_iff_dynamic :
    ∃ d, (FieldMapper.mk {} {}).Writes (.of (ofTypeName "dyn x::A")) d ∧
      (IndexedDocument.ofDocument d).satisfies (.ofActualType (ofTypeName "x::A")) = true ∧
      ¬ (IndexedDocument.ofDocument d).satisfies (.ofActualType (ofTypeName "x::A, x")) = true := by
  have hwrites : (FieldMapper.mk {} {}).Writes (.of (ofTypeName "dyn x::A")) _ :=
    ⟨.record "A" [("n", .int 7)], ⟨fun _ => 100, 0, 0⟩, rfl⟩
  have hplain := ((ofTypeName_eq_iff "dyn x::A" "x::A").2 _ _ _ hwrites).1 rfl
  have hlonger := ((ofTypeName_eq_iff "dyn x::A" "x::A, x").2 _ _ _ hwrites).1 rfl
  exact ⟨_, hwrites, hplain.2 (by decide), fun h => absurd (hlonger.1 h) (by decide)⟩

end TypeIdentity

end FieldSearch
