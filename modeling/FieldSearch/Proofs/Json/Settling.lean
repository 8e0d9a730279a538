import FieldSearch.Json.Settle
import Mathlib.Data.List.Perm.Basic
import Mathlib.Tactic.Lemma

/-!
# Settling the members of an object

To settle an object is to settle what its members hold and to put the members in order by name. Of
members with one name only the last one is left. Where the names differ none is dropped, and the
order does not show to a reader that asks for a member by its name, nor to one that puts what it
has read in order by name itself:

* `lookup_sortEntries` — a name has the same entry before and after;
* `mapValues?_sortEntries` — reading all entries and sorting comes to the same.
-/

namespace FieldSearch

variable {α β γ : Type} {name : String} {a : α} {l l' : List (String × α)}

/-! ## Entries in order -/

lemma perm_putSorted (h : name ∉ l.map (·.1)) : (putSorted name a l).Perm ((name, a) :: l) := by
  induction l with
  | nil => exact .refl _
  | cons e l ih =>
    obtain ⟨k, b⟩ := e
    obtain ⟨hk, hl⟩ : name ≠ k ∧ name ∉ l.map (·.1) := by
      simpa only [List.map_cons, List.mem_cons, not_or] using h
    rw [putSorted, if_neg hk]
    split
    · exact .refl _
    · exact ((ih hl).cons _).trans (.swap ..)

lemma perm_foldl_putSorted {sorted : List (String × α)} (h : ((l ++ sorted).map (·.1)).Nodup) :
    (l.foldl (fun sorted (name, a) => putSorted name a sorted) sorted).Perm (l ++ sorted) := by
  induction l generalizing sorted with
  | nil => exact .refl _
  | cons e l ih =>
    obtain ⟨k, b⟩ := e
    obtain ⟨hk, hrest⟩ := List.nodup_cons.1 h
    have hsorted : k ∉ sorted.map (·.1) := fun hmem =>
      hk (List.map_append.symm ▸ List.mem_append_right _ hmem)
    have hput : (l ++ putSorted k b sorted).Perm ((k, b) :: (l ++ sorted)) :=
      ((perm_putSorted hsorted).append_left l).trans List.perm_middle
    exact (ih ((hput.map _).nodup_iff.2 h)).trans hput

/-- Entries whose names differ are all kept. -/
lemma perm_sortEntries (h : (l.map (·.1)).Nodup) : (sortEntries l).Perm l := by
  have hperm := perm_foldl_putSorted (by rwa [List.append_nil])
  rwa [List.append_nil] at hperm

lemma mem_putSorted {e : String × α} (h : e ∈ putSorted name a l) : e = (name, a) ∨ e ∈ l := by
  induction l with
  | nil => exact .inl (List.mem_singleton.1 h)
  | cons f l ih =>
    obtain ⟨k, b⟩ := f
    rw [putSorted] at h
    split at h
    · rcases List.mem_cons.1 h with rfl | h
      · exact .inl rfl
      · exact .inr (List.mem_cons_of_mem _ h)
    · split at h
      · exact List.mem_cons.1 h
      · rcases List.mem_cons.1 h with rfl | h
        · exact .inr List.mem_cons_self
        · exact (ih h).imp_right (List.mem_cons_of_mem _)

lemma pairwise_putSorted (h : l.Pairwise fun e f => e.1 < f.1) :
    (putSorted name a l).Pairwise fun e f => e.1 < f.1 := by
  induction l with
  | nil => exact List.pairwise_singleton ..
  | cons f l ih =>
    obtain ⟨k, b⟩ := f
    obtain ⟨hk, hl⟩ := List.pairwise_cons.1 h
    rw [putSorted]
    split
    next heq =>
      subst heq
      exact .cons hk hl
    next hne =>
      split
      next hlt =>
        refine .cons (fun e he => ?_) h
        rcases List.mem_cons.1 he with rfl | he
        · exact hlt
        · exact String.lt_trans hlt (hk e he)
      next hnlt =>
        refine .cons (fun e he => ?_) (ih hl)
        rcases mem_putSorted he with rfl | he
        · exact Std.lt_of_le_of_ne (String.not_lt.1 hnlt) (Ne.symm hne)
        · exact hk e he

lemma pairwise_foldl_putSorted {sorted : List (String × α)}
    (h : sorted.Pairwise fun e f => e.1 < f.1) :
    (l.foldl (fun sorted (name, a) => putSorted name a sorted) sorted).Pairwise
      fun e f => e.1 < f.1 := by
  induction l generalizing sorted with
  | nil => exact h
  | cons e l ih => exact ih (pairwise_putSorted h)

/-- Entries whose names differ are sorted in one way, whatever order they come in. -/
lemma sortEntries_eq_of_perm (hperm : l.Perm l') (h : (l.map (·.1)).Nodup) :
    sortEntries l = sortEntries l' := by
  have hsorted := ((perm_sortEntries h).trans hperm).trans
    (perm_sortEntries ((hperm.map _).nodup_iff.1 h)).symm
  exact hsorted.eq_of_pairwise (fun e f _ _ hef hfe => absurd hef (String.lt_asymm hfe))
    (pairwise_foldl_putSorted .nil) (pairwise_foldl_putSorted .nil)

/-- The entry of a name, of names that differ. -/
lemma lookup_eq_some_iff_mem (h : (l.map (·.1)).Nodup) :
    l.lookup name = some a ↔ (name, a) ∈ l := by
  induction l with
  | nil => simp
  | cons e l ih =>
    obtain ⟨k, b⟩ := e
    obtain ⟨hk, hl⟩ := List.nodup_cons.1 h
    rw [List.lookup_cons]
    by_cases hname : name = k
    · subst hname
      have hnot : (name, a) ∉ l := fun hmem => hk (List.mem_map.2 ⟨_, hmem, rfl⟩)
      simp [hnot, eq_comm]
    · have hne : (name == k) = false := beq_eq_false_iff_ne.2 hname
      simp [hne, hname, ih hl]

/-- A name has the same entry before and after sorting. -/
lemma lookup_sortEntries (h : (l.map (·.1)).Nodup) (name : String) :
    (sortEntries l).lookup name = l.lookup name := by
  have hperm := perm_sortEntries h
  ext a
  rw [lookup_eq_some_iff_mem ((hperm.map _).nodup_iff.2 h), lookup_eq_some_iff_mem h,
    hperm.mem_iff]

/-! ## Reading the values of entries -/

/-- The entries with their values read, if all can be. -/
def mapValues? (read : α → Option β) (l : List (String × α)) : Option (List (String × β)) :=
  l.mapM fun (name, a) => (read a).map (name, ·)

variable {read : α → Option β}

lemma mapValues?_cons (read : α → Option β) (name : String) (a : α) (l : List (String × α)) :
    mapValues? read ((name, a) :: l) =
      (read a).bind fun b => (mapValues? read l).map ((name, b) :: ·) := by
  have hcons : mapValues? read ((name, a) :: l) =
      ((read a).map (name, ·)).bind fun p => (mapValues? read l).bind fun r => some (p :: r) :=
    List.mapM_cons
  rw [hcons]
  cases read a <;> cases mapValues? read l <;> rfl

lemma names_mapValues? {r : List (String × β)} (h : mapValues? read l = some r) :
    r.map (·.1) = l.map (·.1) := by
  induction l generalizing r with
  | nil =>
    obtain rfl := Option.some.inj h
    rfl
  | cons e l ih =>
    obtain ⟨k, b⟩ := e
    rw [mapValues?_cons] at h
    obtain ⟨c, -, h⟩ := Option.bind_eq_some_iff.1 h
    obtain ⟨r', hr', rfl⟩ := Option.map_eq_some_iff.1 h
    exact congrArg (k :: ·) (ih hr')

lemma lookup_mapValues? {r : List (String × β)} (h : mapValues? read l = some r) (name : String) :
    r.lookup name = (l.lookup name).bind read := by
  induction l generalizing r with
  | nil =>
    obtain rfl := Option.some.inj h
    rfl
  | cons e l ih =>
    obtain ⟨k, b⟩ := e
    rw [mapValues?_cons] at h
    obtain ⟨c, hc, h⟩ := Option.bind_eq_some_iff.1 h
    obtain ⟨r', hr', rfl⟩ := Option.map_eq_some_iff.1 h
    rw [List.lookup_cons, List.lookup_cons, ih hr']
    cases name == k with
    | true => exact hc.symm
    | false => rfl

/-- Two steps for each value, or one step for all values and then the other one: a failure is a
failure, wherever it is. -/
lemma mapValues?_bind {again : β → Option γ} {both : α → Option γ}
    (h : ∀ e ∈ l, (read e.2).bind again = both e.2) :
    (mapValues? read l).bind (mapValues? again) = mapValues? both l := by
  induction l with
  | nil => rfl
  | cons e l ih =>
    obtain ⟨k, b⟩ := e
    rw [List.forall_mem_cons] at h
    rw [mapValues?_cons, mapValues?_cons, ← h.1, ← ih h.2]
    cases read b with
    | none => rfl
    | some c =>
      cases mapValues? read l with
      | none => exact (Option.bind_fun_none (again c)).symm
      | some r => exact mapValues?_cons again k c r

lemma exists_of_mem_mapValues? {r : List (String × β)} {e : String × β}
    (h : mapValues? read l = some r) (he : e ∈ r) : ∃ a, (e.1, a) ∈ l ∧ read a = some e.2 := by
  induction l generalizing r with
  | nil =>
    obtain rfl := Option.some.inj h
    cases he
  | cons f l ih =>
    obtain ⟨k, b⟩ := f
    rw [mapValues?_cons] at h
    obtain ⟨c, hc, h⟩ := Option.bind_eq_some_iff.1 h
    obtain ⟨r', hr', rfl⟩ := Option.map_eq_some_iff.1 h
    rcases List.mem_cons.1 he with rfl | he
    · exact ⟨b, List.mem_cons_self, hc⟩
    · obtain ⟨a, ha, hread⟩ := ih hr' he
      exact ⟨a, List.mem_cons_of_mem _ ha, hread⟩

lemma exists_read_of_mapValues? {r : List (String × β)} {e : String × α}
    (h : mapValues? read l = some r) (he : e ∈ l) : ∃ b, (e.1, b) ∈ r ∧ read e.2 = some b := by
  induction l generalizing r with
  | nil => cases he
  | cons f l ih =>
    obtain ⟨k, b⟩ := f
    rw [mapValues?_cons] at h
    obtain ⟨c, hc, h⟩ := Option.bind_eq_some_iff.1 h
    obtain ⟨r', hr', rfl⟩ := Option.map_eq_some_iff.1 h
    rcases List.mem_cons.1 he with rfl | he
    · exact ⟨c, List.mem_cons_self, hc⟩
    · obtain ⟨d, hd, hread⟩ := ih hr' he
      exact ⟨d, List.mem_cons_of_mem _ hd, hread⟩

lemma exists_of_mapValues?_eq_none (h : mapValues? read l = none) :
    ∃ e ∈ l, read e.2 = none := by
  induction l with
  | nil => cases h
  | cons f l ih =>
    obtain ⟨k, b⟩ := f
    rw [mapValues?_cons] at h
    cases hread : read b with
    | none => exact ⟨_, List.mem_cons_self, hread⟩
    | some c =>
      rw [hread, Option.bind_some, Option.map_eq_none_iff] at h
      obtain ⟨e, he, hnone⟩ := ih h
      exact ⟨e, List.mem_cons_of_mem _ he, hnone⟩

/-- Entries are read in any order. -/
lemma perm_mapValues? (read : α → Option β) (h : l.Perm l') :
    Option.Rel List.Perm (mapValues? read l) (mapValues? read l') := by
  induction h with
  | nil => exact .some (.refl _)
  | @cons e l l' _ ih =>
    obtain ⟨k, b⟩ := e
    rw [mapValues?_cons, mapValues?_cons]
    generalize mapValues? read l = r, mapValues? read l' = r' at ih
    cases read b with
    | none => exact .none
    | some c =>
      cases ih with
      | none => exact .none
      | some hperm => exact .some (hperm.cons _)
  | swap e f l =>
    obtain ⟨k, b⟩ := e
    obtain ⟨k', b'⟩ := f
    simp only [mapValues?_cons]
    cases read b <;> cases read b' <;> cases mapValues? read l
    case some.some.some => exact .some (.swap ..)
    all_goals exact .none
  | @trans l l' l'' _ _ ih ih' =>
    generalize mapValues? read l = r, mapValues? read l' = r', mapValues? read l'' = r'' at ih ih' ⊢
    cases ih with
    | none => exact ih'
    | some hperm =>
      cases ih' with
      | some hperm' => exact .some (hperm.trans hperm')

/-- Reading the entries in order of their names, and putting them in this order, comes to the same
as reading them as they come. -/
lemma mapValues?_sortEntries (read : α → Option β) (h : (l.map (·.1)).Nodup) :
    (mapValues? read (sortEntries l)).map sortEntries = (mapValues? read l).map sortEntries := by
  have hperm := perm_mapValues? read (perm_sortEntries h)
  have hnames {r : List (String × β)} (hr : mapValues? read l = some r) : (r.map (·.1)).Nodup := by
    rwa [names_mapValues? hr]
  generalize mapValues? read (sortEntries l) = r, mapValues? read l = r' at hperm hnames
  cases hperm with
  | none => rfl
  | some hperm =>
    have hnodup := (hperm.map (·.1)).nodup_iff.2 (hnames rfl)
    exact congrArg some (sortEntries_eq_of_perm hperm hnodup)

/-! ## Settled trees -/

namespace Json

lemma namedMembers?_ofMembers (pairs : List (String × Json)) :
    namedMembers? (pairs.map fun (name, j) => (some name, j)) = some pairs := by
  induction pairs with
  | nil => rfl
  | cons p pairs ih =>
    rw [namedMembers?] at ih
    rw [List.map_cons, namedMembers?, List.mapM_cons, ih]
    rfl

lemma settle_array (depth : Nat) (js : List Json) :
    (array js).settle (depth + 1) = (js.mapM (settle depth)).map array := by
  cases h : js.mapM (settle depth) <;> simp [settle, settleWith, h]

lemma settle_ofMembers (depth : Nat) (pairs : List (String × Json)) :
    (ofMembers pairs).settle (depth + 1) =
      (mapValues? (settle depth) pairs).map fun settled => ofMembers (sortEntries settled) := by
  rw [Option.map_eq_bind]
  exact congrArg (Option.bind · _) (namedMembers?_ofMembers pairs)

end Json

end FieldSearch
