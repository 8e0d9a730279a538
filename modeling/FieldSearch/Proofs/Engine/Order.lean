import FieldSearch.Engine.Rank
import Mathlib.Tactic.Lemma

/-!
# The order of hits

An order ranks hits key by key. `Precedes` says what that means without comparing anything to the
end: the first key that tells two hits apart puts one of them first, against its direction if the
key is descending, and hits that no key tells apart go by address.

* `Precedes.trans`, `Precedes.irrefl` and `Precedes.total` — hits at different addresses are in a
  strict total order, whatever their fields hold.
* `rank_order_eq_lt_iff` — the comparison of ranks decides it.
-/

namespace FieldSearch

/-- A document and its address. -/
abbrev Hit := Nat × Document

/-! ## Values -/

namespace SortValue

/-- The strict order of values: missing ones lowest, integers by size, reals in total order and
text by code points. Values of different families are not ordered, since no key sees both. -/
inductive Below : SortValue → SortValue → Prop
  | missing {v : SortValue} (h : v ≠ missing) : Below missing v
  | integer {m n : Int64} (h : m.toInt < n.toInt) : Below (integer m) (integer n)
  | real {x y : Double} (h : x.totalKey < y.totalKey) : Below (real x) (real y)
  | text {s t : String} (h : s < t) : Below (text s) (text t)

lemma Below.irrefl (v : SortValue) : ¬ v.Below v := by
  intro h
  cases h with
  | missing h => exact h rfl
  | integer h => exact Int.lt_irrefl _ h
  | real h => exact Int.lt_irrefl _ h
  | text h => exact String.lt_irrefl _ h

lemma Below.trans {u v w : SortValue} (huv : u.Below v) (hvw : v.Below w) : u.Below w := by
  cases huv with
  | missing h =>
    apply Below.missing
    rintro rfl
    cases hvw
    exact h rfl
  | integer h =>
    cases hvw with
    | integer h' => exact .integer (Int.lt_trans h h')
  | real h =>
    cases hvw with
    | real h' => exact .real (Int.lt_trans h h')
  | text h =>
    cases hvw with
    | text h' => exact .text (String.lt_trans h h')

/-- Values that one key can see: of one family, or missing. -/
def Comparable (v w : SortValue) : Prop := v = missing ∨ w = missing ∨ v.family = w.family

lemma Comparable.symm {v w : SortValue} (h : v.Comparable w) : w.Comparable v := by
  rcases h with h | h | h
  · exact .inr (.inl h)
  · exact .inl h
  · exact .inr (.inr h.symm)

lemma order_eq_eq_iff {v w : SortValue} : v.order w = .eq ↔ v = w := by
  cases v <;> cases w <;> simp [order, family]
  case integer.integer m n => exact Int64.toInt_inj
  case real.real x y => rw [Binary.totalOrder, Int.compare_eq_eq, Binary.totalKey_inj]

lemma order_text_eq_lt_iff {s t : String} : (text s).order (text t) = .lt ↔ s < t :=
  compareOfLessAndEq_eq_lt

lemma order_swap (v w : SortValue) : (v.order w).swap = w.order v := by
  cases v <;> cases w <;> try rfl
  case integer.integer m n => exact Int.compare_swap _ _
  case real.real x y => exact Int.compare_swap _ _
  case text.text s t => exact (Std.OrientedOrd.eq_swap).symm

/-- On values of one key, comparing decides the strict order. -/
lemma order_eq_lt_iff_below {v w : SortValue} (h : v.Comparable w) :
    v.order w = .lt ↔ v.Below w := by
  constructor
  · intro hlt
    rcases h with rfl | rfl | h
    · refine .missing ?_
      rintro rfl
      exact absurd hlt (by decide)
    · cases v <;> cases hlt
    · cases v <;> cases w <;> simp [family] at h
      case missing.missing => exact absurd hlt (by decide)
      case integer.integer => exact .integer (Int.compare_eq_lt.1 hlt)
      case real.real => exact .real (Int.compare_eq_lt.1 hlt)
      case text.text => exact .text (order_text_eq_lt_iff.1 hlt)
  · intro hb
    cases hb with
    | missing hw =>
      cases w with
      | missing => exact absurd rfl hw
      | integer | real | text => rfl
    | integer hlt => exact Int.compare_eq_lt.2 hlt
    | real hlt => exact Int.compare_eq_lt.2 hlt
    | text hlt => exact order_text_eq_lt_iff.2 hlt

lemma Comparable.total {v w : SortValue} (h : v.Comparable w) (hne : v ≠ w) :
    v.Below w ∨ w.Below v := by
  rw [← order_eq_lt_iff_below h, ← order_eq_lt_iff_below h.symm, ← order_swap v w]
  have heq : v.order w ≠ .eq := fun heq => hne (order_eq_eq_iff.1 heq)
  revert heq
  cases v.order w <;> simp

end SortValue

/-! ## Keys -/

namespace SortKey

variable (key : SortKey)

/-- What a key reads in a document: the first value of its field, in its family. -/
def value (d : Document) : SortValue :=
  match d.field? key.field with
  | some f => .ofValue key.kind f.value
  | none => .missing

/-- Whether a key alone puts one document before another one. -/
def Puts (d e : Document) : Prop :=
  if key.descending then (key.value e).Below (key.value d) else (key.value d).Below (key.value e)

/-- The family a key brings values into. -/
def family : Nat :=
  match key.kind with
  | .long => 1
  | .float | .double => 2
  | .string => 3

lemma family_ofValue (v : FieldValue) :
    SortValue.ofValue key.kind v = .missing ∨
      (SortValue.ofValue key.kind v).family = key.family := by
  unfold family
  cases key.kind with
  | long =>
    cases v with
    | string s => cases h : readWord? s <;> simp [SortValue.ofValue, h, SortValue.family]
    | long | float | double => exact .inr rfl
  | float | double =>
    cases v with
    | string s => cases h : readDouble? s <;> simp [SortValue.ofValue, h, SortValue.family]
    | long | float | double => exact .inr rfl
  | string => exact .inr rfl

lemma comparable_value (d e : Document) : (key.value d).Comparable (key.value e) := by
  have hfamily (d : Document) : key.value d = .missing ∨ (key.value d).family = key.family := by
    unfold value
    split
    · exact key.family_ofValue _
    · exact .inl rfl
  rcases hfamily d with hd | hd
  · exact .inl hd
  · rcases hfamily e with he | he
    · exact .inr (.inl he)
    · exact .inr (.inr (hd.trans he.symm))

variable {key}

lemma Puts.trans {c d e : Document} (hcd : key.Puts c d) (hde : key.Puts d e) :
    key.Puts c e := by
  unfold Puts at *
  split at hcd
  · rename_i h
    rw [if_pos h] at hde ⊢
    exact hde.trans hcd
  · rename_i h
    rw [if_neg h] at hde ⊢
    exact hcd.trans hde

lemma Puts.irrefl (d : Document) : ¬ key.Puts d d := by
  unfold Puts
  split <;> exact SortValue.Below.irrefl _

lemma puts_total {d e : Document} (h : key.value d ≠ key.value e) :
    key.Puts d e ∨ key.Puts e d := by
  have htotal := (key.comparable_value d e).total h
  unfold Puts
  split
  · exact htotal.symm
  · exact htotal

lemma puts_congr_right {c d e : Document} (h : key.value d = key.value e) :
    key.Puts c d ↔ key.Puts c e := by
  simp only [Puts, h]

lemma puts_congr_left {c d e : Document} (h : key.value c = key.value d) :
    key.Puts c e ↔ key.Puts d e := by
  simp only [Puts, h]

/-- Comparing the values of a key, in its direction, decides which document it puts first. -/
lemma puts_iff_order {d e : Document} :
    (if key.descending then (key.value e).order (key.value d)
      else (key.value d).order (key.value e)) = .lt ↔ key.Puts d e := by
  unfold Puts
  split
  · exact SortValue.order_eq_lt_iff_below (key.comparable_value e d)
  · exact SortValue.order_eq_lt_iff_below (key.comparable_value d e)

lemma tie_iff_order {d e : Document} :
    (if key.descending then (key.value e).order (key.value d)
      else (key.value d).order (key.value e)) = .eq ↔ key.value d = key.value e := by
  split
  · rw [SortValue.order_eq_eq_iff, eq_comm]
  · exact SortValue.order_eq_eq_iff

end SortKey

/-! ## Hits -/

/-- The order of hits under a list of keys. -/
inductive Precedes : List SortKey → Hit → Hit → Prop
  /-- No key is left, and the address decides. -/
  | byAddress {a b : Hit} (h : a.1 < b.1) : Precedes [] a b
  /-- The next key tells the hits apart. -/
  | byKey {key : SortKey} {keys : List SortKey} {a b : Hit} (h : key.Puts a.2 b.2) :
    Precedes (key :: keys) a b
  /-- The next key reads the same in both hits, and the keys behind it decide. -/
  | onTie {key : SortKey} {keys : List SortKey} {a b : Hit} (h : key.value a.2 = key.value b.2)
      (rest : Precedes keys a b) : Precedes (key :: keys) a b

namespace Precedes

variable {keys : List SortKey} {a b c : Hit}

lemma irrefl (keys : List SortKey) (a : Hit) : ¬ Precedes keys a a := by
  induction keys with
  | nil =>
    rintro ⟨h⟩
    exact Nat.lt_irrefl _ h
  | cons key keys ih =>
    intro h
    cases h with
    | byKey h => exact SortKey.Puts.irrefl _ h
    | onTie _ rest => exact ih rest

lemma trans (hab : Precedes keys a b) (hbc : Precedes keys b c) : Precedes keys a c := by
  induction hab with
  | byAddress h =>
    obtain ⟨h'⟩ := hbc
    exact .byAddress (Nat.lt_trans h h')
  | byKey h =>
    cases hbc with
    | byKey h' => exact .byKey (h.trans h')
    | onTie heq _ => exact .byKey ((SortKey.puts_congr_right heq).1 h)
  | onTie heq _ ih =>
    cases hbc with
    | byKey h' => exact .byKey ((SortKey.puts_congr_left heq).2 h')
    | onTie heq' rest' => exact .onTie (heq.trans heq') (ih rest')

lemma asymm (hab : Precedes keys a b) : ¬ Precedes keys b a :=
  fun hba => irrefl keys a (hab.trans hba)

lemma total (keys : List SortKey) (h : a.1 ≠ b.1) : Precedes keys a b ∨ Precedes keys b a := by
  induction keys with
  | nil =>
    rcases Nat.lt_or_gt_of_ne h with h | h
    · exact .inl (.byAddress h)
    · exact .inr (.byAddress h)
  | cons key keys ih =>
    by_cases heq : key.value a.2 = key.value b.2
    · rcases ih with hab | hba
      · exact .inl (.onTie heq hab)
      · exact .inr (.onTie heq.symm hba)
    · rcases SortKey.puts_total heq with hab | hba
      · exact .inl (.byKey hab)
      · exact .inr (.byKey hba)

end Precedes

/-! ## Ranks -/

/-- The rank of a hit under a list of keys. -/
def Hit.rank (keys : List SortKey) (a : Hit) : Ranked := .ofDocument keys a.1 a.2

lemma orderValues_rank_cons (key : SortKey) (keys : List SortKey) (a b : Hit) :
    Ranked.orderValues (Hit.rank (key :: keys) a).values (Hit.rank (key :: keys) b).values =
      (if key.descending then (key.value b.2).order (key.value a.2)
        else (key.value a.2).order (key.value b.2)).then
        (Ranked.orderValues (Hit.rank keys a).values (Hit.rank keys b).values) := rfl

/-- Comparing ranks decides the order of hits. -/
theorem rank_order_eq_lt_iff {keys : List SortKey} {a b : Hit} :
    (Hit.rank keys a).order (Hit.rank keys b) = .lt ↔ Precedes keys a b := by
  induction keys with
  | nil =>
    constructor
    · intro h
      exact .byAddress (Nat.compare_eq_lt.1 h)
    · rintro ⟨h⟩
      exact Nat.compare_eq_lt.2 h
  | cons key keys ih =>
    unfold Ranked.order at ih ⊢
    rw [orderValues_rank_cons, Ordering.then_assoc, Ordering.then_eq_lt, SortKey.puts_iff_order,
      SortKey.tie_iff_order]
    constructor
    · rintro (h | ⟨heq, h⟩)
      · exact .byKey h
      · exact .onTie heq (ih.1 h)
    · intro h
      cases h with
      | byKey h => exact .inl h
      | onTie heq rest => exact .inr ⟨heq, ih.2 rest⟩

end FieldSearch
