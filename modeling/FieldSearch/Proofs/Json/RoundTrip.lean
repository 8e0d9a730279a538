import FieldSearch.Json.Writer
import FieldSearch.Proofs.Json.Numerals

/-!
# Reading what was written

A tree is read back from its text (`Json.parse_text`). Two kinds of trees are left out: those with
a value that has no name before it, which is no JSON, and those with a numeral outside the grammar.
Strings may hold anything, a lone surrogate included.

Reading is stated with the rest of the text kept general. What stands behind a tree inside a text
is a comma or a closing bracket, so it never goes on with the tree. The bound on nested calls is
met by twice the length of the text.
-/

namespace FieldSearch

namespace Json

/-! ## Strings -/

/-- Two hexadecimal digits of a control character are read as its code point. -/
lemma hexDigit?_digitChar : ∀ k < 16, hexDigit? (Nat.digitChar k) = some k := by decide

/-- An escape of one letter is read as the character the letter stands for. -/
lemma readUnits_letter {letter c : Char} (hletter : unescape? letter = some c) (hu : letter ≠ 'u')
    (r : List Char) :
    readUnits ('\\' :: letter :: r) = (readUnits r).map fun (us, r) => (c.toNat :: us, r) := by
  rw [readUnits]
  · rw [hletter]
    cases readUnits r <;> rfl
  · exact fun a b c d r' h => absurd h hu

lemma readUnits_control {c : Char} (hc : c.toNat < 32) (r : List Char) :
    readUnits ('\\' :: 'u' :: '0' :: '0' :: Nat.digitChar (c.toNat / 16) ::
      Nat.digitChar (c.toNat % 16) :: r) = (readUnits r).map fun (us, r) => (c.toNat :: us, r) := by
  have hzero : hexDigit? '0' = some 0 := by decide
  have hvalue : 4096 * 0 + 256 * 0 + 16 * (c.toNat / 16) + c.toNat % 16 = c.toNat := by omega
  rw [readUnits, hzero, hexDigit?_digitChar _ (by omega), hexDigit?_digitChar _ (by omega)]
  simp only [Option.bind_eq_bind, Option.bind_some, hvalue]
  cases readUnits r <;> rfl

lemma readUnits_plain {c : Char} (hquote : c ≠ '"') (hslash : c ≠ '\\') (hc : ¬c.toNat < 32)
    (r : List Char) :
    readUnits (c :: r) = (readUnits r).map fun (us, r) => (c.toNat :: us, r) := by
  rw [readUnits]
  · rw [if_neg hc]
    cases readUnits r <;> rfl
  all_goals simp_all

/-- An escape is read as the character it stands for. -/
lemma readUnits_escape (c : Char) (r : List Char) :
    readUnits (escape c ++ r) = (readUnits r).map fun (us, r) => (c.toNat :: us, r) := by
  unfold escape
  split
  case h_8 hquote hslash _ _ _ _ _ =>
    split
    case isTrue hc => exact readUnits_control hc r
    case isFalse hc => exact readUnits_plain hquote hslash hc r
  all_goals exact readUnits_letter rfl (by decide) r

/-- The characters of a string are read up to its closing quote. -/
lemma readUnits_flatMap (cs r : List Char) :
    readUnits (cs.flatMap escape ++ '"' :: r) = some (cs.map Char.toNat, r) := by
  induction cs with
  | nil => rfl
  | cons c cs ih =>
    rw [List.flatMap_cons, List.append_assoc, readUnits_escape, ih]
    rfl

/-- No character is a surrogate. -/
lemma joinSurrogates_toNat (cs : List Char) : joinSurrogates (cs.map Char.toNat) = some cs := by
  induction cs with
  | nil => rfl
  | cons c cs ih =>
    have hvalid : c.toNat < 0xd800 ∨ 0xdfff < c.toNat ∧ c.toNat < 0x110000 := c.valid
    rw [List.map_cons, joinSurrogates.eq_def]
    dsimp only
    rw [if_neg (by omega), if_neg (by omega), ih, Option.map_some, Char.ofNat_toNat]

/-- The text of a string token behind its opening quote. -/
def textBody : JsonText → List Char
  | some s => s.toList.flatMap escape ++ ['"']
  | none => "\\ud800\"".toList

lemma renderText_eq (k : JsonText) : renderText k = '"' :: textBody k := by
  cases k <;> rfl

lemma readText_textBody (k : JsonText) (r : List Char) :
    readText (textBody k ++ r) = some (k, r) := by
  cases k with
  | none =>
    have hdigits : hexDigit? 'd' = some 13 ∧ hexDigit? '8' = some 8 ∧ hexDigit? '0' = some 0 := by
      decide
    have hunits : readUnits ('\\' :: 'u' :: 'd' :: '8' :: '0' :: '0' :: '"' :: r) =
        some ([0xd800], r) := by
      rw [readUnits, hdigits.1, hdigits.2.1, hdigits.2.2]
      rfl
    exact (congrArg (Option.map _) hunits).trans rfl
  | some s =>
    have hbody : textBody (some s) ++ r = s.toList.flatMap escape ++ '"' :: r :=
      List.append_assoc _ ['"'] r
    rw [readText, hbody, readUnits_flatMap, Option.map_some]
    simp only [joinSurrogates_toNat, Option.map_some, String.ofList_toList]

/-! ## Trees -/

mutual

/-- A tree that JSON can say: no value without a name, and numerals in the grammar. -/
def Legible : Json → Prop
  | number n => n.Grammatical
  | array js => LegibleItems js
  | object ms => LegibleMembers ms
  | nameless _ => False
  | null | bool _ | string _ => True

/-- Every item is legible. -/
def LegibleItems : List Json → Prop
  | [] => True
  | j :: js => j.Legible ∧ LegibleItems js

/-- Every member is legible. -/
def LegibleMembers : List (JsonText × Json) → Prop
  | [] => True
  | (_, j) :: ms => j.Legible ∧ LegibleMembers ms

end

/-- A character that is passed over between tokens. -/
abbrev IsBlank (c : Char) : Prop := c = ' ' ∨ c = '\n' ∨ c = '\t' ∨ c = '\r'

lemma skip_cons {c : Char} (hc : ¬IsBlank c) (r : List Char) : skip (c :: r) = c :: r := by
  rw [skip, List.dropWhile_cons_of_neg]
  simpa using hc

/-- What stands behind a tree inside a text. -/
def Behind (r : List Char) : Prop := ∀ c ∈ r.head?, c = ',' ∨ c = ']' ∨ c = '\x7d'

lemma Behind.endsNumeral {r : List Char} (h : Behind r) : EndsNumeral r := by
  intro c hc
  rcases h c hc with rfl | rfl | rfl <;> decide

/-- A numeral starts with a sign or a digit. -/
lemma head?_render_numeral {n : Numeral} (hn : n.Grammatical) :
    ∃ c cs, n.render = c :: cs ∧ (c = '-' ∨ c.isDigit = true) := by
  obtain ⟨negative, whole, fraction, exponent⟩ := n
  cases negative with
  | true => exact ⟨'-', _, rfl, .inl rfl⟩
  | false =>
    cases whole with
    | nil => exact absurd rfl hn.whole_ne_nil
    | cons c cs => exact ⟨c, _, rfl, .inr (hn.whole_digits c List.mem_cons_self)⟩

/-- The text of a tree starts with a character that is no blank and closes nothing. -/
lemma exists_render_eq_cons {j : Json} (hj : j.Legible) :
    ∃ c cs, j.render = c :: cs ∧ ¬IsBlank c ∧ c ≠ ']' := by
  match j, hj with
  | null, _ => exact ⟨'n', _, rfl, by decide, by decide⟩
  | bool true, _ => exact ⟨'t', _, rfl, by decide, by decide⟩
  | bool false, _ => exact ⟨'f', _, rfl, by decide, by decide⟩
  | string k, _ => exact ⟨'"', _, renderText_eq k, by decide, by decide⟩
  | array [], _ | array (_ :: _), _ => exact ⟨'[', _, rfl, by decide, by decide⟩
  | object [], _ | object (_ :: _), _ => exact ⟨'\x7b', _, rfl, by decide, by decide⟩
  | number n, hn =>
    obtain ⟨c, cs, hrender, hc⟩ := head?_render_numeral hn
    refine ⟨c, cs, hrender, ?_, ?_⟩
    · rintro (rfl | rfl | rfl | rfl) <;> simp [Char.isDigit] at hc
    · rintro rfl
      simp [Char.isDigit] at hc

section Reading

variable {fuel : Nat} {r : List Char}

lemma readTree_number {n : Numeral} (hn : n.Grammatical) (hr : Behind r) :
    readTree (fuel + 1) (n.render ++ r) = some (.number n, r) := by
  obtain ⟨c, cs, hrender, hc⟩ := head?_render_numeral hn
  have hblank : ¬IsBlank c := by
    rintro (rfl | rfl | rfl | rfl) <;> simp [Char.isDigit] at hc
  have hread := readNumeral_render hn hr.endsNumeral
  rw [hrender, List.cons_append] at hread ⊢
  rw [readTree, skip_cons hblank]
  split
  case h_7 => rw [hread, Option.map_some]
  all_goals simp_all [Char.isDigit]

lemma readTree_string (k : JsonText) :
    readTree (fuel + 1) (renderText k ++ r) = some (.string k, r) := by
  rw [renderText_eq, List.cons_append, readTree, skip_cons (by decide)]
  simp only [readText_textBody, Option.map_some]

/-- Brackets around items that are read make an array. -/
lemma readTree_array {cs : List Char} {c : Char} {js : List Json} (hblank : ¬IsBlank c)
    (hc : c ≠ ']') (h : readItems fuel (c :: cs) = some (js, r)) :
    readTree (fuel + 1) ('[' :: c :: cs) = some (.array js, r) := by
  rw [readTree, skip_cons (by decide)]
  simp only [skip_cons hblank]
  split
  next h' => exact absurd (List.cons.inj h').1 hc
  next => rw [h, Option.map_some]

lemma readTree_object {cs : List Char} {ms : List (JsonText × Json)}
    (h : readMembers fuel ('"' :: cs) = some (ms, r)) :
    readTree (fuel + 1) ('\x7b' :: '"' :: cs) = some (.object ms, r) := by
  have hblank : ¬IsBlank '"' := by decide
  rw [readTree, skip_cons (by decide)]
  simp only [skip_cons hblank]
  exact (congrArg (Option.map _) h).trans rfl

variable {s cs : List Char} {j : Json}

lemma readItems_last (h : readTree fuel s = some (j, ']' :: r)) :
    readItems (fuel + 1) s = some ([j], r) := by
  rw [readItems, h]
  simp only [skip_cons (c := ']') (by decide)]

lemma readItems_more {js : List Json} (h : readTree fuel s = some (j, ',' :: cs))
    (hjs : readItems fuel cs = some (js, r)) : readItems (fuel + 1) s = some (j :: js, r) := by
  rw [readItems, h]
  simp only [skip_cons (c := ',') (by decide), hjs, Option.map_some]

lemma readMembers_last (k : JsonText) (h : readTree fuel s = some (j, '\x7d' :: r)) :
    readMembers (fuel + 1) (renderText k ++ ':' :: s) = some ([(k, j)], r) := by
  rw [renderText_eq, List.cons_append, readMembers, skip_cons (by decide)]
  simp only [readText_textBody, skip_cons (c := ':') (by decide), h,
    skip_cons (c := '\x7d') (by decide)]

lemma readMembers_more (k : JsonText) {ms : List (JsonText × Json)}
    (h : readTree fuel s = some (j, ',' :: cs)) (hms : readMembers fuel cs = some (ms, r)) :
    readMembers (fuel + 1) (renderText k ++ ':' :: s) = some ((k, j) :: ms, r) := by
  rw [renderText_eq, List.cons_append, readMembers, skip_cons (by decide)]
  simp only [readText_textBody, skip_cons (c := ':') (by decide), h,
    skip_cons (c := ',') (by decide), hms, Option.map_some]

end Reading

lemma length_render_pos {j : Json} (hj : j.Legible) : 0 < j.render.length := by
  obtain ⟨c, cs, hrender, -⟩ := exists_render_eq_cons hj
  simp [hrender]

lemma exists_renderItems_eq_cons {js : List Json} (h : js ≠ []) :
    ∃ s, renderItems js = ',' :: s := by
  obtain ⟨j, js, rfl⟩ := List.exists_cons_of_ne_nil h
  exact ⟨_, rfl⟩

lemma exists_renderMembers_eq_cons {ms : List (JsonText × Json)} (h : ms ≠ []) :
    ∃ s, renderMembers ms = ',' :: s := by
  obtain ⟨⟨k, j⟩, ms, rfl⟩ := List.exists_cons_of_ne_nil h
  exact ⟨_, rfl⟩

lemma behind_comma (r : List Char) : Behind (',' :: r) := by
  rintro c ⟨⟩
  exact .inl rfl

lemma behind_bracket (r : List Char) : Behind (']' :: r) := by
  rintro c ⟨⟩
  exact .inr (.inl rfl)

lemma behind_brace (r : List Char) : Behind ('\x7d' :: r) := by
  rintro c ⟨⟩
  exact .inr (.inr rfl)

mutual

/-- A tree is read back from its text. -/
theorem readTree_render {j : Json} {r : List Char} {fuel : Nat} (hj : j.Legible) (hr : Behind r)
    (hfuel : 2 * j.render.length ≤ fuel + 1) : readTree fuel (j.render ++ r) = some (j, r) := by
  have hlength := length_render_pos hj
  obtain ⟨fuel, rfl⟩ : ∃ k, fuel = k + 1 := ⟨fuel - 1, by omega⟩
  cases j with
  | null => rfl
  | bool b => cases b <;> rfl
  | number n => exact readTree_number hj hr
  | string k => exact readTree_string k
  | array js =>
    cases js with
    | nil => rfl
    | cons j js =>
      obtain ⟨c, cs, hrender, hblank, hc⟩ := exists_render_eq_cons hj.1
      rw [render, List.length_cons] at hfuel
      have hitems : readItems fuel (j.render ++ renderItems js ++ r) = some (j :: js, r) :=
        readItems_render hj (List.cons_ne_nil _ _) (by rw [renderItems, List.length_cons]; omega)
      -- Reading looks for a closing bracket before the first item, so its first character counts.
      rw [hrender] at hitems
      rw [render, hrender]
      exact readTree_array hblank hc hitems
  | object ms =>
    cases ms with
    | nil => rfl
    | cons m ms =>
      obtain ⟨k, j⟩ := m
      rw [render, List.length_cons] at hfuel
      have hmembers : readMembers fuel
          (renderText k ++ ':' :: (j.render ++ renderMembers ms) ++ r) = some ((k, j) :: ms, r) :=
        readMembers_render hj (List.cons_ne_nil _ _)
          (by rw [renderMembers, List.length_cons]; omega)
      rw [renderText_eq] at hmembers
      rw [render, renderText_eq]
      exact readTree_object hmembers
  | nameless j => exact hj.elim

/-- Items are read back from their text behind the first mark. -/
theorem readItems_render {js : List Json} {r : List Char} {fuel : Nat} (hjs : LegibleItems js)
    (hne : js ≠ []) (hfuel : 2 * (renderItems js).length ≤ fuel + 2) :
    readItems fuel ((renderItems js).tail ++ r) = some (js, r) := by
  cases js with
  | nil => exact absurd rfl hne
  | cons j js =>
    have hlength := length_render_pos hjs.1
    rw [renderItems, List.length_cons, List.length_append] at hfuel
    obtain ⟨fuel, rfl⟩ : ∃ k, fuel = k + 1 := ⟨fuel - 1, by omega⟩
    rw [renderItems, List.tail_cons, List.append_assoc]
    by_cases hlast : js = []
    · rw [hlast]
      exact readItems_last (readTree_render hjs.1 (behind_bracket r) (by omega))
    · have hitems : readItems fuel ((renderItems js).tail ++ r) = some (js, r) :=
        readItems_render hjs.2 hlast (by omega)
      obtain ⟨s, hs⟩ := exists_renderItems_eq_cons hlast
      rw [hs] at hitems ⊢
      exact readItems_more (readTree_render hjs.1 (behind_comma _) (by omega)) hitems

/-- Members are read back from their text behind the first mark. -/
theorem readMembers_render {ms : List (JsonText × Json)} {r : List Char} {fuel : Nat}
    (hms : LegibleMembers ms) (hne : ms ≠ [])
    (hfuel : 2 * (renderMembers ms).length ≤ fuel + 2) :
    readMembers fuel ((renderMembers ms).tail ++ r) = some (ms, r) := by
  cases ms with
  | nil => exact absurd rfl hne
  | cons m ms =>
    obtain ⟨k, j⟩ := m
    have hlength := length_render_pos hms.1
    rw [renderMembers] at hfuel
    simp only [List.length_cons, List.length_append] at hfuel
    obtain ⟨fuel, rfl⟩ : ∃ k, fuel = k + 1 := ⟨fuel - 1, by omega⟩
    rw [renderMembers, List.tail_cons, List.append_assoc, List.cons_append, List.append_assoc]
    by_cases hlast : ms = []
    · rw [hlast]
      exact readMembers_last k (readTree_render hms.1 (behind_brace r) (by omega))
    · have hmembers : readMembers fuel ((renderMembers ms).tail ++ r) = some (ms, r) :=
        readMembers_render hms.2 hlast (by omega)
      obtain ⟨s, hs⟩ := exists_renderMembers_eq_cons hlast
      rw [hs] at hmembers ⊢
      exact readMembers_more k (readTree_render hms.1 (behind_comma _) (by omega)) hmembers

end

/-- The text of a tree is read as that tree. -/
theorem parse_text {j : Json} (hj : j.Legible) : parse j.text = some j := by
  have hread : readTree (2 * j.render.length + 1) (j.render ++ []) = some (j, []) :=
    readTree_render hj (fun c hc => absurd hc (Option.not_mem_none c)) (by omega)
  rw [List.append_nil] at hread
  simp only [parse, text, String.toList_ofList, hread]
  rfl

end Json

end FieldSearch
