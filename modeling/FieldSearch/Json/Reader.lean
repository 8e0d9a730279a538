import FieldSearch.Json.Basic

/-!
# Reading JSON

The grammar of RFC 8259, and nothing beyond it: no numeral is judged by its size and no tree by
its depth. A string token with an escape that names half of a surrogate pair is read, but has no
text.
-/

namespace FieldSearch

namespace Json

/-- Passes over blanks. -/
def skip (s : List Char) : List Char :=
  s.dropWhile fun c => c = ' ' ∨ c = '\n' ∨ c = '\t' ∨ c = '\r'

/-! ## Strings -/

/-- The value of a hexadecimal digit. -/
def hexDigit? (c : Char) : Option Nat :=
  if c.isDigit then some (c.toNat - '0'.toNat)
  else if 'a' ≤ c ∧ c ≤ 'f' then some (c.toNat - 'a'.toNat + 10)
  else if 'A' ≤ c ∧ c ≤ 'F' then some (c.toNat - 'A'.toNat + 10)
  else none

/-- The character an escape of one letter stands for. -/
def unescape? : Char → Option Char
  | '"' => some '"'
  | '\\' => some '\\'
  | '/' => some '/'
  | 'b' => some '\x08'
  | 'f' => some '\x0c'
  | 'n' => some '\n'
  | 'r' => some '\r'
  | 't' => some '\t'
  | _ => none

/-- The code points of a string up to its closing quote, surrogates from escapes among them, and
the rest. -/
def readUnits : List Char → Option (List Nat × List Char)
  | '"' :: r => some ([], r)
  | '\\' :: 'u' :: a :: b :: c :: d :: r => do
    let u := 4096 * (← hexDigit? a) + 256 * (← hexDigit? b) + 16 * (← hexDigit? c)
      + (← hexDigit? d)
    let (us, r) ← readUnits r
    return (u :: us, r)
  | '\\' :: c :: r => do
    let c ← unescape? c
    let (us, r) ← readUnits r
    return (c.toNat :: us, r)
  | c :: r =>
    if c.toNat < 32 then none
    else do
      let (us, r) ← readUnits r
      return (c.toNat :: us, r)
  | [] => none

/-- The characters of a sequence of code points, in which every surrogate has its partner. -/
def joinSurrogates : List Nat → Option (List Char)
  | [] => some []
  | u :: us =>
    if 0xd800 ≤ u ∧ u < 0xdc00 then
      match us with
      | v :: us =>
        if 0xdc00 ≤ v ∧ v < 0xe000 then
          (joinSurrogates us).map
            (Char.ofNat (0x10000 + (u - 0xd800) * 0x400 + (v - 0xdc00)) :: ·)
        else none
      | [] => none
    else if 0xdc00 ≤ u ∧ u < 0xe000 then none
    else (joinSurrogates us).map (Char.ofNat u :: ·)

/-- A string behind its opening quote, and the rest. -/
def readText (s : List Char) : Option (JsonText × List Char) :=
  (readUnits s).map fun (us, r) => ((joinSurrogates us).map String.ofList, r)

/-! ## Numerals -/

/-- Digits at the start of a text, and the rest. -/
def spanDigits (s : List Char) : List Char × List Char :=
  (s.takeWhile Char.isDigit, s.dropWhile Char.isDigit)

/-- The digits behind a point, if there is one. -/
def readFraction : List Char → Option (List Char × List Char)
  | '.' :: r =>
    let (ds, r) := spanDigits r
    if ds.isEmpty then none else some (ds, r)
  | r => some ([], r)

/-- The exponent, if there is one. -/
def readExponent (s : List Char) : Option (Option Int × List Char) :=
  match s with
  | c :: r =>
    if c = 'e' ∨ c = 'E' then
      let (negative, r) := takeSign r
      let (ds, r) := spanDigits r
      let e : Int := Nat.ofDigitChars 10 ds 0
      if ds.isEmpty then none else some (some (if negative then -e else e), r)
    else some (none, s)
  | [] => some (none, [])

/-- A numeral: no blanks, no zeros before other whole digits, digits on both sides of a point. -/
def readNumeral (s : List Char) : Option (Numeral × List Char) := do
  let (negative, r) := match s with
    | '-' :: r => (true, r)
    | r => (false, r)
  let (whole, r) ← match r with
    | '0' :: r => some (['0'], r)
    | r =>
      let (ds, r) := spanDigits r
      if ds.isEmpty then none else some (ds, r)
  let (fraction, r) ← readFraction r
  let (exponent, r) ← readExponent r
  return (⟨negative, whole, fraction, exponent⟩, r)

/-! ## Trees -/

/-- A word and the rest. -/
def expect (word : List Char) (s : List Char) : Option (List Char) :=
  match word, s with
  | [], r => some r
  | c :: cs, d :: r => if c = d then expect cs r else none
  | _ :: _, [] => none

mutual

/-- A tree at the start of a text, and the rest. The first argument bounds the number of nested
calls. -/
def readTree : Nat → List Char → Option (Json × List Char)
  | 0, _ => none
  | fuel + 1, s =>
    match skip s with
    | 'n' :: r => (expect "ull".toList r).map (.null, ·)
    | 't' :: r => (expect "rue".toList r).map (.bool true, ·)
    | 'f' :: r => (expect "alse".toList r).map (.bool false, ·)
    | '"' :: r => (readText r).map fun (s, r) => (.string s, r)
    | '[' :: r =>
      match skip r with
      | ']' :: r => some (.array [], r)
      | r => (readItems fuel r).map fun (js, r) => (.array js, r)
    | '\x7b' :: r =>
      match skip r with
      | '\x7d' :: r => some (.object [], r)
      | r => (readMembers fuel r).map fun (ms, r) => (.object ms, r)
    | r => (readNumeral r).map fun (n, r) => (.number n, r)

/-- Items up to the closing bracket. -/
def readItems : Nat → List Char → Option (List Json × List Char)
  | 0, _ => none
  | fuel + 1, s =>
    match readTree fuel s with
    | none => none
    | some (j, r) =>
      match skip r with
      | ',' :: r => (readItems fuel r).map fun (js, r) => (j :: js, r)
      | ']' :: r => some ([j], r)
      | _ => none

/-- Members up to the closing brace. -/
def readMembers : Nat → List Char → Option (List (JsonText × Json) × List Char)
  | 0, _ => none
  | fuel + 1, s =>
    match skip s with
    | '"' :: r =>
      match readText r with
      | none => none
      | some (k, r) =>
        match skip r with
        | ':' :: r =>
          match readTree fuel r with
          | none => none
          | some (j, r) =>
            match skip r with
            | ',' :: r => (readMembers fuel r).map fun (ms, r) => ((k, j) :: ms, r)
            | '\x7d' :: r => some ([(k, j)], r)
            | _ => none
        | _ => none
    | _ => none

end

/-- The tree of a whole text. Every nested call is behind a character of its own or behind a call
that is, so two calls for each character are enough. -/
def parse (s : String) : Option Json :=
  let cs := s.toList
  match readTree (2 * cs.length + 1) cs with
  | some (j, r) => if (skip r).isEmpty then some j else none
  | none => none

end Json

end FieldSearch
