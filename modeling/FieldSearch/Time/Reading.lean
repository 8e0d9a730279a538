import FieldSearch.Text.Blank
import FieldSearch.Time.Calendar

/-!
# Reading date-times

A relaxed RFC 3339: blanks may stand between the parts, a blank may part date and time, years may
carry a sign and more than four digits, and the zone is an offset, `Z` or `UTC`. Reading is a
sequence of steps on the rest of the text.
-/

namespace FieldSearch

/-- A step on the rest of a text that may fail. -/
abbrev TextReader := StateT (List Char) Option

namespace TextReader

/-- Passes over blanks. -/
def blanks : TextReader Unit := modify (·.dropWhile isBlank)

/-- Takes one given character. -/
def expect (c : Char) : TextReader Unit := fun s =>
  match s with
  | d :: r => if d = c then some ((), r) else none
  | [] => none

/-- Takes one to `most` digits as a number. -/
def digits (most : Nat) : TextReader Nat := fun s =>
  let ds := (s.take most).takeWhile Char.isDigit
  if ds.isEmpty then none else some (Nat.ofDigitChars 10 ds 0, s.drop ds.length)

/-- Takes a digit pair. -/
def pair : TextReader Nat := fun s =>
  match s with
  | a :: b :: r =>
    if a.isDigit && b.isDigit then some (Nat.ofDigitChars 10 [a, b] 0, r) else none
  | _ => none

/-- A number inside given bounds. -/
def within (low high n : Nat) : TextReader Unit :=
  if low ≤ n ∧ n ≤ high then pure () else failure

/-- A number of up to two digits after blanks, inside given bounds. -/
def field (low high : Nat) : TextReader Nat := do
  blanks
  let n ← digits 2
  within low high n
  pure n

/-- A year after blanks: a sign with any number of digits, or up to four digits. -/
def year : TextReader Int := do
  blanks
  match ← get with
  | '-' :: r => set r; return -(← digits r.length : Nat)
  | '+' :: r => set r; return (← digits r.length : Nat)
  | _ => return (← digits 4 : Nat)

/-- A mark between two numbers, with blanks before it. -/
def mark (c : Char) : TextReader Unit := do
  blanks
  expect c

/-- A fraction of a second in nanoseconds; digits after the ninth are passed over. -/
def fraction : TextReader Nat := fun s =>
  match s with
  | '.' :: r =>
    let ds := r.takeWhile Char.isDigit
    if ds.isEmpty then none
    else
      let used := ds.take 9
      some (Nat.ofDigitChars 10 used 0 * Nat.pow 10 (9 - used.length), r.drop ds.length)
  | _ => some (0, s)

/-- A zone as seconds east: `Z`, `UTC` in any case, or hours and minutes with a sign. -/
def zone : TextReader Int := do
  blanks
  let s ← get
  if (s.take 3).map Char.toLower = ['u', 't', 'c'] then
    set (s.drop 3)
    return 0
  match s with
  | [] => failure
  | c :: r =>
    set r
    if c = 'Z' ∨ c = 'z' then return 0
    let negative ←
      if c = '+' then pure false
      else if c = '-' ∨ c = '−' then pure true
      else failure
    let hours ← pair
    modify (·.dropWhile fun d => d = ':' || isBlank d)
    let minutes ← pair
    within 0 59 minutes
    let offset : Int := (hours * 3600 + minutes * 60 : Nat)
    if offset < 86400 then return if negative then -offset else offset else failure

/-- A date and a time with a zone, and nothing but blanks behind. -/
def instant : TextReader Instant := do
  let year ← year
  mark '-'
  let month ← field 1 12
  mark '-'
  let day ← field 1 31
  match ← get with
  | c :: r => if c = 'T' ∨ c = 't' ∨ c = ' ' then set r else failure
  | [] => failure
  let hour ← field 0 23
  mark ':'
  let minute ← field 0 59
  mark ':'
  let second60 ← field 0 60
  let nanos ← fraction
  let offset ← zone
  blanks
  if !(← get).isEmpty then failure
  let date : Date := ⟨year, month, day⟩
  if !date.isValid then failure
  let leap := second60 = 60
  let clock : Nat := hour * 3600 + minute * 60 + if leap then 59 else second60
  match Instant.of? (date.toDays * 86400 + clock) 0 with
  | none => failure
  | some there =>
    match Instant.of? (there.seconds - offset) (nanos + if leap then second else 0) with
    | none => failure
    | some x => pure x

end TextReader

/-- The instant a text names. -/
def Instant.read? (s : String) : Option Instant := (TextReader.instant s.toList).map (·.1)

end FieldSearch
