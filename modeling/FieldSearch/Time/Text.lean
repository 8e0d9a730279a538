import FieldSearch.Time.Calendar

/-!
# Date-times and durations as text

Date-times are written as RFC 3339 with a fraction of 0, 3, 6 or 9 digits, as few as show it;
years outside 0 to 9999 carry a sign. Durations are written in seconds.
-/

namespace FieldSearch

/-- A number with at least `width` digits. -/
def padded (width n : Nat) : List Char :=
  let ds := Nat.toDigits 10 n
  List.replicate (width - ds.length) '0' ++ ds

namespace Instant

/-- The date of an instant. -/
def date (x : Instant) : Date := Date.ofDays (x.seconds / 86400)

/-- The date, with a sign before years of more or less than four digits. -/
def dateText (x : Instant) : List Char :=
  let d := x.date
  let year :=
    if 0 ≤ d.year ∧ d.year ≤ 9999 then padded 4 d.year.toNat
    else (if d.year < 0 then '-' else '+') :: padded 4 d.year.natAbs
  year ++ '-' :: padded 2 d.month ++ '-' :: padded 2 d.day

/-- The time of day. A leap second is second 60 of its minute. -/
def timeText (x : Instant) : List Char :=
  let s := (x.seconds % 86400).toNat
  let nanos := x.nanos % second
  let fraction :=
    if nanos = 0 then []
    else if nanos % 1000000 = 0 then '.' :: padded 3 (nanos / 1000000)
    else if nanos % 1000 = 0 then '.' :: padded 6 (nanos / 1000)
    else '.' :: padded 9 nanos
  padded 2 (s / 3600) ++ ':' :: padded 2 (s / 60 % 60)
    ++ ':' :: padded 2 (s % 60 + x.nanos / second) ++ fraction

/-- RFC 3339 with a given offset text. -/
def rfc3339 (x : Instant) (offset : String) : String :=
  String.ofList (x.dateText ++ 'T' :: x.timeText) ++ offset

/-- Date, time and zone with blanks between them. -/
def spaced (x : Instant) : String :=
  String.ofList (x.dateText ++ ' ' :: x.timeText) ++ " UTC"

end Instant

namespace Duration

/-- The duration in seconds with the digits of its fraction that are needed. -/
def text (d : Duration) : String :=
  let abs := d.nanos.natAbs
  let sign := if d.nanos < 0 then "-" else ""
  if abs = 0 then "P0D"
  else
    let nanos := abs % second
    let fraction :=
      if nanos = 0 then []
      else '.' :: ((padded 9 nanos).reverse.dropWhile (· == '0')).reverse
    sign ++ "PT" ++ String.ofList (Nat.toDigits 10 (abs / second) ++ fraction) ++ "S"

end Duration

end FieldSearch
