import FieldSearch.Number.Binary

/-!
# Signed words

The integers of documents are signed words of 64 bits. Arithmetic on them is carried out on
integers and brought back by `word?`, which refuses what does not fit, or by
`clampWord`, which goes to the nearer end of the range.
-/

namespace FieldSearch

/-- One more than the largest word, `2 ^ 63`. -/
abbrev wordEnd : Nat := 9223372036854775808

/-- The word for an integer inside the range of words. -/
def word? (n : Int) : Option Int64 :=
  -- Bounds of natural numbers: those of integers are subtractions, which reduction carries out
  -- one by one where the integer is not known.
  if n.toNat < wordEnd ∧ (-n).toNat ≤ wordEnd then some (Int64.ofInt n) else none

/-- The word nearest to an integer. -/
def clampWord (n : Int) : Int64 :=
  Int64.ofInt (max (-wordEnd) (min n (wordEnd - 1)))

theorem toInt_of_word? {n : Int} {w : Int64} (h : word? n = some w) : w.toInt = n := by
  unfold word? wordEnd at h
  split at h
  · rename_i hn
    obtain rfl := Option.some.inj h
    exact Int64.toInt_ofInt_of_le (by omega) (by omega)
  · cases h

theorem word?_toInt (w : Int64) : word? w.toInt = some w := by
  have hlow := w.le_toInt
  have hhigh := w.toInt_lt
  unfold word? wordEnd
  rw [if_pos (by omega), Int64.ofInt_toInt]

/-- Inside the range of words nothing is cut. -/
theorem toInt_clampWord {n : Int} (hlow : -wordEnd ≤ n) (hhigh : n < wordEnd) :
    (clampWord n).toInt = n := by
  unfold clampWord wordEnd at *
  rw [Int64.toInt_ofInt_of_le (by omega) (by omega)]
  omega

/-- A value without its fraction as a word: the nearer end of the range beyond it, and zero for
NaN. -/
def Binary.toWord {f : Format} (x : Binary f) : Int64 :=
  if x.isNaN then 0
  else clampWord x.truncate

/-- Whether a double passes for a word: it is whole, not below the least word, and below the largest
one, both of them as doubles. -/
def Binary.isIntegral (x : Double) : Bool :=
  x.isWhole && (x.compare? (Format.double.ofInt (-wordEnd))).any (·.isGE) &&
    x.compare? (Format.double.ofInt (wordEnd - 1)) = some .lt

end FieldSearch
