import FieldSearch.Text.Alphanumeric
import FieldSearch.Text.WordClass

/-!
# Words of a text

Text falls into segments at the word boundaries of UAX #29; a segment with an alphanumeric
character is a word. A segment is read by a machine whose state says what the characters so far
allow to follow. Marks, format characters and joiners are passed over inside a segment. After a
letter or a number, punctuation such as an apostrophe is taken on trial: if no letter or number
follows, the segment ends before it.

* `segment` — the first segment and the rest, which is shorter (`segment_rest_lt`).
* `words` — the words in order.
-/

namespace FieldSearch

/-- What the characters of a segment so far allow to follow. -/
inductive SegmentState where
  | letter
  | hebrewLetter
  | numeric
  | katakana
  | extendNumLet
  /-- One regional indicator, which pairs with a second. -/
  | regionalHalf
  | regionalPair
  | joiner
  | pictograph
  | space
  /-- Anything else with marks behind it. -/
  | marked
  /-- Punctuation on trial: a letter has to follow. -/
  | needLetter
  /-- Punctuation on trial: a Hebrew letter has to follow. -/
  | needHebrew
  /-- Punctuation on trial: a number has to follow. -/
  | needNumeric
  /-- An apostrophe behind a Hebrew letter, which stays even if no letter follows. -/
  | apostrophe
deriving DecidableEq, Repr

/-- What a character does to a segment. -/
inductive SegmentStep where
  | go (next : SegmentState)
  /-- Take the character on trial; the segment may still end before it. -/
  | trial (next : SegmentState)
  /-- The segment ends before the character. -/
  | stop
  /-- The trial fails: the segment ends before the punctuation. -/
  | giveUp
deriving DecidableEq, Repr

namespace SegmentState

/-- Whether the state ends a trial that has not succeeded. -/
def onTrial : SegmentState → Bool
  | needLetter | needHebrew | needNumeric => true
  | _ => false

/-- Letters, numbers and connectors after one of their kind. -/
def word? : WordClass → Option SegmentState
  | .letter => some letter
  | .hebrewLetter => some hebrewLetter
  | .numeric => some numeric
  | .extendNumLet => some extendNumLet
  | _ => none

/-- The step for a character that is neither mark, format character nor joiner; `marked` says
whether the segment holds one of these. -/
def step (st : SegmentState) (cls : WordClass) (marked : Bool) : SegmentStep :=
  match st with
  | .letter | .hebrewLetter =>
    match word? cls with
    | some next => .go next
    | none =>
      match cls with
      | .doubleQuote => if st = .hebrewLetter then .trial needHebrew else .stop
      | .singleQuote => if st = .hebrewLetter then .go apostrophe else .trial needLetter
      | .midLetter | .midNumLet => .trial needLetter
      | _ => .stop
  | .numeric =>
    match word? cls with
    | some next => .go next
    | none =>
      match cls with
      | .midNum | .midNumLet | .singleQuote => .trial needNumeric
      | _ => .stop
  | .katakana =>
    match cls with
    | .katakana => .go katakana
    | .extendNumLet => .go extendNumLet
    | _ => .stop
  | .extendNumLet =>
    match cls with
    | .katakana => .go katakana
    | _ => ((word? cls).map .go).getD .stop
  | .regionalHalf => if cls = .regional then .go regionalPair else .stop
  | .space => if cls = .space && !marked then .go space else .stop
  | .regionalPair | .joiner | .pictograph | .marked => .stop
  | .needLetter =>
    match cls with
    | .letter => .go letter
    | .hebrewLetter => .go hebrewLetter
    | _ => .giveUp
  | .apostrophe =>
    match cls with
    | .letter => .go letter
    | .hebrewLetter => .go hebrewLetter
    | _ => .stop
  | .needHebrew => if cls = .hebrewLetter then .go hebrewLetter else .giveUp
  | .needNumeric => if cls = .numeric then .go numeric else .giveUp

end SegmentState

/-- Whether a class is passed over inside a segment. -/
def WordClass.isIgnored : WordClass → Bool
  | .extend | .format | .joiner => true
  | _ => false

/-- Reads on in a segment. `taken` holds the characters so far in reverse, `joined` says whether
the last one is a joiner, and `trial` is where the segment ends if the trial fails. -/
def scanSegment (st : SegmentState) (joined marked : Bool) (taken : List Char)
    (trial : List Char × List Char) : List Char → List Char × List Char
  | [] => if st.onTrial then trial else (taken, [])
  | c :: cs =>
    let cls := wordClass c
    if cls.isIgnored then scanSegment st (cls = .joiner) true (c :: taken) trial cs
    else if joined && isPictographic c then
      scanSegment .pictograph false marked (c :: taken) trial cs
    else
      match st.step cls marked with
      | .go next => scanSegment next false marked (c :: taken) trial cs
      | .trial next => scanSegment next false marked (c :: taken) (taken, c :: cs) cs
      | .stop => (taken, c :: cs)
      | .giveUp => trial

/-- The first segment of a text that starts with `c`, in reverse, and the rest. -/
def segment (c : Char) (cs : List Char) : List Char × List Char :=
  let go (st : SegmentState) : List Char × List Char :=
    scanSegment st (wordClass c = .joiner) false [c] ([c], cs) cs
  match wordClass c with
  | .letter => go .letter
  | .hebrewLetter => go .hebrewLetter
  | .numeric => go .numeric
  | .katakana => go .katakana
  | .extendNumLet => go .extendNumLet
  | .regional => go .regionalHalf
  | .joiner => go .joiner
  | .space => go .space
  | .lineFeed | .newline => ([c], cs)
  | .carriageReturn =>
    match cs with
    | '\n' :: rest => (['\n', c], rest)
    | _ => ([c], cs)
  | _ =>
    match cs with
    | d :: _ => if (wordClass d).isIgnored then go .marked else ([c], cs)
    | [] => ([c], cs)

theorem scanSegment_rest_le (st : SegmentState) (joined marked : Bool) (taken : List Char)
    (trial : List Char × List Char) (cs : List Char) (n : Nat) (hcs : cs.length ≤ n)
    (htrial : trial.2.length ≤ n) :
    (scanSegment st joined marked taken trial cs).2.length ≤ n := by
  induction cs generalizing st joined marked taken trial with
  | nil =>
    rw [scanSegment]
    split
    · exact htrial
    · exact Nat.zero_le n
  | cons c cs ih =>
    have hrest : cs.length ≤ n := Nat.le_of_succ_le (by simpa using hcs)
    rw [scanSegment]
    split
    · exact ih _ _ _ _ _ hrest htrial
    · split
      · exact ih _ _ _ _ _ hrest htrial
      · split
        · exact ih _ _ _ _ _ hrest htrial
        · exact ih _ _ _ _ _ hrest hcs
        · exact hcs
        · exact htrial

/-- A segment takes at least one character. -/
theorem segment_rest_lt (c : Char) (cs : List Char) :
    (segment c cs).2.length < (c :: cs).length := by
  have hgo (st : SegmentState) (joined : Bool) :
      (scanSegment st joined false [c] ([c], cs) cs).2.length ≤ cs.length :=
    scanSegment_rest_le st joined false [c] ([c], cs) cs cs.length (Nat.le_refl _) (Nat.le_refl _)
  have hlt : ∀ {k : Nat}, k ≤ cs.length → k < (c :: cs).length := fun h => Nat.lt_succ_of_le h
  apply hlt
  unfold segment
  dsimp only
  split <;> try exact hgo _ _
  · exact Nat.le_refl _
  · exact Nat.le_refl _
  · split
    · simp
    · exact Nat.le_refl _
  · split
    · split
      · exact hgo _ _
      · exact Nat.le_refl _
    · exact Nat.le_refl _

/-- The segments of a text in order. -/
def segments : List Char → List (List Char)
  | [] => []
  | c :: cs => (segment c cs).1.reverse :: segments (segment c cs).2
termination_by cs => cs.length
decreasing_by exact segment_rest_lt c cs

/-- The segments with an alphanumeric character. -/
def words (s : List Char) : List (List Char) := (segments s).filter (·.any isAlphanumeric)

end FieldSearch
