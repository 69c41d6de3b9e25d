/-!
# Natural order of texts

In natural order runs of decimal digits stand for the numbers they spell and everything else is
compared byte by byte, so `group2` comes before `group10`. Digits come before other bytes. Of two
spellings of one number the one with fewer leading zeros comes first, and a text comes before its
own continuations.

The comparison reads both texts from the left, a step at a time: `step` looks at the next byte of
each, or at a whole run of digits of each, and either decides or moves on.
-/

namespace ResourceInspector.NaturalOrder

def isDigit (b : UInt8) : Bool :=
  48 ≤ b && b ≤ 57

def isZero (b : UInt8) : Bool :=
  b == 48

/-- A place in a text: how many bytes lie before it, and the bytes that follow. -/
structure Cursor where
  offset : Nat
  rest : List UInt8
deriving Repr, DecidableEq

namespace Cursor

def ofString (s : String) : Cursor :=
  ⟨0, s.toByteArray.data.toList⟩

/-- Moves past the longest run of bytes that satisfy `p`. -/
def skip (p : UInt8 → Bool) (c : Cursor) : Cursor :=
  ⟨c.offset + (c.rest.takeWhile p).length, c.rest.dropWhile p⟩

/-- Skipping leaves no more to read than there was. -/
theorem length_rest_skip_le (p : UInt8 → Bool) (c : Cursor) :
    (c.skip p).rest.length ≤ c.rest.length :=
  (List.dropWhile_sublist p).length_le

end Cursor

/-- What one step of the comparison finds: the answer, or the places to go on from. -/
inductive Step where
  | decided (order : Ordering)
  | next (left right : Cursor)
deriving Repr, DecidableEq

/-- Compares the runs of digits at two places. Past the leading zeros the longer run is the bigger
number, and runs of one length compare digit by digit. Equal numbers are told apart by where their
zeros end, which is by the count of the zeros when both runs start at the same offset. -/
def compareRuns (left right : Cursor) : Step :=
  let l := left.skip isZero
  let r := right.skip isZero
  let lDigits := l.rest.takeWhile isDigit
  let rDigits := r.rest.takeWhile isDigit
  let order := ((compare lDigits.length rDigits.length).then
    (List.compareLex compare lDigits rDigits)).then (compare l.offset r.offset)
  if order = .eq then .next (l.skip isDigit) (r.skip isDigit) else .decided order

/-- One step of the comparison. -/
def step (left right : Cursor) : Step :=
  match left.rest, right.rest with
  | a :: as, b :: bs =>
    match isDigit a, isDigit b with
    | true, false => .decided .lt
    | false, true => .decided .gt
    | true, true => compareRuns left right
    | false, false =>
      if a = b then .next ⟨left.offset + 1, as⟩ ⟨right.offset + 1, bs⟩
      else .decided (compare a b)
  | as, bs => .decided (compare as.length bs.length)

/-- Skipping the zeros and then the digits gets past a run that starts with a digit. -/
theorem length_rest_skip_run_lt {c : Cursor} {b : UInt8} {bs : List UInt8}
    (hc : c.rest = b :: bs) (hb : isDigit b = true) :
    ((c.skip isZero).skip isDigit).rest.length < c.rest.length := by
  by_cases hz : isZero b = true
  · have hzeros : (c.skip isZero).rest = bs.dropWhile isZero := by
      simp [Cursor.skip, hc, hz]
    have h := (c.skip isZero).length_rest_skip_le isDigit
    have hle : (bs.dropWhile isZero).length ≤ bs.length := (List.dropWhile_sublist _).length_le
    rw [hzeros] at h
    simp only [hc, List.length_cons]
    omega
  · have hrest : ((c.skip isZero).skip isDigit).rest = bs.dropWhile isDigit := by
      simp [Cursor.skip, hc, hz, hb]
    have hle : (bs.dropWhile isDigit).length ≤ bs.length := (List.dropWhile_sublist _).length_le
    simp only [hrest, hc, List.length_cons]
    omega

/-- A step that does not decide leaves less to read. -/
theorem length_rest_lt_of_step {left right l r : Cursor} (h : step left right = .next l r) :
    l.rest.length < left.rest.length := by
  unfold step at h
  split at h
  next a as b bs ha hb =>
    split at h
    · cases h
    · cases h
    next hda hdb =>
      simp only [compareRuns] at h
      split at h
      · cases h
        exact length_rest_skip_run_lt ha hda
      · cases h
    · split at h
      · cases h
        simp [ha]
      · cases h
  · cases h

/-- Runs the comparison from two places. -/
def compareFrom (left right : Cursor) : Ordering :=
  match _h : step left right with
  | .decided order => order
  | .next l r => compareFrom l r
termination_by left.rest.length
decreasing_by exact length_rest_lt_of_step _h

/-- The natural order of two texts. -/
def cmp (a b : String) : Ordering :=
  compareFrom (.ofString a) (.ofString b)

/-- Whether `a` comes strictly before `b`. -/
def less (a b : String) : Bool :=
  cmp a b == .lt

/-- Whether `a` comes before `b` or at the same place. -/
def le (a b : String) : Bool :=
  cmp a b != .gt

/-- Sorts texts, keeping the order of those that compare equal. -/
def sort (texts : List String) : List String :=
  texts.mergeSort le

end ResourceInspector.NaturalOrder
