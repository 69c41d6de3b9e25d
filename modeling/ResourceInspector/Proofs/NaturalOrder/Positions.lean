import ResourceInspector.Proofs.NaturalOrder.Chunks
import ResourceInspector.Proofs.Text.Bytes
/-!
# Positions of a comparison

The comparison tells equal numbers apart by where their zeros end, which is right only as long as
both sides are at the same offset. They are, since a step that goes on has passed the same bytes on
both sides: at the start of every step the offsets are the same, all bytes before them are the same,
and neither of them is inside of a run of digits (`Aligned`, kept by `aligned_of_step`).

The same steps can be taken with nothing but positions in the two texts (`moveAt`), where each byte
that is looked up, each difference and each slice is checked. For cursors that are in their texts no
check fails (`moveAt_offset`).
-/

namespace ResourceInspector.NaturalOrder

/-! ## Steps by position -/

/-- The difference of two positions, if the first one is not before the second. -/
def difference? (i j : Nat) : Option Nat :=
  if j ≤ i then some (i - j) else none

/-- The bytes between two positions, if they are in order and none is behind the end. -/
def slice? (bytes : List UInt8) (i j : Nat) : Option (List UInt8) :=
  if i ≤ j ∧ j ≤ bytes.length then some ((bytes.take j).drop i) else none

/-- The first position from `i` on with a byte that does not satisfy `p`, or the end. -/
def skipAt (p : UInt8 → Bool) (bytes : List UInt8) (i : Nat) : Option Nat :=
  if i < bytes.length then do
    let b ← bytes[i]?
    if p b then skipAt p bytes (i + 1) else return i
  else return i
termination_by bytes.length - i

/-- What one step finds: the answer, or the positions to go on from. -/
inductive Move where
  | decided (order : Ordering)
  | next (i j : Nat)
deriving Repr, DecidableEq

/-- What a step finds, told by positions. -/
def Step.move : Step → Move
  | .decided order => .decided order
  | .next left right => .next left.offset right.offset

section

variable (as bs : List UInt8)

/-- Compares the runs of digits at two positions. -/
def compareRunsAt (i j : Nat) : Option Move := do
  let i₀ ← skipAt isZero as i
  let j₀ ← skipAt isZero bs j
  let i₁ ← skipAt isDigit as i₀
  let j₁ ← skipAt isDigit bs j₀
  let lengths := compare (← difference? i₁ i₀) (← difference? j₁ j₀)
  let digits := List.compareLex compare (← slice? as i₀ i₁) (← slice? bs j₀ j₁)
  let order := (lengths.then digits).then (compare i₀ j₀)
  if order = .eq then return .next i₁ j₁ else return .decided order

/-- One step at two positions. -/
def moveAt (i j : Nat) : Option Move :=
  if i < as.length ∧ j < bs.length then do
    let a ← as[i]?
    let b ← bs[j]?
    match isDigit a, isDigit b with
    | true, false => return .decided .lt
    | false, true => return .decided .gt
    | true, true => compareRunsAt as bs i j
    | false, false =>
      if a = b then return .next (i + 1) (j + 1) else return .decided (compare a b)
  else do
    return .decided (compare (← difference? as.length i) (← difference? bs.length j))

end

/-! ## Cursors in a text -/

/-- A cursor reads the bytes of a text from its offset on. -/
structure Cursor.Reads (bytes : List UInt8) (c : Cursor) : Prop where
  offset_le : c.offset ≤ bytes.length
  rest_eq : c.rest = bytes.drop c.offset

/-- The way from one cursor to another over the bytes between them. -/
structure Cursor.Passes (passed : List UInt8) (c c' : Cursor) : Prop where
  rest_eq : c.rest = passed ++ c'.rest
  offset_eq : c'.offset = c.offset + passed.length

section

variable {bytes as bs passed : List UInt8} {c c' l r l' r' : Cursor}

theorem Cursor.Reads.length_rest (h : c.Reads bytes) :
    c.rest.length = bytes.length - c.offset := by
  rw [h.rest_eq, List.length_drop]

theorem Cursor.Reads.getElem? (h : c.Reads bytes) : bytes[c.offset]? = c.rest.head? := by
  rw [h.rest_eq, List.head?_drop]

/-- Behind bytes that were passed a cursor reads the text as well. -/
theorem Cursor.Reads.advance (h : c.Reads bytes) (hpass : c.Passes passed c') :
    c'.Reads bytes := by
  have hdrop : bytes.drop c.offset = passed ++ c'.rest := h.rest_eq.symm.trans hpass.rest_eq
  have hlength := h.length_rest
  rw [hpass.rest_eq, List.length_append] at hlength
  have hle := h.offset_le
  constructor
  · rw [hpass.offset_eq]
    omega
  · rw [hpass.offset_eq, ← List.drop_drop, hdrop, List.drop_left]

/-- The bytes before a cursor are those that it has passed. -/
theorem Cursor.Reads.take_advance (h : c.Reads bytes) (hpass : c.Passes passed c') :
    bytes.take c'.offset = bytes.take c.offset ++ passed := by
  rw [hpass.offset_eq, List.take_add, ← h.rest_eq, hpass.rest_eq, List.take_left]

theorem Cursor.passes_skip (p : UInt8 → Bool) (c : Cursor) :
    c.Passes (c.rest.takeWhile p) (c.skip p) where
  rest_eq := List.takeWhile_append_dropWhile.symm
  offset_eq := rfl

theorem Cursor.Reads.skip (h : c.Reads bytes) (p : UInt8 → Bool) : (c.skip p).Reads bytes :=
  h.advance (c.passes_skip p)

/-- To skip by position stops where skipping in the rest does. -/
theorem skipAt_offset (h : c.Reads bytes) (p : UInt8 → Bool) :
    skipAt p bytes c.offset = some (c.skip p).offset := by
  have hbyte := h.getElem?
  have hlength := h.length_rest
  induction hrest : c.rest generalizing c with
  | nil =>
    rw [hrest, List.length_nil] at hlength
    rw [skipAt, if_neg (by omega)]
    simp [Cursor.skip, hrest]
  | cons b rest ih =>
    have hpass : c.Passes [b] ⟨c.offset + 1, rest⟩ := ⟨hrest, rfl⟩
    have hnext : (Cursor.mk (c.offset + 1) rest).Reads bytes := h.advance hpass
    rw [hrest] at hbyte hlength
    rw [List.length_cons] at hlength
    rw [skipAt, if_pos (by omega), hbyte]
    show (if p b = true then skipAt p bytes (c.offset + 1) else some c.offset) = _
    cases hb : p b with
    | false => simp [Cursor.skip, hrest, hb]
    | true =>
      rw [if_pos rfl, ih hnext hnext.getElem? hnext.length_rest rfl]
      simp [Cursor.skip, hrest, hb]
      omega

theorem difference?_offset (c : Cursor) (p : UInt8 → Bool) :
    difference? (c.skip p).offset c.offset = some (c.rest.takeWhile p).length := by
  simp [difference?, Cursor.skip]

theorem difference?_length (h : c.Reads bytes) :
    difference? bytes.length c.offset = some c.rest.length := by
  rw [difference?, if_pos h.offset_le, h.length_rest]

/-- The bytes between two positions are those that were skipped. -/
theorem slice?_offset (h : c.Reads bytes) (p : UInt8 → Bool) :
    slice? bytes c.offset (c.skip p).offset = some (c.rest.takeWhile p) := by
  have hle : c.offset ≤ (c.skip p).offset := Nat.le_add_right ..
  have hlength : (c.skip p).offset - c.offset = (c.rest.takeWhile p).length :=
    Nat.add_sub_cancel_left ..
  rw [slice?, if_pos ⟨hle, (h.skip p).offset_le⟩, List.drop_take, ← h.rest_eq, hlength,
    ← List.prefix_iff_eq_take.1 (List.takeWhile_prefix p)]

/-- Runs of digits compare the same by positions, and no index is out of bounds. -/
theorem compareRunsAt_offset (hl : l.Reads as) (hr : r.Reads bs) :
    compareRunsAt as bs l.offset r.offset = some (compareRuns l r).move := by
  have hl₀ := hl.skip isZero
  have hr₀ := hr.skip isZero
  simp only [compareRunsAt, skipAt_offset hl, skipAt_offset hr, skipAt_offset hl₀,
    skipAt_offset hr₀, difference?_offset, slice?_offset hl₀, slice?_offset hr₀,
    Option.bind_eq_bind, Option.bind_some, compareRuns]
  split <;> rfl

/-- By position a step finds the same, and no check fails. -/
theorem moveAt_offset (hl : l.Reads as) (hr : r.Reads bs) :
    moveAt as bs l.offset r.offset = some (step l r).move := by
  have hllength := hl.length_rest
  have hrlength := hr.length_rest
  unfold step
  split
  · next a _ b _ ha hb =>
    rw [ha, List.length_cons] at hllength
    rw [hb, List.length_cons] at hrlength
    rw [moveAt, if_pos ⟨by omega, by omega⟩, hl.getElem?, hr.getElem?, ha, hb, List.head?_cons,
      List.head?_cons]
    simp only [Option.bind_eq_bind, Option.bind_some, Option.pure_def, compareRunsAt_offset hl hr]
    cases isDigit a <;> cases isDigit b
    case false.false =>
      by_cases hab : a = b
      · simp only [if_pos hab]
        rfl
      · simp only [if_neg hab]
        rfl
    all_goals rfl
  · next hends =>
    -- the loop is over where one of the texts has no byte left
    have hover : ¬(l.offset < as.length ∧ r.offset < bs.length) := by
      rintro ⟨hlt, hrt⟩
      obtain ⟨a, as', ha⟩ := List.exists_cons_of_length_pos (l := l.rest) (by omega)
      obtain ⟨b, bs', hb⟩ := List.exists_cons_of_length_pos (l := r.rest) (by omega)
      exact hends a as' b bs' ha hb
    rw [moveAt, if_neg hover, difference?_length hl, difference?_length hr]
    rfl

/-! ## The cursors of a step -/

/-- A run of digits goes on from the bytes before a place to the bytes behind it. -/
def RunAcross (before behind : List UInt8) : Prop :=
  (∃ b ∈ before.getLast?, isDigit b = true) ∧ ∃ b ∈ behind.head?, isDigit b = true

/-- Whether a run of digits is cut at a place depends only on the bytes next to it. -/
theorem runAcross_append (hne : passed ≠ []) (before behind : List UInt8) :
    RunAcross (before ++ passed) behind ↔ RunAcross passed behind := by
  rw [RunAcross, List.getLast?_append_of_ne_nil before hne, RunAcross]

/-- Where all digits are skipped no run is cut. -/
theorem not_runAcross_dropWhile (before bytes : List UInt8) :
    ¬RunAcross before (bytes.dropWhile isDigit) := by
  rintro ⟨-, b, hb, hdigit⟩
  have hnot := List.head?_dropWhile_not isDigit bytes
  rw [Option.mem_def.1 hb] at hnot
  cases hnot.symm.trans hdigit

/-- Runs of digits are passed when they are the same, since equal numbers with the same zeros are
spelled alike. -/
theorem passes_of_compareRuns {n : Nat} {a : UInt8} (hda : isDigit a = true)
    (h : compareRuns ⟨n, a :: as⟩ ⟨n, bs⟩ = .next l' r') :
    ∃ passed ≠ [], Cursor.Passes passed ⟨n, a :: as⟩ l' ∧ Cursor.Passes passed ⟨n, bs⟩ r' ∧
      ¬RunAcross passed l'.rest ∧ ¬RunAcross passed r'.rest := by
  rw [compareRuns_eq] at h
  split at h
  · next heq =>
    have hrun : (a :: as).takeWhile isDigit = bs.takeWhile isDigit :=
      Chunk.takeWhile_eq_of_atPlace_eq (Std.LawfulEqCmp.eq_of_compare heq)
    have hne : (a :: as).takeWhile isDigit ≠ [] := by
      rw [List.takeWhile_cons_of_pos hda]
      exact List.cons_ne_nil _ _
    obtain ⟨rfl, rfl⟩ := Step.next.inj h
    refine ⟨_, hne, ⟨List.takeWhile_append_dropWhile.symm, rfl⟩, ?_,
      not_runAcross_dropWhile _ _, not_runAcross_dropWhile _ _⟩
    rw [hrun]
    exact ⟨List.takeWhile_append_dropWhile.symm, rfl⟩
  · cases h

/-- A step from a common offset that goes on has passed the same bytes on both sides, at least one,
and has not stopped amid a run of digits. -/
theorem passes_of_step (hoffset : l.offset = r.offset) (h : step l r = .next l' r') :
    ∃ passed ≠ [], l.Passes passed l' ∧ r.Passes passed r' ∧
      ¬RunAcross passed l'.rest ∧ ¬RunAcross passed r'.rest := by
  obtain ⟨n, as⟩ := l
  obtain ⟨m, bs⟩ := r
  obtain rfl : n = m := hoffset
  unfold step at h
  split at h
  case h_2 => cases h
  next a as' b bs' ha hb =>
  obtain rfl : as = a :: as' := ha
  obtain rfl : bs = b :: bs' := hb
  split at h
  · cases h
  · cases h
  · next hda _ => exact passes_of_compareRuns hda h
  · next hda _ =>
    split at h
    · next hab =>
      have hstop : ∀ behind, ¬RunAcross [a] behind := by
        rintro behind ⟨⟨c, hc, hdigit⟩, -⟩
        obtain rfl : a = c := Option.some.inj hc
        rw [hda] at hdigit
        cases hdigit
      obtain ⟨rfl, rfl⟩ := Step.next.inj h
      exact ⟨[a], List.cons_ne_nil _ _, ⟨rfl, rfl⟩, ⟨hab ▸ rfl, rfl⟩, hstop _, hstop _⟩
    · cases h

/-- How two cursors stand to each other at the start of a step: both are in their texts, at the same
offset and behind the same bytes, and neither has digits on both sides. -/
structure Aligned (as bs : List UInt8) (l r : Cursor) : Prop where
  left_reads : l.Reads as
  right_reads : r.Reads bs
  offset_eq : l.offset = r.offset
  passed_eq : as.take l.offset = bs.take r.offset
  left_outside : ¬RunAcross (as.take l.offset) (as.drop l.offset)
  right_outside : ¬RunAcross (bs.take r.offset) (bs.drop r.offset)

theorem aligned_start (as bs : List UInt8) : Aligned as bs ⟨0, as⟩ ⟨0, bs⟩ where
  left_reads := ⟨Nat.zero_le _, rfl⟩
  right_reads := ⟨Nat.zero_le _, rfl⟩
  offset_eq := rfl
  passed_eq := by rw [List.take_zero, List.take_zero]
  left_outside := by simp [RunAcross]
  right_outside := by simp [RunAcross]

/-- A step that goes on keeps the cursors aligned. -/
theorem aligned_of_step (hal : Aligned as bs l r) (h : step l r = .next l' r') :
    Aligned as bs l' r' := by
  obtain ⟨passed, hne, hl, hr, hlstop, hrstop⟩ := passes_of_step hal.offset_eq h
  have hl' := hal.left_reads.advance hl
  have hr' := hal.right_reads.advance hr
  have hltake := hal.left_reads.take_advance hl
  have hrtake := hal.right_reads.take_advance hr
  exact
    { left_reads := hl'
      right_reads := hr'
      offset_eq := by rw [hl.offset_eq, hr.offset_eq, hal.offset_eq]
      passed_eq := by rw [hltake, hrtake, hal.passed_eq]
      left_outside := by rwa [hltake, ← hl'.rest_eq, runAcross_append hne]
      right_outside := by rwa [hrtake, ← hr'.rest_eq, runAcross_append hne] }

/-- A step that goes on gets further on both sides. -/
theorem offset_lt_of_step (hoffset : l.offset = r.offset) (h : step l r = .next l' r') :
    l.offset < l'.offset ∧ r.offset < r'.offset := by
  obtain ⟨passed, hne, hl, hr, -⟩ := passes_of_step hoffset h
  have hpos : 0 < passed.length := List.length_pos_iff.2 hne
  rw [hl.offset_eq, hr.offset_eq]
  omega

/-! ## Whole comparisons -/

/-- The pairs of cursors that a comparison of two texts takes its steps from. -/
inductive Reached (a b : String) : Cursor → Cursor → Prop where
  | start : Reached a b (.ofString a) (.ofString b)
  | step {l r l' r' : Cursor} : Reached a b l r → step l r = .next l' r' → Reached a b l' r'

/-- The invariant holds at every state that a comparison gets to: it holds at the start and each
step keeps it. -/
theorem Reached.aligned {a b : String} (h : Reached a b l r) :
    Aligned (Text.bytes a) (Text.bytes b) l r := by
  induction h with
  | start => exact aligned_start _ _
  | step _ hstep ih => exact aligned_of_step ih hstep

/-- From wherever a comparison gets to it comes to an end. -/
theorem Reached.exists_decided {a b : String} (h : Reached a b l r) :
    ∃ l' r', Reached a b l' r' ∧ NaturalOrder.step l' r' = .decided (compareFrom l r) := by
  -- on what is left of the left side, which every step that goes on makes shorter
  induction hlen : l.rest.length using Nat.strong_induction_on generalizing l r with
  | _ len ih =>
    rw [compareFrom]
    split
    · next order horder => exact ⟨l, r, h, horder⟩
    · next l' r' hnext =>
      exact ih l'.rest.length (hlen ▸ length_rest_lt_of_step hnext) (h.step hnext) rfl

/-- Before every step of a comparison the cursors are aligned. So with positions in place of cursors
the step does the same and none of its checks fails; it gets further on both sides or decides; and
where zeros end can be compared in place of how many there are. The last step decides. -/
theorem aligned_throughout (a b : String) :
    (∀ l r, Reached a b l r →
      Aligned (Text.bytes a) (Text.bytes b) l r ∧
      moveAt (Text.bytes a) (Text.bytes b) l.offset r.offset = some (step l r).move ∧
      (∀ l' r', step l r = .next l' r' → l.offset < l'.offset ∧ r.offset < r'.offset) ∧
      compare (l.skip isZero).offset (r.skip isZero).offset =
        compare (l.rest.takeWhile isZero).length (r.rest.takeWhile isZero).length) ∧
    ∃ l r, Reached a b l r ∧ step l r = .decided (cmp a b) := by
  constructor
  · intro l r h
    have hal := h.aligned
    refine ⟨hal, moveAt_offset hal.left_reads hal.right_reads,
      fun _ _ => offset_lt_of_step hal.offset_eq, ?_⟩
    rw [(l.passes_skip isZero).offset_eq, (r.passes_skip isZero).offset_eq, hal.offset_eq,
      compare_add_left]
  · exact Reached.start.exists_decided

/-- Behind the letter of `v007` and `v07` the zeros decide, two against one, by where they end. -/
theorem aligned_throughout_zeros :
    Reached "v007" "v07" ⟨1, [48, 48, 55]⟩ ⟨1, [48, 55]⟩ ∧
      Aligned (Text.bytes "v007") (Text.bytes "v07") ⟨1, [48, 48, 55]⟩ ⟨1, [48, 55]⟩ ∧
      moveAt (Text.bytes "v007") (Text.bytes "v07") 1 1 = some (.decided .gt) ∧
      compare 3 2 = compare 2 1 := by
  have hreached : Reached "v007" "v07" ⟨1, [48, 48, 55]⟩ ⟨1, [48, 55]⟩ := .step .start (by decide)
  obtain ⟨hal, hmove, -, hzeros⟩ := (aligned_throughout "v007" "v07").1 _ _ hreached
  exact ⟨hreached, hal, hmove, hzeros⟩

end

end ResourceInspector.NaturalOrder
