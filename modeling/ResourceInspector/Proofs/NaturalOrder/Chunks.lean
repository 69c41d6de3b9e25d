import ResourceInspector.Proofs.NaturalOrder.Numeral
/-!
# Comparing chunk by chunk

The comparison never builds chunks, and it tells equal numbers apart by where their zeros end and
not by how many there are. Both come to the same as long as the two places have the same offset,
which they have at the start and keep at every step: a step that goes on has passed a chunk that is
the same on both sides (`step_chunks`). So a whole comparison is the lexicographic comparison of the
chunks (`compareFrom_eq`), and since a text can be told from its chunks (`ofBytes_injective`), the
laws of that order are those of natural order.
-/

namespace ResourceInspector.NaturalOrder

/-! ## Runs of digits -/

/-- The digits of a run behind its leading zeros. -/
def significant (bytes : List UInt8) : List UInt8 :=
  (bytes.dropWhile isZero).takeWhile isDigit

section

variable (bytes : List UInt8)

/-- What is left behind the zeros is empty or starts with another digit. -/
theorem significant_spec : Chunk.Significant (significant bytes) := by
  constructor
  · intro d hd
    exact List.mem_takeWhile_imp hd
  · intro d hd
    have hnot := List.head?_dropWhile_not isZero bytes
    rw [significant, List.head?_takeWhile] at hd
    obtain ⟨hhead, _⟩ := Option.filter_eq_some_iff.1 hd
    rwa [hhead] at hnot

/-- The zeros at the start of a run are digits as well. -/
theorem forall_mem_zeros : ∀ d ∈ bytes.takeWhile isZero, isDigit d = true := by
  intro d hd
  exact isDigit_of_isZero (List.mem_takeWhile_imp hd)

/-- A run is its zeros followed by its significant digits. -/
theorem takeWhile_isDigit_eq :
    bytes.takeWhile isDigit = bytes.takeWhile isZero ++ significant bytes := by
  conv_lhs => rw [← List.takeWhile_append_dropWhile (p := isZero) (l := bytes)]
  rw [List.takeWhile_append_of_pos (forall_mem_zeros bytes), significant]

/-- What follows a run is found behind its zeros as well. -/
theorem dropWhile_isDigit_dropWhile :
    (bytes.dropWhile isZero).dropWhile isDigit = bytes.dropWhile isDigit := by
  conv_rhs => rw [← List.takeWhile_append_dropWhile (p := isZero) (l := bytes)]
  rw [List.dropWhile_append_of_pos (forall_mem_zeros bytes)]

theorem takeWhile_isZero_takeWhile :
    (bytes.takeWhile isDigit).takeWhile isZero = bytes.takeWhile isZero := by
  have hboth : (fun b => decide (isZero b = true ∧ isDigit b = true)) = isZero := by
    funext b
    cases hz : isZero b with
    | false => simp
    | true => simp [isDigit_of_isZero hz]
  rw [List.takeWhile_takeWhile, hboth]

end

/-! ## The order of chunks -/

namespace Chunk

/-- Numbers compare as pairs, by value and then by zeros. -/
theorem cmp_number (v z w y : Nat) :
    cmp (.number v z) (.number w y) =
      compareLex (compareOn Prod.fst) (compareOn Prod.snd) (v, z) (w, y) := rfl

instance : Std.LawfulEqCmp cmp where
  compare_self {a} := by
    cases a with
    | number v z => simp [cmp]
    | byte a => simp [cmp]
  eq_of_compare {a b} h := by
    cases a with
    | number v z =>
      cases b with
      | number w y =>
        obtain ⟨hv, hz⟩ := Ordering.then_eq_eq.1 h
        rw [compare_eq_iff_eq.1 hv, compare_eq_iff_eq.1 hz]
      | byte b => cases h
    | byte a =>
      cases b with
      | number w y => cases h
      | byte b => rw [Std.compare_eq_iff_eq.1 h]

instance : Std.TransCmp cmp where
  eq_swap {a b} := by
    cases a with
    | number v z =>
      cases b with
      | number w y =>
        rw [cmp_number, cmp_number]
        exact Std.OrientedCmp.eq_swap
      | byte b => rfl
    | byte a =>
      cases b with
      | number w y => rfl
      | byte b => exact Std.OrientedOrd.eq_swap
  isLE_trans {a b c} hab hbc := by
    cases a with
    | number v z =>
      cases c with
      | number u x =>
        cases b with
        | number w y =>
          rw [cmp_number] at *
          exact Std.TransCmp.isLE_trans hab hbc
        | byte b => cases hbc
      | byte c => rfl
    | byte a =>
      cases b with
      | number w y => cases hab
      | byte b =>
        cases c with
        | number u x => cases hbc
        | byte c => exact Std.TransOrd.isLE_trans hab hbc

/-! ## Chunks of bytes -/

/-- The chunk of the run of digits at a place. -/
def atPlace (bytes : List UInt8) : Chunk :=
  .number (value (significant bytes)) (bytes.takeWhile isZero).length

/-- The chunk of the digits that come next is the one that the comparison reads off in place. -/
theorem ofRun_takeWhile (bytes : List UInt8) : ofRun (bytes.takeWhile isDigit) = atPlace bytes := by
  have hvalue : value (bytes.takeWhile isDigit) = value (significant bytes) := by
    rw [takeWhile_isDigit_eq, value_append_of_isZero fun d hd => List.mem_takeWhile_imp hd]
  rw [ofRun, atPlace, hvalue, takeWhile_isZero_takeWhile]

/-- A run of digits can be told from its chunk. -/
theorem takeWhile_eq_of_atPlace_eq {as bs : List UInt8} (h : atPlace as = atPlace bs) :
    as.takeWhile isDigit = bs.takeWhile isDigit := by
  obtain ⟨hvalue, hcount⟩ := Chunk.number.inj h
  have hzeros : as.takeWhile isZero = bs.takeWhile isZero := by
    have hreplicate : ∀ bytes : List UInt8,
        bytes.takeWhile isZero = List.replicate (bytes.takeWhile isZero).length 48 := fun bytes =>
      List.eq_replicate_of_mem fun b hb => isZero_iff.1 (List.mem_takeWhile_imp hb)
    rw [hreplicate as, hreplicate bs, hcount]
  have hdigits : significant as = significant bs := by
    have hcmp := compare_value (significant_spec as) (significant_spec bs)
    rw [compare_eq_iff_eq.2 hvalue] at hcmp
    exact Std.LawfulEqCmp.eq_of_compare (Ordering.then_eq_eq.1 hcmp.symm).2
  rw [takeWhile_isDigit_eq, takeWhile_isDigit_eq, hzeros, hdigits]

@[simp] theorem ofBytes_nil : ofBytes [] = [] := by
  rw [ofBytes]

theorem ofBytes_of_isDigit {b : UInt8} (hb : isDigit b = true) (bs : List UInt8) :
    ofBytes (b :: bs) = atPlace (b :: bs) :: ofBytes ((b :: bs).dropWhile isDigit) := by
  rw [ofBytes, if_pos hb, ← ofRun_takeWhile, List.takeWhile_cons_of_pos hb,
    List.dropWhile_cons_of_pos hb]

theorem ofBytes_of_not_isDigit {b : UInt8} (hb : isDigit b = false) (bs : List UInt8) :
    ofBytes (b :: bs) = .byte b :: ofBytes bs := by
  rw [ofBytes, if_neg (by simp [hb])]

theorem ofBytes_cons (b : UInt8) (bs : List UInt8) :
    ∃ chunk rest, ofBytes (b :: bs) = chunk :: rest := by
  cases hb : isDigit b with
  | false => exact ⟨_, _, ofBytes_of_not_isDigit hb bs⟩
  | true => exact ⟨_, _, ofBytes_of_isDigit hb bs⟩

/-- Bytes can be told from their chunks. -/
theorem ofBytes_injective {as bs : List UInt8} (h : ofBytes as = ofBytes bs) : as = bs := by
  induction as using ofBytes.induct generalizing bs with
  | case1 =>
    cases bs with
    | nil => rfl
    | cons b bs =>
      obtain ⟨chunk, rest, hbs⟩ := ofBytes_cons b bs
      simp [hbs] at h
  | case2 a as ha ih =>
    rw [ofBytes_of_isDigit ha] at h
    cases bs with
    | nil => simp at h
    | cons b bs =>
      cases hb : isDigit b with
      | false => simp [ofBytes_of_not_isDigit hb, atPlace] at h
      | true =>
        rw [ofBytes_of_isDigit hb, List.dropWhile_cons_of_pos ha] at h
        obtain ⟨hchunk, hrest⟩ := List.cons.inj h
        have hrun := takeWhile_eq_of_atPlace_eq hchunk
        have hafter := ih hrest
        rw [← List.dropWhile_cons_of_pos ha] at hafter
        rw [← List.takeWhile_append_dropWhile (p := isDigit) (l := a :: as), hrun, hafter,
          List.takeWhile_append_dropWhile]
  | case3 a as ha ih =>
    rw [ofBytes_of_not_isDigit (Bool.eq_false_iff.2 ha)] at h
    cases bs with
    | nil => simp at h
    | cons b bs =>
      cases hb : isDigit b with
      | false =>
        rw [ofBytes_of_not_isDigit hb] at h
        obtain ⟨hbyte, hrest⟩ := List.cons.inj h
        rw [Chunk.byte.inj hbyte, ih hrest]
      | true => simp [ofBytes_of_isDigit hb, atPlace] at h

/-- A text can be told from its chunks. -/
theorem ofString_injective {a b : String} (h : ofString a = ofString b) : a = b := by
  have hbytes : a.toByteArray.data.toList = b.toByteArray.data.toList := ofBytes_injective h
  exact String.toByteArray_inj.1 (ByteArray.ext (Array.toList_inj.1 hbytes))

end Chunk

/-! ## Steps -/

theorem compare_add_left (n a b : Nat) : compare (n + a) (n + b) = compare a b := by
  change compareOfLessAndEq _ _ = compareOfLessAndEq _ _
  simp only [compareOfLessAndEq, Nat.add_lt_add_iff_left, Nat.add_left_cancel_iff]

/-- Skipping the zeros of a run and then its other digits passes the run. -/
theorem skip_isZero_skip_isDigit (n : Nat) (bytes : List UInt8) :
    ((Cursor.mk n bytes).skip isZero).skip isDigit =
      ⟨n + (bytes.takeWhile isDigit).length, bytes.dropWhile isDigit⟩ := by
  rw [takeWhile_isDigit_eq, List.length_append, ← Nat.add_assoc, ← dropWhile_isDigit_dropWhile]
  rfl

/-- What a comparison of runs finds that start at one offset: it decides as the chunks do, or goes
on behind both runs. -/
theorem compareRuns_eq (n : Nat) (as bs : List UInt8) :
    compareRuns ⟨n, as⟩ ⟨n, bs⟩ =
      if Chunk.cmp (.atPlace as) (.atPlace bs) = .eq then
        .next ⟨n + (as.takeWhile isDigit).length, as.dropWhile isDigit⟩
          ⟨n + (bs.takeWhile isDigit).length, bs.dropWhile isDigit⟩
      else .decided (Chunk.cmp (.atPlace as) (.atPlace bs)) := by
  have horder : ((compare (significant as).length (significant bs).length).then
      (List.compareLex compare (significant as) (significant bs))).then
        (compare (n + (as.takeWhile isZero).length) (n + (bs.takeWhile isZero).length)) =
      Chunk.cmp (.atPlace as) (.atPlace bs) := by
    rw [← Chunk.compare_value (significant_spec as) (significant_spec bs), compare_add_left]
    rfl
  rw [← horder, ← skip_isZero_skip_isDigit, ← skip_isZero_skip_isDigit]
  rfl

/-- A lexicographic comparison is decided by the first difference. -/
theorem compareLex_cons_of_ne {α : Type} {cmp : α → α → Ordering} {a b : α} (h : cmp a b ≠ .eq)
    (as bs : List α) : List.compareLex cmp (a :: as) (b :: bs) = cmp a b := by
  rw [List.compareLex_cons_cons]
  cases hc : cmp a b with
  | eq => exact absurd hc h
  | lt => rfl
  | gt => rfl

/-- What both sides start with makes no difference. -/
theorem compareLex_cons_self {α : Type} {cmp : α → α → Ordering} [Std.ReflCmp cmp] (a : α)
    (as bs : List α) : List.compareLex cmp (a :: as) (a :: bs) = List.compareLex cmp as bs := by
  have hsame : cmp a a = .eq := Std.ReflCmp.compare_self
  rw [List.compareLex_cons_cons, hsame, Ordering.eq_then]

/-- Where one side has nothing left, it comes first unless the other has nothing left either. -/
theorem step_of_nil {as bs : List UInt8} (n : Nat) (h : as = [] ∨ bs = []) :
    step ⟨n, as⟩ ⟨n, bs⟩ =
      .decided (List.compareLex Chunk.cmp (Chunk.ofBytes as) (Chunk.ofBytes bs)) := by
  cases as with
  | nil =>
    cases bs with
    | nil => simp [step, List.compareLex_nil_nil]
    | cons b bs =>
      obtain ⟨chunk, rest, hbs⟩ := Chunk.ofBytes_cons b bs
      simp [step, hbs, List.compareLex_nil_cons, Nat.compare_eq_lt]
  | cons a as =>
    cases bs with
    | nil =>
      obtain ⟨chunk, rest, has⟩ := Chunk.ofBytes_cons a as
      simp [step, has, List.compareLex_cons_nil, Nat.compare_eq_gt]
    | cons b bs => simp at h

/-- One step at a common offset decides as the chunks do, or passes a chunk that both sides share
and comes to a common offset again. -/
theorem step_chunks (n : Nat) (as bs : List UInt8) :
    step ⟨n, as⟩ ⟨n, bs⟩ =
        .decided (List.compareLex Chunk.cmp (Chunk.ofBytes as) (Chunk.ofBytes bs)) ∨
      ∃ m as' bs' chunk, step ⟨n, as⟩ ⟨n, bs⟩ = .next ⟨m, as'⟩ ⟨m, bs'⟩ ∧
        Chunk.ofBytes as = chunk :: Chunk.ofBytes as' ∧
        Chunk.ofBytes bs = chunk :: Chunk.ofBytes bs' := by
  by_cases hnil : as = [] ∨ bs = []
  · exact Or.inl (step_of_nil n hnil)
  obtain ⟨has, hbs⟩ := not_or.1 hnil
  obtain ⟨a, as, rfl⟩ := List.exists_cons_of_ne_nil has
  obtain ⟨b, bs, rfl⟩ := List.exists_cons_of_ne_nil hbs
  cases ha : isDigit a <;> cases hb : isDigit b
  case false.false =>
    rw [Chunk.ofBytes_of_not_isDigit ha, Chunk.ofBytes_of_not_isDigit hb]
    by_cases hab : a = b
    · subst hab
      exact Or.inr ⟨n + 1, as, bs, .byte a, by simp [step, ha], rfl, rfl⟩
    · have hne : Chunk.cmp (.byte a) (.byte b) ≠ .eq :=
        fun h => hab (Chunk.byte.inj (Std.LawfulEqCmp.eq_of_compare h))
      rw [compareLex_cons_of_ne hne]
      exact Or.inl (by simp [step, ha, hb, hab, Chunk.cmp])
  case false.true =>
    rw [Chunk.ofBytes_of_not_isDigit ha, Chunk.ofBytes_of_isDigit hb]
    exact Or.inl (by simp [step, ha, hb, List.compareLex_cons_cons, Chunk.cmp, Chunk.atPlace])
  case true.false =>
    rw [Chunk.ofBytes_of_isDigit ha, Chunk.ofBytes_of_not_isDigit hb]
    exact Or.inl (by simp [step, ha, hb, List.compareLex_cons_cons, Chunk.cmp, Chunk.atPlace])
  case true.true =>
    have hstep : step ⟨n, a :: as⟩ ⟨n, b :: bs⟩ = compareRuns ⟨n, a :: as⟩ ⟨n, b :: bs⟩ := by
      simp [step, ha, hb]
    rw [hstep, compareRuns_eq, Chunk.ofBytes_of_isDigit ha, Chunk.ofBytes_of_isDigit hb]
    split
    · -- equal numbers are spelled alike, so both runs have the same length
      next heq =>
      have hchunk : Chunk.atPlace (a :: as) = Chunk.atPlace (b :: bs) :=
        Std.LawfulEqCmp.eq_of_compare heq
      rw [Chunk.takeWhile_eq_of_atPlace_eq hchunk, hchunk]
      exact Or.inr ⟨_, _, _, _, rfl, rfl, rfl⟩
    · next hne =>
      rw [compareLex_cons_of_ne hne]
      exact Or.inl rfl

/-! ## Whole comparisons -/

/-- At a common offset a comparison is the lexicographic comparison of the chunks. -/
theorem compareFrom_eq (n : Nat) (as bs : List UInt8) :
    compareFrom ⟨n, as⟩ ⟨n, bs⟩ =
      List.compareLex Chunk.cmp (Chunk.ofBytes as) (Chunk.ofBytes bs) := by
  -- on what is left of the left side, which every step that goes on makes shorter
  induction hlen : as.length using Nat.strong_induction_on generalizing n as bs with
  | _ len ih =>
    rw [compareFrom]
    rcases step_chunks n as bs with hdecided | ⟨m, as', bs', chunk, hnext, has, hbs⟩
    · split
      · next order horder => exact Step.decided.inj (horder.symm.trans hdecided)
      · next hother => cases hother.symm.trans hdecided
    · have hlt : as'.length < as.length := length_rest_lt_of_step hnext
      split
      · next hother => cases hother.symm.trans hnext
      · next l r hlr =>
        obtain ⟨rfl, rfl⟩ := Step.next.inj (hlr.symm.trans hnext)
        rw [ih as'.length (hlen ▸ hlt) m as' bs' rfl, has, hbs, compareLex_cons_self]

/-- The loop over two texts comes to the lexicographic order of their chunks. -/
theorem cmp_eq_compareLex (a b : String) :
    cmp a b = List.compareLex Chunk.cmp (Chunk.ofString a) (Chunk.ofString b) :=
  compareFrom_eq 0 _ _

end ResourceInspector.NaturalOrder
