import ResourceInspector.Proofs.NaturalOrder.Chunks
/-!
# Texts and their continuations

A text comes before everything that continues it (`cmp_append`). Chunk by chunk the continuation is
the text itself at first. Where the text ends behind a chunk, the continuation has chunks left.
Where it ends inside of a run of digits, the last chunk is not one of the continuation: the run goes
on there, and what is longer spells a bigger number or, as long as there are zeros only, the same
number with more zeros in front (`Chunk.cmp_ofRun_append`).
-/

namespace ResourceInspector.NaturalOrder

namespace Chunk

variable {ds es more : List UInt8}

/-! ## Runs that go on -/

/-- A run of zeros is zeros all the way. -/
theorem length_takeWhile_isZero_of_forall (hds : ∀ d ∈ ds, isZero d = true) :
    (ds.takeWhile isZero).length = ds.length := by
  rw [List.takeWhile_eq_self_iff.2 hds]

/-- A run of digits comes before a longer run that it is the beginning of. -/
theorem cmp_ofRun_append (hds : ∀ d ∈ ds, isDigit d = true) (hes : ∀ e ∈ es, isDigit e = true)
    (hne : es ≠ []) : cmp (ofRun ds) (ofRun (ds ++ es)) = .lt := by
  have hlen : 0 < es.length := List.length_pos_iff.2 hne
  have hvalue : value (ds ++ es) = value ds * 10 ^ es.length + value es := value_append ds es
  have hten : 10 ≤ 10 ^ es.length := Nat.le_self_pow hlen.ne' 10
  have hle : value ds * 10 ≤ value ds * 10 ^ es.length := Nat.mul_le_mul_left _ hten
  rw [ofRun, ofRun, cmp, Ordering.then_eq_lt, Nat.compare_eq_lt, Nat.compare_eq_eq,
    Nat.compare_eq_lt]
  by_cases hzero : value ds = 0 ∧ value es = 0
  · -- zeros and more zeros spell the same number
    rcases hzero with ⟨hdsZero, hesZero⟩
    have hfirst : ∀ d ∈ ds, isZero d = true := isZero_of_value_eq_zero hds hdsZero
    have hmore : ∀ e ∈ es, isZero e = true := isZero_of_value_eq_zero hes hesZero
    have hall : ∀ d ∈ ds ++ es, isZero d = true := List.forall_mem_append.2 ⟨hfirst, hmore⟩
    right
    constructor
    · rw [value_append_of_isZero hfirst, hdsZero, hesZero]
    · rw [length_takeWhile_isZero_of_forall hfirst, length_takeWhile_isZero_of_forall hall,
        List.length_append]
      omega
  · left
    omega

/-! ## Bytes that go on -/

/-- A run at the start of some bytes is continued by the digits that follow. -/
theorem ofBytes_run_append (hds : ∀ d ∈ ds, isDigit d = true) (hne : ds ≠ [])
    (rest : List UInt8) :
    ofBytes (ds ++ rest) =
      ofRun (ds ++ rest.takeWhile isDigit) :: ofBytes (rest.dropWhile isDigit) := by
  rcases List.exists_cons_of_ne_nil hne with ⟨d, ds', rfl⟩
  have hd : isDigit d = true := hds d List.mem_cons_self
  rw [← List.takeWhile_append_of_pos hds, ← List.dropWhile_append_of_pos hds, List.cons_append,
    ofBytes_of_isDigit hd, ofRun_takeWhile]

/-- A run of digits comes before all that starts with it. -/
theorem compareLex_run_append (hds : ∀ d ∈ ds, isDigit d = true) (hne : ds ≠ [])
    (hmore : more ≠ []) :
    List.compareLex cmp (ofBytes ds) (ofBytes (ds ++ more)) = .lt := by
  have halone : ofBytes ds = [ofRun ds] := by
    simpa using ofBytes_run_append hds hne []
  rw [halone, ofBytes_run_append hds hne]
  by_cases hrun : more.takeWhile isDigit = []
  · -- the run ends with the text, and something else follows
    have hrest : more.dropWhile isDigit = more := by
      simpa [hrun] using List.takeWhile_append_dropWhile (p := isDigit) (l := more)
    rcases List.exists_cons_of_ne_nil hmore with ⟨b, bs, rfl⟩
    rcases ofBytes_cons b bs with ⟨chunk, chunks, hchunks⟩
    rw [hrun, List.append_nil, hrest, hchunks, compareLex_cons_self, List.compareLex_nil_cons]
  · have hdigits : ∀ e ∈ more.takeWhile isDigit, isDigit e = true :=
      fun e he => List.mem_takeWhile_imp he
    have hlt := cmp_ofRun_append hds hdigits hrun
    have hdiffer : cmp (ofRun ds) (ofRun (ds ++ more.takeWhile isDigit)) ≠ .eq := by
      rw [hlt]
      decide
    rw [compareLex_cons_of_ne hdiffer, hlt]

/-- What stops before the end of a list stops at the same place when the list goes on. -/
theorem takeWhile_append_of_dropWhile_ne_nil {α : Type} {p : α → Bool} {xs ys : List α}
    (h : xs.dropWhile p ≠ []) : (xs ++ ys).takeWhile p = xs.takeWhile p := by
  rw [List.takeWhile_append, if_neg]
  intro hlen
  have hall : xs.takeWhile p = xs := (List.takeWhile_prefix p).eq_of_length hlen
  exact h (List.dropWhile_eq_nil_iff.2 (List.takeWhile_eq_self_iff.1 hall))

/-- Bytes come before all that starts with them. -/
theorem compareLex_append (bytes : List UInt8) (hmore : more ≠ []) :
    List.compareLex cmp (ofBytes bytes) (ofBytes (bytes ++ more)) = .lt := by
  induction bytes using ofBytes.induct with
  | case1 =>
    rcases List.exists_cons_of_ne_nil hmore with ⟨b, bs, rfl⟩
    rcases ofBytes_cons b bs with ⟨chunk, chunks, hchunks⟩
    rw [List.nil_append, ofBytes_nil, hchunks, List.compareLex_nil_cons]
  | case2 b bs hb ih =>
    by_cases hend : bs.dropWhile isDigit = []
    · have hall : ∀ d ∈ b :: bs, isDigit d = true :=
        List.forall_mem_cons.2 ⟨hb, List.dropWhile_eq_nil_iff.1 hend⟩
      exact compareLex_run_append hall (List.cons_ne_nil b bs) hmore
    · -- a run that ends before the bytes do is a run of both
      have htake : ((b :: bs) ++ more).takeWhile isDigit = (b :: bs).takeWhile isDigit :=
        takeWhile_append_of_dropWhile_ne_nil (by rwa [List.dropWhile_cons_of_pos hb])
      have hdrop : ((b :: bs) ++ more).dropWhile isDigit = bs.dropWhile isDigit ++ more := by
        rw [List.dropWhile_append, List.dropWhile_cons_of_pos hb, if_neg (by simpa using hend)]
      rw [List.cons_append] at htake hdrop ⊢
      rw [ofBytes_of_isDigit hb, ofBytes_of_isDigit hb, ← ofRun_takeWhile, ← ofRun_takeWhile, htake,
        hdrop, compareLex_cons_self, List.dropWhile_cons_of_pos hb, ih]
  | case3 b bs hb ih =>
    have hb : isDigit b = false := Bool.eq_false_iff.2 hb
    rw [List.cons_append, ofBytes_of_not_isDigit hb, ofBytes_of_not_isDigit hb,
      compareLex_cons_self, ih]

end Chunk

/-! ## Texts that go on -/

/-- A text comes before every text that continues it, wherever it is cut off. -/
theorem cmp_append (s : String) {t : String} (ht : t ≠ "") : cmp s (s ++ t) = .lt := by
  have hbytes : (s ++ t).toByteArray.data.toList =
      s.toByteArray.data.toList ++ t.toByteArray.data.toList := by simp
  have hmore : t.toByteArray.data.toList ≠ [] := by
    intro hnil
    apply ht
    rw [← String.toByteArray_inj]
    exact ByteArray.ext (Array.toList_inj.1 hnil)
  rw [cmp_eq_compareLex, Chunk.ofString, Chunk.ofString, hbytes]
  exact Chunk.compareLex_append _ hmore

/-- The number is continued by zeros, by zeros and digits, by digits, or ends. -/
theorem cmp_append_zero :
    "0" ≠ "" ∧ cmp "v0" ("v0" ++ "0") = .lt ∧ cmp "v0" ("v0" ++ "07") = .lt ∧
      cmp "v0" ("v0" ++ "7/é") = .lt ∧ cmp "v0" ("v0" ++ "/é") = .lt := by
  have hzero : "0" ≠ "" := by decide
  exact ⟨hzero, cmp_append "v0" hzero, cmp_append "v0" (by decide), cmp_append "v0" (by decide),
    cmp_append "v0" (by decide)⟩

end ResourceInspector.NaturalOrder
