import Mathlib.Data.Nat.Digits.Defs
import ResourceInspector.Proofs.NaturalOrder.Chunks
import ResourceInspector.Proofs.Text.Bytes
/-!
# What natural order compares

The chunks of a text, described without the function that finds them. `Cuts` is a relation with one
constructor for each kind of chunk, in which a run of digits has to go on as far as there are digits
and stands for the number that it is a numeral of. Bytes are cut in just one way (`cuts_iff`), and
natural order is the lexicographic order of what they are cut into (`cmp_eq_cuts`).
-/

namespace ResourceInspector.NaturalOrder

/-! ## Runs of digits -/

/-- A run of digits with the number it spells in base ten and the count of zeros it starts with. -/
structure Spells (digits : List UInt8) (value zeros : Nat) : Prop where
  nonempty : digits ≠ []
  all_digits : ∀ d ∈ digits, isDigit d = true
  value_eq : value = Nat.ofDigits 10 (digits.reverse.map fun d => d.toNat - 48)
  zeros_first : ∃ rest, digits = List.replicate zeros 48 ++ rest ∧ rest.head? ≠ some 48

/-- Reading digits from the left gives the number that they are a numeral of, whose least digit
comes last. -/
theorem Chunk.value_eq_ofDigits (digits : List UInt8) :
    Chunk.value digits = Nat.ofDigits 10 (digits.reverse.map fun d => d.toNat - 48) := by
  induction digits with
  | nil => rfl
  | cons d digits ih =>
    rw [Chunk.value_cons, ih, List.reverse_cons, List.map_append, Nat.ofDigits_append,
      List.length_map, List.length_reverse, List.map_singleton, Nat.ofDigits_singleton,
      Nat.add_comm, Nat.mul_comm]

/-- The zeros that a list starts with are those up to the first other byte. -/
theorem length_takeWhile_isZero {zeros : Nat} {rest : List UInt8} (hrest : rest.head? ≠ some 48) :
    ((List.replicate zeros 48 ++ rest).takeWhile isZero).length = zeros := by
  have hnone : rest.takeWhile isZero = [] := by
    rw [List.takeWhile_eq_nil_iff]
    intro h0 hzero
    apply hrest
    rw [← isZero_iff.1 hzero, List.head?_eq_getElem?, List.getElem?_eq_getElem h0]
    rfl
  rw [List.takeWhile_append_of_pos fun b hb => isZero_iff.2 (List.eq_of_mem_replicate hb), hnone,
    List.append_nil, List.length_replicate]

variable {digits bytes : List UInt8} {value zeros : Nat} {chunks : List Chunk}

theorem Spells.ofRun_eq (h : Spells digits value zeros) :
    Chunk.ofRun digits = .number value zeros := by
  obtain ⟨rest, hsplit, hrest⟩ := h.zeros_first
  have hzeros : (digits.takeWhile isZero).length = zeros := by
    rw [hsplit, length_takeWhile_isZero hrest]
  rw [Chunk.ofRun, Chunk.value_eq_ofDigits, ← h.value_eq, hzeros]

/-- Every run of digits spells a number. -/
theorem spells_ofRun (hne : digits ≠ []) (hall : ∀ d ∈ digits, isDigit d = true) :
    Spells digits (Chunk.value digits) (digits.takeWhile isZero).length where
  nonempty := hne
  all_digits := hall
  value_eq := Chunk.value_eq_ofDigits digits
  zeros_first := by
    refine ⟨digits.dropWhile isZero, ?_, ?_⟩
    · have hzeros : digits.takeWhile isZero =
          List.replicate (digits.takeWhile isZero).length 48 :=
        List.eq_replicate_of_mem fun b hb => isZero_iff.1 (List.mem_takeWhile_imp hb)
      rw [← hzeros, List.takeWhile_append_dropWhile]
    · intro hhead
      have hnot := List.head?_dropWhile_not isZero digits
      rw [hhead] at hnot
      cases hnot

/-! ## Cutting bytes -/

/-- Bytes and what they are cut into: runs of digits, which end only before another byte or at the
end, and single bytes that are no digits. -/
inductive Cuts : List UInt8 → List Chunk → Prop where
  | nil : Cuts [] []
  | number {digits rest : List UInt8} {value zeros : Nat} {chunks : List Chunk} :
      Spells digits value zeros → (∀ b ∈ rest.head?, isDigit b = false) → Cuts rest chunks →
      Cuts (digits ++ rest) (.number value zeros :: chunks)
  | byte {b : UInt8} {rest : List UInt8} {chunks : List Chunk} :
      isDigit b = false → Cuts rest chunks → Cuts (b :: rest) (.byte b :: chunks)

theorem cuts_ofBytes (bytes : List UInt8) : Cuts bytes (Chunk.ofBytes bytes) := by
  induction bytes using Chunk.ofBytes.induct with
  | case1 =>
    rw [Chunk.ofBytes_nil]
    exact .nil
  | case2 b bs hb ih =>
    have hall : ∀ d ∈ b :: bs.takeWhile isDigit, isDigit d = true :=
      List.forall_mem_cons.2 ⟨hb, fun d hd => List.mem_takeWhile_imp hd⟩
    have hrun := spells_ofRun (List.cons_ne_nil _ _) hall
    have hend : ∀ c ∈ (bs.dropWhile isDigit).head?, isDigit c = false := by
      intro c hc
      have hnot := List.head?_dropWhile_not isDigit bs
      rwa [Option.mem_def.1 hc] at hnot
    have hcut := Cuts.number hrun hend ih
    rw [List.cons_append, List.takeWhile_append_dropWhile] at hcut
    rw [Chunk.ofBytes, if_pos hb]
    exact hcut
  | case3 b bs hb ih =>
    have hb : isDigit b = false := Bool.eq_false_iff.2 hb
    rw [Chunk.ofBytes_of_not_isDigit hb]
    exact .byte hb ih

/-- A cut finds the chunks. -/
theorem Cuts.ofBytes_eq (h : Cuts bytes chunks) : Chunk.ofBytes bytes = chunks := by
  induction h with
  | nil => exact Chunk.ofBytes_nil
  | @number digits rest value zeros chunks hrun hend _ ih =>
    obtain ⟨d, ds, rfl⟩ := List.exists_cons_of_ne_nil hrun.nonempty
    -- the run takes all digits there are, and leaves the rest
    have hstop : rest.takeWhile isDigit = [] ∧ rest.dropWhile isDigit = rest := by
      cases rest with
      | nil => exact ⟨rfl, rfl⟩
      | cons c rest => simp [hend c rfl]
    have htake : ((d :: ds) ++ rest).takeWhile isDigit = d :: ds := by
      rw [List.takeWhile_append_of_pos hrun.all_digits, hstop.1, List.append_nil]
    have hdrop : ((d :: ds) ++ rest).dropWhile isDigit = rest := by
      rw [List.dropWhile_append_of_pos hrun.all_digits, hstop.2]
    have hd : isDigit d = true := hrun.all_digits d List.mem_cons_self
    rw [List.cons_append] at htake hdrop ⊢
    rw [Chunk.ofBytes_of_isDigit hd, ← Chunk.ofRun_takeWhile, htake, hdrop, hrun.ofRun_eq, ih]
  | byte hb _ ih => rw [Chunk.ofBytes_of_not_isDigit hb, ih]

/-- Bytes are cut in just one way. -/
theorem cuts_iff : Cuts bytes chunks ↔ Chunk.ofBytes bytes = chunks := by
  constructor
  · exact Cuts.ofBytes_eq
  · rintro rfl
    exact cuts_ofBytes bytes

/-! ## The order -/

/-- To come first in a lexicographic comparison is to be a proper beginning or to have the lesser
entry where the lists first differ. -/
theorem compareLex_eq_lt_iff {α : Type} {cmp : α → α → Ordering} [Std.LawfulEqCmp cmp]
    {xs ys : List α} :
    List.compareLex cmp xs ys = .lt ↔ List.Lex (fun x y => cmp x y = .lt) xs ys := by
  induction xs generalizing ys with
  | nil =>
    cases ys with
    | nil => simp [List.compareLex_nil_nil]
    | cons y ys => simp [List.compareLex_nil_cons]
  | cons x xs ih =>
    cases ys with
    | nil => simp [List.compareLex_cons_nil]
    | cons y ys =>
      rw [List.compareLex_cons_cons]
      constructor
      · intro h
        rcases Ordering.then_eq_lt.1 h with hxy | ⟨hxy, hrest⟩
        · exact .rel hxy
        · rw [Std.LawfulEqCmp.eq_of_compare hxy]
          exact .cons (ih.1 hrest)
      · rintro (_ | hxy | hrest)
        · exact Ordering.then_eq_lt.2 (Or.inl hxy)
        · exact Ordering.then_eq_lt.2 (Or.inr ⟨Std.ReflCmp.compare_self, ih.2 hrest⟩)

/-- Natural order is the lexicographic order of the chunks into which the bytes of two texts are
cut, a proper beginning coming first. Every text is cut in just one way. -/
theorem cmp_eq_cuts :
    (∀ s : String, ∃! chunks, Cuts (Text.bytes s) chunks) ∧
    ∀ (a b : String) (xs ys : List Chunk), Cuts (Text.bytes a) xs → Cuts (Text.bytes b) ys →
      cmp a b = List.compareLex Chunk.cmp xs ys ∧
      (cmp a b = .lt ↔ List.Lex (fun x y => Chunk.cmp x y = .lt) xs ys) := by
  constructor
  · intro s
    exact ⟨_, cuts_ofBytes _, fun chunks hcut => hcut.ofBytes_eq.symm⟩
  · intro a b xs ys ha hb
    have hcmp : cmp a b = List.compareLex Chunk.cmp xs ys := by
      rw [cmp_eq_compareLex, ← ha.ofBytes_eq, ← hb.ofBytes_eq]
      rfl
    refine ⟨hcmp, ?_⟩
    rw [hcmp, compareLex_eq_lt_iff]

/-- A zero in front neither makes a number bigger nor goes unnoticed. -/
theorem cmp_eq_cuts_zeros :
    Cuts (Text.bytes "v07z") [.byte 118, .number 7 1, .byte 122] ∧
      Cuts (Text.bytes "v10") [.byte 118, .number 10 0] ∧
      Cuts (Text.bytes "v7") [.byte 118, .number 7 0] ∧
      cmp "v07z" "v10" = .lt ∧ cmp "v07z" "v7" = .gt := by
  have hzero : Cuts (Text.bytes "v07z") [.byte 118, .number 7 1, .byte 122] :=
    cuts_iff.2 (by decide +kernel)
  have hten : Cuts (Text.bytes "v10") [.byte 118, .number 10 0] := cuts_iff.2 (by decide +kernel)
  have hseven : Cuts (Text.bytes "v7") [.byte 118, .number 7 0] := cuts_iff.2 (by decide +kernel)
  refine ⟨hzero, hten, hseven, ?_, ?_⟩
  · rw [(cmp_eq_cuts.2 _ _ _ _ hzero hten).1]
    rfl
  · rw [(cmp_eq_cuts.2 _ _ _ _ hzero hseven).1]
    rfl

end ResourceInspector.NaturalOrder
