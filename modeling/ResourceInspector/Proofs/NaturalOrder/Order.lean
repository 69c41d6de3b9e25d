import Mathlib.Order.Defs.Unbundled
import ResourceInspector.Proofs.NaturalOrder.Chunks
/-!
# The laws of natural order

Natural order is a total order on texts. Its laws are those of the lexicographic order of chunks,
read at the chunks of the texts.
-/

namespace ResourceInspector.NaturalOrder

/-- To compare in the other direction gives the opposite answer. -/
theorem cmp_swap (a b : String) : cmp b a = (cmp a b).swap := by
  rw [cmp_eq_compareLex, cmp_eq_compareLex]
  exact Std.OrientedCmp.eq_swap

/-- Only a text and itself are equal: leading zeros tell apart texts that spell the same numbers. -/
theorem cmp_eq_iff {a b : String} : cmp a b = .eq ↔ a = b := by
  rw [cmp_eq_compareLex]
  constructor
  · intro h
    exact Chunk.ofString_injective (Std.LawfulEqCmp.eq_of_compare h)
  · rintro rfl
    exact Std.ReflCmp.compare_self

/-- The chunks decide, and their lexicographic order is transitive. -/
theorem cmp_lt_trans {a b c : String} (hab : cmp a b = .lt) (hbc : cmp b c = .lt) :
    cmp a c = .lt := by
  rw [cmp_eq_compareLex] at *
  exact Std.TransCmp.lt_trans hab hbc

theorem less_iff {a b : String} : less a b = true ↔ cmp a b = .lt := by
  simp [less]

/-! ## Not coming after -/

theorem le_eq_isLE (a b : String) : le a b = (cmp a b).isLE := by
  unfold le
  cases cmp a b <;> rfl

/-- One text does not come after another just when the other does not come before it. -/
theorem le_iff_less_eq_false {a b : String} : le a b = true ↔ less b a = false := by
  unfold le less
  rw [cmp_swap a b]
  cases cmp a b <;> decide

theorem le_trans {a b c : String} (hab : le a b = true) (hbc : le b c = true) :
    le a c = true := by
  simp only [le_eq_isLE, cmp_eq_compareLex] at *
  exact Std.TransCmp.isLE_trans hab hbc

theorem le_total (a b : String) : (le a b || le b a) = true := by
  unfold le
  rw [cmp_swap a b]
  cases cmp a b <;> rfl

/-- Two texts neither of which comes after the other are the same. -/
theorem le_antisymm {a b : String} (hab : le a b = true) (hba : le b a = true) : a = b := by
  unfold le at hab hba
  rw [cmp_swap a b] at hba
  -- neither comes after the other
  apply cmp_eq_iff.1
  cases hcmp : cmp a b with
  | lt => rw [hcmp] at hba; cases hba
  | eq => rfl
  | gt => rw [hcmp] at hab; cases hab

/-! ## The order as a whole -/

/-- Natural order is a total order on texts: comparing the other way round gives the reverse, only
a text itself compares equal to it, and coming before is transitive. So coming strictly before is a
strict total order. -/
theorem cmp_total_order :
    (∀ a b, cmp b a = (cmp a b).swap) ∧
    (∀ a b, cmp a b = .eq ↔ a = b) ∧
    (∀ a b c, cmp a b = .lt → cmp b c = .lt → cmp a c = .lt) ∧
    IsStrictTotalOrder String (fun a b => less a b = true) := by
  refine ⟨cmp_swap, fun a b => cmp_eq_iff, fun a b c => cmp_lt_trans, ?_⟩
  refine { trichotomous := ?_, irrefl := ?_, trans := ?_ }
  · intro a b hab hba
    rw [less_iff] at hab hba
    rw [cmp_swap] at hba
    -- neither comes before the other
    cases hcmp : cmp a b with
    | lt => exact absurd hcmp hab
    | eq => exact cmp_eq_iff.1 hcmp
    | gt => exact absurd (by rw [hcmp]; rfl) hba
  · intro a ha
    rw [less_iff, cmp_eq_iff.2 rfl] at ha
    cases ha
  · intro a b c hab hbc
    rw [less_iff] at *
    exact cmp_lt_trans hab hbc

/-- Two spellings of one number and a bigger number that is spelled shorter. -/
theorem cmp_total_order_zeros :
    cmp "é9" "é09" = .lt ∧ cmp "é09" "é10" = .lt ∧ cmp "é9" "é10" = .lt := by
  have hzeros : cmp "é9" "é09" = .lt := by decide +kernel
  have hvalue : cmp "é09" "é10" = .lt := by decide +kernel
  exact ⟨hzeros, hvalue, cmp_total_order.2.2.1 _ _ _ hzeros hvalue⟩

end ResourceInspector.NaturalOrder
