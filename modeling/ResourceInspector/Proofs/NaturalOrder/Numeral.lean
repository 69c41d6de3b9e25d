import Mathlib.Algebra.Order.Group.Nat
import Mathlib.Data.List.TakeWhile
import Mathlib.Tactic.Ring
import ResourceInspector.NaturalOrder.Chunk
/-!
# Numerals

A run of digits spells a number in base ten. Past the leading zeros the number can be compared
without being computed: the longer spelling is the bigger number, and spellings of one length
compare digit by digit (`compare_value`).
-/

namespace ResourceInspector.NaturalOrder

/-! ## Digits -/

theorem isDigit_iff {b : UInt8} : isDigit b = true ↔ 48 ≤ b.toNat ∧ b.toNat ≤ 57 := by
  simp [isDigit, UInt8.le_iff_toNat_le]

theorem isZero_iff {b : UInt8} : isZero b = true ↔ b = 48 := by
  simp [isZero]

theorem isDigit_of_isZero {b : UInt8} (h : isZero b = true) : isDigit b = true := by
  rw [isZero_iff.1 h]
  rfl

/-- Digits compare as the numbers they stand for. -/
theorem compare_digit {d e : UInt8} (hd : isDigit d = true) (he : isDigit e = true) :
    compare (d.toNat - 48) (e.toNat - 48) = compare d e := by
  obtain ⟨hd, _⟩ := isDigit_iff.1 hd
  obtain ⟨he, _⟩ := isDigit_iff.1 he
  have hlt : d.toNat - 48 < e.toNat - 48 ↔ d < e := by
    rw [UInt8.lt_iff_toNat_lt]
    omega
  have heq : d.toNat - 48 = e.toNat - 48 ↔ d = e := by
    rw [← UInt8.toNat_inj]
    omega
  change compareOfLessAndEq _ _ = compareOfLessAndEq _ _
  simp only [compareOfLessAndEq, hlt, heq]

/-- Numbers in positional form compare by the leading part first. -/
theorem compare_mul_add {p v w : Nat} (a b : Nat) (hv : v < p) (hw : w < p) :
    compare (a * p + v) (b * p + w) = (compare a b).then (compare v w) := by
  have hlt : ∀ {a b v w : Nat}, v < p → a < b → a * p + v < b * p + w := by
    intro a b v w hv hab
    calc
      a * p + v < (a + 1) * p := by rw [Nat.succ_mul]; omega
      _ ≤ b * p := Nat.mul_le_mul_right p hab
      _ ≤ b * p + w := Nat.le_add_right ..
  rcases lt_trichotomy a b with hab | rfl | hab
  · rw [compare_lt_iff_lt.2 hab, compare_lt_iff_lt.2 (hlt hv hab)]
    rfl
  · rw [compare_eq_iff_eq.2 rfl, Ordering.eq_then]
    rcases lt_trichotomy v w with hvw | rfl | hvw
    · rw [compare_lt_iff_lt.2 hvw, compare_lt_iff_lt]
      omega
    · rw [compare_eq_iff_eq.2 rfl, compare_eq_iff_eq.2 rfl]
    · rw [compare_gt_iff_gt.2 hvw, compare_gt_iff_gt]
      omega
  · rw [compare_gt_iff_gt.2 hab, compare_gt_iff_gt.2 (hlt hw hab)]
    rfl

/-! ## The number that digits spell -/

namespace Chunk

variable {ds es : List UInt8}

@[simp] theorem value_nil : value [] = 0 := rfl

/-- Digits read behind a number move it up by one place each. -/
theorem foldl_value (n : Nat) (ds : List UInt8) :
    ds.foldl (fun n d => 10 * n + (d.toNat - 48)) n = n * 10 ^ ds.length + value ds := by
  induction ds generalizing n with
  | nil => simp
  | cons d ds ih =>
    rw [value, List.foldl_cons, List.foldl_cons, ih, ih, List.length_cons]
    ring

theorem value_cons (d : UInt8) (ds : List UInt8) :
    value (d :: ds) = (d.toNat - 48) * 10 ^ ds.length + value ds := by
  rw [value, List.foldl_cons, foldl_value, Nat.mul_zero, Nat.zero_add]

/-- The number that two runs of digits spell together. -/
theorem value_append (ds es : List UInt8) :
    value (ds ++ es) = value ds * 10 ^ es.length + value es := by
  rw [value, List.foldl_append, foldl_value]
  rfl

/-- So many digits spell less than that power of ten. -/
theorem value_lt (hds : ∀ d ∈ ds, isDigit d = true) : value ds < 10 ^ ds.length := by
  induction ds with
  | nil => simp
  | cons d ds ih =>
    obtain ⟨hd, hds⟩ := List.forall_mem_cons.1 hds
    obtain ⟨_, hle⟩ := isDigit_iff.1 hd
    calc
      value (d :: ds) < (d.toNat - 48) * 10 ^ ds.length + 10 ^ ds.length := by
        rw [value_cons]
        exact Nat.add_lt_add_left (ih hds) _
      _ = (d.toNat - 48 + 1) * 10 ^ ds.length := (Nat.succ_mul ..).symm
      _ ≤ 10 * 10 ^ ds.length := Nat.mul_le_mul_right _ (by omega)
      _ = 10 ^ (d :: ds).length := by rw [List.length_cons, Nat.pow_succ, Nat.mul_comm]

/-- Leading zeros do not count. -/
theorem value_append_of_isZero (hds : ∀ d ∈ ds, isZero d = true) :
    value (ds ++ es) = value es := by
  induction ds with
  | nil => rfl
  | cons d ds ih =>
    obtain ⟨hd, hds⟩ := List.forall_mem_cons.1 hds
    rw [List.cons_append, value_cons, ih hds, isZero_iff.1 hd]
    simp

/-- Only zeros spell zero. -/
theorem isZero_of_value_eq_zero (hds : ∀ d ∈ ds, isDigit d = true) (h : value ds = 0) :
    ∀ d ∈ ds, isZero d = true := by
  induction ds with
  | nil => simp
  | cons d ds ih =>
    rcases List.forall_mem_cons.1 hds with ⟨hd, hds⟩
    have hle := (isDigit_iff.1 hd).1
    rw [value_cons] at h
    have hrest : value ds = 0 := by omega
    have hlead : (d.toNat - 48) * 10 ^ ds.length = 0 := by omega
    have hdigit : d.toNat - 48 = 0 :=
      (Nat.mul_eq_zero.1 hlead).resolve_right (Nat.pow_pos (by decide)).ne'
    have hzero : d = 48 := by
      rw [← UInt8.toNat_inj]
      show d.toNat = 48
      omega
    exact List.forall_mem_cons.2 ⟨isZero_iff.2 hzero, ih hds hrest⟩

/-- A number with a leading digit other than zero has its full length. -/
theorem pow_le_value {d : UInt8} (hd : isDigit d = true) (hz : isZero d = false)
    (ds : List UInt8) : 10 ^ ds.length ≤ value (d :: ds) := by
  obtain ⟨hle, _⟩ := isDigit_iff.1 hd
  have hne : d.toNat ≠ 48 := by
    intro h
    rw [show d = 48 from UInt8.toNat_inj.1 h] at hz
    cases hz
  calc
    10 ^ ds.length = 1 * 10 ^ ds.length := (Nat.one_mul _).symm
    _ ≤ (d.toNat - 48) * 10 ^ ds.length := Nat.mul_le_mul_right _ (by omega)
    _ ≤ value (d :: ds) := by
      rw [value_cons]
      exact Nat.le_add_right ..

/-! ## Comparing spellings -/

/-- Spellings of one length compare digit by digit. -/
theorem compare_value_of_length_eq (hds : ∀ d ∈ ds, isDigit d = true)
    (hes : ∀ e ∈ es, isDigit e = true) (hlen : ds.length = es.length) :
    compare (value ds) (value es) = List.compareLex compare ds es := by
  induction ds generalizing es with
  | nil =>
    obtain rfl := List.length_eq_zero_iff.1 hlen.symm
    rfl
  | cons d ds ih =>
    cases es with
    | nil => cases hlen
    | cons e es =>
      have hlen : ds.length = es.length := Nat.succ.inj hlen
      obtain ⟨hd, hds⟩ := List.forall_mem_cons.1 hds
      obtain ⟨he, hes⟩ := List.forall_mem_cons.1 hes
      have hw : value es < 10 ^ ds.length := hlen ▸ value_lt hes
      rw [value_cons, value_cons, ← hlen, compare_mul_add _ _ (value_lt hds) hw,
        compare_digit hd he, ih hds hes hlen, List.compareLex_cons_cons]

/-- Digits without a zero in front. -/
def Significant (ds : List UInt8) : Prop :=
  (∀ d ∈ ds, isDigit d = true) ∧ ∀ d ∈ ds.head?, isZero d = false

/-- Of two spellings without leading zeros the longer one is the bigger number. -/
theorem value_lt_of_length_lt (hds : ∀ d ∈ ds, isDigit d = true) (hes : Significant es)
    (hlen : ds.length < es.length) : value ds < value es := by
  obtain ⟨hdigits, hhead⟩ := hes
  cases es with
  | nil => cases hlen
  | cons e es =>
    calc
      value ds < 10 ^ ds.length := value_lt hds
      _ ≤ 10 ^ es.length := Nat.pow_le_pow_right (by decide) (Nat.le_of_lt_succ hlen)
      _ ≤ value (e :: es) := pow_le_value (hdigits e List.mem_cons_self) (hhead e rfl) es

/-- Without leading zeros numbers compare by the lengths of their spellings and then digit by
digit. -/
theorem compare_value (hds : Significant ds) (hes : Significant es) :
    compare (value ds) (value es) =
      (compare ds.length es.length).then (List.compareLex compare ds es) := by
  rcases lt_trichotomy ds.length es.length with hlt | heq | hgt
  · rw [compare_lt_iff_lt.2 hlt, compare_lt_iff_lt.2 (value_lt_of_length_lt hds.1 hes hlt)]
    rfl
  · rw [compare_eq_iff_eq.2 heq, Ordering.eq_then, compare_value_of_length_eq hds.1 hes.1 heq]
  · rw [compare_gt_iff_gt.2 hgt, compare_gt_iff_gt.2 (value_lt_of_length_lt hes.1 hds hgt)]
    rfl

end Chunk

end ResourceInspector.NaturalOrder
