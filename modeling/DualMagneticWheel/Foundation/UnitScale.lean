/-
# DualMagneticWheel.Foundation.UnitScale — clamping to the unit interval and scaling it onto a range

A normalised command is clamped to `[-1, 1]` and scaled linearly onto the range of an actuator. Neither
step leaves the range, reverses an order or moves an end, and negating the command mirrors the range.
A measurement comes back the other way, as a number of equal steps from one end of a range (`quantised`).
All of it holds over any linearly ordered field.
-/
import Mathlib.Analysis.Convex.Segment
import Mathlib.LinearAlgebra.AffineSpace.Ordered
import Mathlib.Tactic.Linarith

namespace DualMagneticWheel.Foundation

variable {K : Type*} [Field K] [LinearOrder K] [IsStrictOrderedRing K]

/-- A convex combination stays between the ends. -/
theorem lineMap_mem_Icc {lo hi t : K} (h : lo ≤ hi) (ht : t ∈ Set.Icc 0 1) :
    AffineMap.lineMap lo hi t ∈ Set.Icc lo hi := by
  rw [← segment_eq_Icc h]
  exact lineMap_mem_segment K lo hi ht

/-! ## Clamping -/

/-- The nearest number of `[-1, 1]`. -/
def clampUnit (v : K) : K := max (-1) (min 1 v)

theorem clampUnit_mem (v : K) : clampUnit v ∈ Set.Icc (-1 : K) 1 := by
  have hends : (-1 : K) ≤ 1 := by linarith [zero_lt_one (α := K)]
  exact ⟨le_max_left _ _, max_le hends (min_le_left _ _)⟩

omit [IsStrictOrderedRing K] in
theorem clampUnit_of_mem {v : K} (h : v ∈ Set.Icc (-1 : K) 1) : clampUnit v = v := by
  rw [clampUnit, min_eq_right h.2, max_eq_right h.1]

omit [IsStrictOrderedRing K] in
theorem clampUnit_monotone : Monotone (clampUnit : K → K) := by
  intro v w hvw
  exact max_le_max le_rfl (min_le_min le_rfl hvw)

theorem clampUnit_neg (v : K) : clampUnit (-v) = -clampUnit v := by
  have hends : (-1 : K) ≤ 1 := by linarith [zero_lt_one (α := K)]
  rw [clampUnit, clampUnit, ← min_neg_neg, ← max_neg_neg, neg_neg]
  -- the two bounds change places
  rw [max_min_distrib_left, max_eq_right hends]

/-! ## Scaling -/

/-- From `lo` at -1 to `hi` at 1. -/
def unitScale (lo hi u : K) : K := AffineMap.lineMap lo hi ((u + 1) / 2)

omit [LinearOrder K] [IsStrictOrderedRing K] in
theorem unitScale_neg_one (lo hi : K) : unitScale lo hi (-1) = lo := by
  rw [unitScale, neg_add_cancel, zero_div, AffineMap.lineMap_apply_zero]

theorem unitScale_one (lo hi : K) : unitScale lo hi 1 = hi := by
  rw [unitScale, one_add_one_eq_two, div_self two_ne_zero, AffineMap.lineMap_apply_one]

theorem unitScale_neg (lo hi u : K) : unitScale lo hi (-u) = unitScale hi lo u := by
  have hmirror : (-u + 1) / 2 = 1 - (u + 1) / 2 := by ring
  rw [unitScale, hmirror, AffineMap.lineMap_apply_one_sub, unitScale]

theorem unitScale_mem {lo hi u : K} (h : lo ≤ hi) (hu : u ∈ Set.Icc (-1 : K) 1) :
    unitScale lo hi u ∈ Set.Icc lo hi := by
  apply lineMap_mem_Icc h
  obtain ⟨hlow, hhigh⟩ := hu
  constructor
  · linarith
  · linarith

theorem unitScale_strictMono {lo hi : K} (h : lo < hi) : StrictMono (unitScale lo hi) := by
  intro u v huv
  apply (lineMap_lt_lineMap_iff_of_lt' h).mpr
  linarith

/-- A range around zero is a multiple of the unit interval. -/
theorem unitScale_symm (bound u : K) : unitScale (-bound) bound u = u * bound := by
  rw [unitScale, AffineMap.lineMap_apply_ring']
  ring

/-! ## Quantised values -/

/-- The `k`-th of the `n` equal steps from `lo` to `hi`. -/
def quantised (lo hi : K) (n k : Nat) : K := AffineMap.lineMap lo hi ((k : K) / n)

theorem quantised_mem {lo hi : K} (h : lo ≤ hi) {n k : Nat} (hk : k ≤ n) :
    quantised lo hi n k ∈ Set.Icc lo hi := by
  apply lineMap_mem_Icc h
  exact ⟨by positivity, div_le_one_of_le₀ (Nat.cast_le.mpr hk) (Nat.cast_nonneg n)⟩

theorem quantised_strictMono {lo hi : K} (h : lo < hi) {n : Nat} (hn : 0 < n) :
    StrictMono (quantised lo hi n) := by
  intro j k hjk
  apply (lineMap_lt_lineMap_iff_of_lt' h).mpr
  exact div_lt_div_of_pos_right (Nat.cast_lt.mpr hjk) (Nat.cast_pos.mpr hn)

omit [LinearOrder K] [IsStrictOrderedRing K] in
theorem quantised_zero (lo hi : K) (n : Nat) : quantised lo hi n 0 = lo := by
  rw [quantised, Nat.cast_zero, zero_div, AffineMap.lineMap_apply_zero]

theorem quantised_self (lo hi : K) {n : Nat} (hn : 0 < n) : quantised lo hi n n = hi := by
  rw [quantised, div_self (Nat.cast_pos.mpr hn).ne', AffineMap.lineMap_apply_one]

end DualMagneticWheel.Foundation
