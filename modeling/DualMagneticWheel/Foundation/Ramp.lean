/-
# DualMagneticWheel.Foundation.Ramp — linear ramps and the two-sided curve of a stick

A ramp climbs linearly from 0 to 1 between two points and is flat outside; between points in the wrong
order it is zero. A stick curve is one ramp upwards and one downwards with a flat part in between. Bounds,
monotonicity, the flat part and strictness on the slopes hold over any linearly ordered field.
-/
import Mathlib.Algebra.Order.Field.Basic
import Mathlib.Order.Interval.Set.Defs
import Mathlib.Tactic.Linarith

namespace DualMagneticWheel.Foundation

variable {K : Type*} [Field K] [LinearOrder K] [IsStrictOrderedRing K]

/-! ## One ramp -/

/-- From 0 at `a` to 1 at `b`. -/
def ramp (a b x : K) : K := if a < b then max 0 (min 1 ((x - a) / (b - a))) else 0

omit [IsStrictOrderedRing K] in
theorem ramp_of_not_lt {a b : K} (h : ¬ a < b) (x : K) : ramp a b x = 0 := if_neg h

omit [IsStrictOrderedRing K] in
theorem ramp_of_lt {a b : K} (h : a < b) (x : K) :
    ramp a b x = max 0 (min 1 ((x - a) / (b - a))) := if_pos h

omit [IsStrictOrderedRing K] in
theorem ramp_nonneg (a b x : K) : 0 ≤ ramp a b x := by
  unfold ramp
  split
  · exact le_max_left _ _
  · exact le_refl 0

theorem ramp_le_one (a b x : K) : ramp a b x ≤ 1 := by
  unfold ramp
  split
  · exact max_le zero_le_one (min_le_left _ _)
  · exact zero_le_one

theorem ramp_monotone (a b : K) : Monotone (ramp a b) := by
  intro x y hxy
  by_cases h : a < b
  · rw [ramp_of_lt h, ramp_of_lt h]
    have hpos : 0 < b - a := sub_pos.mpr h
    have hquot : (x - a) / (b - a) ≤ (y - a) / (b - a) :=
      (div_le_div_iff_of_pos_right hpos).mpr (sub_le_sub_right hxy a)
    exact max_le_max le_rfl (min_le_min le_rfl hquot)
  · rw [ramp_of_not_lt h, ramp_of_not_lt h]

/-- Flat below. -/
theorem ramp_of_le {a b x : K} (h : x ≤ a) : ramp a b x = 0 := by
  by_cases hab : a < b
  · rw [ramp_of_lt hab]
    have hquot : (x - a) / (b - a) ≤ 0 :=
      div_nonpos_of_nonpos_of_nonneg (sub_nonpos.mpr h) (sub_pos.mpr hab).le
    exact max_eq_left ((min_le_right _ _).trans hquot)
  · exact ramp_of_not_lt hab x

/-- Flat above. -/
theorem ramp_of_ge {a b x : K} (hab : a < b) (h : b ≤ x) : ramp a b x = 1 := by
  rw [ramp_of_lt hab]
  have hquot : 1 ≤ (x - a) / (b - a) :=
    (one_le_div (sub_pos.mpr hab)).mpr (sub_le_sub_right h a)
  rw [min_eq_left hquot]
  exact max_eq_right zero_le_one

/-- Linear in between. -/
theorem ramp_of_mem {a b x : K} (hab : a < b) (h : x ∈ Set.Icc a b) :
    ramp a b x = (x - a) / (b - a) := by
  have hpos : 0 < b - a := sub_pos.mpr hab
  rw [ramp_of_lt hab, min_eq_right ((div_le_one hpos).mpr (sub_le_sub_right h.2 a))]
  exact max_eq_right (div_nonneg (sub_nonneg.mpr h.1) hpos.le)

theorem ramp_strictMonoOn {a b : K} (hab : a < b) : StrictMonoOn (ramp a b) (Set.Icc a b) := by
  intro x hx y hy hxy
  rw [ramp_of_mem hab hx, ramp_of_mem hab hy]
  exact (div_lt_div_iff_of_pos_right (sub_pos.mpr hab)).mpr (sub_lt_sub_right hxy a)

/-! ## The curve of a stick -/

/-- Down to `-1` at `low`, flat between `lower` and `upper`, up to 1 at `high`. -/
def stickCurve (low lower upper high x : K) : K := ramp upper high x - ramp (-lower) (-low) (-x)

theorem stickCurve_bounds (low lower upper high x : K) :
    -1 ≤ stickCurve low lower upper high x ∧ stickCurve low lower upper high x ≤ 1 := by
  have hup := ramp_nonneg upper high x
  have hup' := ramp_le_one upper high x
  have hdown := ramp_nonneg (-lower) (-low) (-x)
  have hdown' := ramp_le_one (-lower) (-low) (-x)
  unfold stickCurve
  constructor
  · linarith
  · linarith

theorem stickCurve_monotone (low lower upper high : K) :
    Monotone (stickCurve low lower upper high) := by
  intro x y hxy
  exact sub_le_sub (ramp_monotone upper high hxy) (ramp_monotone _ _ (neg_le_neg hxy))

theorem stickCurve_flat {low lower upper high x : K} (hlower : lower ≤ x) (hupper : x ≤ upper) :
    stickCurve low lower upper high x = 0 := by
  rw [stickCurve, ramp_of_le hupper, ramp_of_le (neg_le_neg hlower), sub_zero]

/-- Below the flat part only the downward ramp counts. -/
theorem stickCurve_of_le {low lower upper high x : K} (h : x ≤ upper) :
    stickCurve low lower upper high x = -ramp (-lower) (-low) (-x) := by
  rw [stickCurve, ramp_of_le h, zero_sub]

/-- Above it only the upward one. -/
theorem stickCurve_of_ge {low lower upper high x : K} (h : lower ≤ x) :
    stickCurve low lower upper high x = ramp upper high x := by
  rw [stickCurve, ramp_of_le (neg_le_neg h), sub_zero]

theorem stickCurve_low {low lower upper high x : K} (hlow : low < lower) (hflat : lower ≤ upper)
    (h : x ≤ low) : stickCurve low lower upper high x = -1 := by
  rw [stickCurve_of_le (h.trans (hlow.le.trans hflat)),
    ramp_of_ge (neg_lt_neg hlow) (neg_le_neg h)]

theorem stickCurve_high {low lower upper high x : K} (hhigh : upper < high) (hflat : lower ≤ upper)
    (h : high ≤ x) : stickCurve low lower upper high x = 1 := by
  rw [stickCurve_of_ge (hflat.trans (hhigh.le.trans h)), ramp_of_ge hhigh h]

theorem stickCurve_strict_low {low lower upper high : K} (hlow : low < lower)
    (hflat : lower ≤ upper) :
    StrictMonoOn (stickCurve low lower upper high) (Set.Icc low lower) := by
  intro x hx y hy hxy
  rw [stickCurve_of_le (hx.2.trans hflat), stickCurve_of_le (hy.2.trans hflat)]
  apply neg_lt_neg
  exact ramp_strictMonoOn (neg_lt_neg hlow) ⟨neg_le_neg hy.2, neg_le_neg hy.1⟩
    ⟨neg_le_neg hx.2, neg_le_neg hx.1⟩ (neg_lt_neg hxy)

theorem stickCurve_strict_high {low lower upper high : K} (hhigh : upper < high)
    (hflat : lower ≤ upper) :
    StrictMonoOn (stickCurve low lower upper high) (Set.Icc upper high) := by
  intro x hx y hy hxy
  rw [stickCurve_of_ge (hflat.trans hx.1), stickCurve_of_ge (hflat.trans hy.1)]
  exact ramp_strictMonoOn hhigh hx hy hxy

end DualMagneticWheel.Foundation
