/-
# DualMagneticWheel.Foundation.Scalar — one arithmetic signature for machine floats and exact numbers

Control code is written once against `Scalar` and read twice: over `Float32`, which is what the
compiler runs, and over `ℚ`, which is the exact arithmetic that range and monotonicity laws are
stated in. The only branchings such code makes are IEEE comparisons and the finiteness test, so
those two, with the conversion of an integer, are the whole interface beside the number type's own
arithmetic.

The second half collects the facts about `Float32` itself: comparison of numbers that are not NaN is
total, zero absorbs multiplication by a finite number, and saturation to a unit interval yields a
finite number of that interval.
-/
import Mathlib

namespace DualMagneticWheel.Foundation

/-! ## The signature -/

/-- What straight-line control code asks of its numbers beside their arithmetic. `lt` is the machine
comparison, false as soon as one side is not a number. -/
class Scalar (K : Type) where
  ofNat : Nat → K
  lt : K → K → Bool
  isFinite : K → Bool

instance : Scalar Float32 where
  ofNat n := Float32.ofNat n
  lt a b := a.lt b
  isFinite a := a.isFinite

instance : Scalar ℚ where
  ofNat n := (n : ℚ)
  lt a b := decide (a < b)
  isFinite _ := true

/-- Saturation `v < lo ? lo : (v > hi ? hi : v)`. A NaN passes through, as it does in C++. -/
def saturate {K : Type} [Scalar K] (lo hi v : K) : K :=
  if Scalar.lt v lo then lo else if Scalar.lt hi v then hi else v

theorem saturate_cases {K : Type} [Scalar K] (lo hi v : K) :
    saturate lo hi v = lo ∨ saturate lo hi v = hi ∨
      (Scalar.lt v lo = false ∧ Scalar.lt hi v = false ∧ saturate lo hi v = v) := by
  unfold saturate
  split
  · exact Or.inl rfl
  · split
    · exact Or.inr (Or.inl rfl)
    · exact Or.inr (Or.inr ⟨by simp_all, by simp_all, rfl⟩)

/-- On exact numbers it is the clamp to an interval. -/
theorem saturate_eq {lo hi : ℚ} (h : lo ≤ hi) (v : ℚ) : saturate lo hi v = max lo (min hi v) := by
  unfold saturate
  simp only [Scalar.lt, decide_eq_true_eq]
  split
  · rename_i hlow
    rw [max_eq_left]
    exact (min_le_right _ _).trans hlow.le
  · rename_i hlow
    split
    · rename_i hhigh
      rw [min_eq_left hhigh.le, max_eq_right h]
    · rename_i hhigh
      rw [min_eq_right (not_lt.mp hhigh), max_eq_right (not_lt.mp hlow)]

/-! ## Comparison of machine floats -/

open Float.Model (UnpackedFloat Format)

/-- Exchanging the operands mirrors the verdict. -/
theorem compare_swap (a b : UnpackedFloat) :
    a.compare b = (b.compare a).map Ordering.swap := by
  rcases a with s | _ | s | ⟨s, m, e, hm⟩ <;> rcases b with t | _ | t | ⟨t, n, f, hn⟩ <;>
    first
    | rfl
    | (cases s <;> rfl)
    | (cases t <;> rfl)
    | (cases s <;> cases t <;> rfl)
    | (have hexp : compare e f = (compare f e).swap := Std.OrientedCmp.eq_swap
       have hman : compare m n = (compare n m).swap := Std.OrientedCmp.eq_swap
       cases s <;> cases t <;> simp [UnpackedFloat.compare, Ordering.swap_then, hexp, hman])

/-- Only NaN is incomparable. -/
theorem compare_isSome {a b : UnpackedFloat} (ha : a.isNaN = false) (hb : b.isNaN = false) :
    (a.compare b).isSome := by
  rcases a with s | _ | s | ⟨s, m, e, hm⟩ <;> rcases b with t | _ | t | ⟨t, n, f, hn⟩ <;>
    first
    | (simp [UnpackedFloat.isNaN] at ha; done)
    | (simp [UnpackedFloat.isNaN] at hb; done)
    | rfl
    | (cases s <;> rfl)
    | (cases t <;> rfl)
    | (cases s <;> cases t <;> rfl)

/-- A float that is finite is a number. -/
theorem isNaN_of_isFinite {a : UnpackedFloat} (ha : a.isFinite = true) : a.isNaN = false := by
  cases a <;> first | rfl | (simp [UnpackedFloat.isFinite] at ha)

theorem lt_iff_compare (a b : Float32) :
    a.lt b = true ↔ a.toModel.unpack.compare b.toModel.unpack = some .lt := by
  change decide (a.toModel.unpack.lt b.toModel.unpack = true) = true ↔ _
  simp [UnpackedFloat.lt]

theorem le_iff_compare (a b : Float32) :
    a.le b = true ↔ a.toModel.unpack.compare b.toModel.unpack = some .lt ∨
      a.toModel.unpack.compare b.toModel.unpack = some .eq := by
  change decide (a.toModel.unpack.le b.toModel.unpack = true) = true ↔ _
  rw [decide_eq_true_iff, UnpackedFloat.le]
  cases a.toModel.unpack.compare b.toModel.unpack with
  | none => simp
  | some o => cases o <;> simp [Ordering.isLE]

/-- Totality: between finite floats, the failure of `a < b` is `b ≤ a`. -/
theorem le_of_not_lt {a b : Float32} (ha : a.isFinite = true) (hb : b.isFinite = true)
    (h : a.lt b = false) : b.le a = true := by
  obtain ⟨o, ho⟩ := Option.isSome_iff_exists.mp
    (compare_isSome (isNaN_of_isFinite hb) (isNaN_of_isFinite ha))
  have hnot : a.toModel.unpack.compare b.toModel.unpack ≠ some .lt := fun hlt => by
    rw [(lt_iff_compare a b).mpr hlt] at h
    cases h
  rw [compare_swap, ho] at hnot
  rw [le_iff_compare, ho]
  cases o <;> simp_all

/-! ## Zeros -/

/-- Either signed zero: exactly the floats that compare equal to `0.0f`. -/
def IsZero (v : Float32) : Prop := ∃ s, v.toModel.unpack = .zero s

theorem isZero_zero : IsZero 0 := ⟨.positive, rfl⟩

theorem isZero_iff_beq (v : Float32) : IsZero v ↔ (v == 0) = true := by
  change _ ↔ v.toModel.unpack.beq (.zero .positive) = true
  rcases hv : v.toModel.unpack with s | _ | s | ⟨s, m, e, hm⟩
  · cases s <;> simp [IsZero, hv, UnpackedFloat.beq, UnpackedFloat.compare]
  · simp [IsZero, hv, UnpackedFloat.beq, UnpackedFloat.compare]
  · simp [IsZero, hv, UnpackedFloat.beq, UnpackedFloat.compare]
  · cases s <;> simp [IsZero, hv, UnpackedFloat.beq, UnpackedFloat.compare]

/-- Packing a signed zero into binary32 and reading it back is the identity. -/
theorem unpack_pack_zero (s : UnpackedFloat.Sign) :
    (Float32.Model.pack (.zero s)).unpack = .zero s := by
  cases s <;> rfl

theorem isZero_mul_left {a b : Float32} (ha : IsZero a) (hb : b.isFinite = true) :
    IsZero (a * b) := by
  obtain ⟨s, hs⟩ := ha
  have hfin : b.toModel.unpack.isFinite = true := hb
  change ∃ t, (Float32.Model.pack (UnpackedFloat.mul Format.binary32 a.toModel.unpack
    b.toModel.unpack)).unpack = .zero t
  rw [hs]
  rcases hb' : b.toModel.unpack with t | _ | t | ⟨t, m, e, hm⟩
  · simp [hb', UnpackedFloat.isFinite] at hfin
  · simp [hb', UnpackedFloat.isFinite] at hfin
  · exact ⟨s * t, unpack_pack_zero _⟩
  · exact ⟨s * t, unpack_pack_zero _⟩

theorem isZero_mul_right {a b : Float32} (ha : a.isFinite = true) (hb : IsZero b) :
    IsZero (a * b) := by
  obtain ⟨t, ht⟩ := hb
  have hfin : a.toModel.unpack.isFinite = true := ha
  change ∃ u, (Float32.Model.pack (UnpackedFloat.mul Format.binary32 a.toModel.unpack
    b.toModel.unpack)).unpack = .zero u
  rw [ht]
  rcases ha' : a.toModel.unpack with s | _ | s | ⟨s, m, e, hm⟩
  · simp [ha', UnpackedFloat.isFinite] at hfin
  · simp [ha', UnpackedFloat.isFinite] at hfin
  · exact ⟨s * t, unpack_pack_zero _⟩
  · exact ⟨s * t, unpack_pack_zero _⟩

theorem isZero_add {a b : Float32} (ha : IsZero a) (hb : IsZero b) : IsZero (a + b) := by
  obtain ⟨s, hs⟩ := ha
  obtain ⟨t, ht⟩ := hb
  change ∃ u, (Float32.Model.pack (UnpackedFloat.add Format.binary32 a.toModel.unpack
    b.toModel.unpack)).unpack = .zero u
  rw [hs, ht]
  cases s <;> cases t <;> exact ⟨_, unpack_pack_zero _⟩

/-! ## Saturation to the unit interval -/

theorem saturate_unit_isZero {v : Float32} (hv : IsZero v) : IsZero (saturate (-1) 1 v) := by
  obtain ⟨s, hs⟩ := hv
  have hlo : v.lt (-1) = false := by
    rw [Bool.eq_false_iff, Ne, lt_iff_compare, hs]
    cases s <;> decide
  have hhi : Float32.lt 1 v = false := by
    rw [Bool.eq_false_iff, Ne, lt_iff_compare, hs]
    cases s <;> decide
  simp only [saturate, Scalar.lt, hlo, hhi]
  exact ⟨s, hs⟩

theorem zero_isFinite : (0 : Float32).isFinite = true := by decide
theorem one_isFinite : (1 : Float32).isFinite = true := by decide
theorem neg_one_isFinite : (-1 : Float32).isFinite = true := by decide

/-- A finite float saturates to a finite float between `-1` and `1`. -/
theorem saturate_unit_bounds {v : Float32} (hv : v.isFinite = true) :
    (saturate (-1) 1 v).isFinite = true ∧
      Float32.le (-1) (saturate (-1) 1 v) = true ∧ Float32.le (saturate (-1) 1 v) 1 = true := by
  rcases saturate_cases (-1) 1 v with h | h | ⟨hlo, hhi, h⟩
  · rw [h]
    exact ⟨neg_one_isFinite, by decide, by decide⟩
  · rw [h]
    exact ⟨one_isFinite, by decide, by decide⟩
  · rw [h]
    exact ⟨hv, le_of_not_lt hv neg_one_isFinite hlo, le_of_not_lt one_isFinite hv hhi⟩

end DualMagneticWheel.Foundation
