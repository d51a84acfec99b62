/-
# DualMagneticWheel.Rc.Normalisation — the law of the receiver calibration in exact arithmetic

`normalizeRcChannel` is a cascade of comparisons around two guarded divisions. In exact arithmetic it is
the curve of a stick: `normalizeRcChannel_eq` says so in one equation, and every law of the calibration is
a law of that curve. The deadzone may reach past the ends of the range, as it may for the switch channels,
which are used without `RcConfig::valid`; a ramp that has no room left is flat.
-/
import DualMagneticWheel.Foundation.Ramp
import DualMagneticWheel.Rc.RcConfig

namespace DualMagneticWheel

open Foundation

/-! ## The function as a curve -/

namespace RcChannelCalibration

/-- The lower edge of the dead zone. -/
def lower (c : RcChannelCalibration) : ℚ := (c.trim.toNat : ℚ) - (c.deadzone.toNat : ℚ)

/-- The upper edge. -/
def upper (c : RcChannelCalibration) : ℚ := (c.trim.toNat : ℚ) + (c.deadzone.toNat : ℚ)

theorem lower_le_upper (c : RcChannelCalibration) : c.lower ≤ c.upper := by
  have hdeadzone : (0 : ℚ) ≤ (c.deadzone.toNat : ℚ) := Nat.cast_nonneg _
  unfold lower upper
  linarith

/-- What the channel reads before it is reversed. -/
def curve (c : RcChannelCalibration) (rawValue : UInt16) : ℚ :=
  stickCurve (c.minimum.toNat : ℚ) c.lower c.upper (c.maximum.toNat : ℚ) (rawValue.toNat : ℚ)

end RcChannelCalibration

theorem constrain_eq {low high value : ℚ} (h : low ≤ high) :
    constrain value low high = max low (min high value) :=
  saturate_eq h value

/-- The two divisions under their guards, clamped. -/
theorem constrain_slopes {low lower upper high value : ℚ} (hflat : lower ≤ upper) :
    constrain
        (if (decide (value < lower) && decide (low < lower)) = true then
          -(lower - value) / (lower - low)
        else if (decide (upper < value) && decide (upper < high)) = true then
          (value - upper) / (high - upper)
        else 0) (-1) 1 = stickCurve low lower upper high value := by
  rw [constrain_eq (by norm_num)]
  simp only [Bool.and_eq_true, decide_eq_true_eq]
  split
  · rename_i hslope
    obtain ⟨hvalue, hlow⟩ := hslope
    rw [stickCurve_of_le (hvalue.le.trans hflat), ramp_of_lt (neg_lt_neg hlow)]
    have hquot : (-value - -lower) / (-low - -lower) = (lower - value) / (lower - low) := by
      rw [neg_sub_neg, neg_sub_neg]
    have hpos : 0 ≤ (lower - value) / (lower - low) :=
      div_nonneg (sub_nonneg.mpr hvalue.le) (sub_nonneg.mpr hlow.le)
    rw [hquot, neg_div]
    generalize (lower - value) / (lower - low) = q at hpos ⊢
    have hbelow : -q ≤ 1 := by linarith
    rw [min_eq_right hbelow, max_eq_right (le_min zero_le_one hpos), max_neg_neg]
  · rename_i hdown
    split
    · rename_i hslope
      obtain ⟨hvalue, hhigh⟩ := hslope
      rw [stickCurve_of_ge (hflat.trans hvalue.le), ramp_of_lt hhigh]
      have hpos : 0 ≤ (value - upper) / (high - upper) :=
        div_nonneg (sub_nonneg.mpr hvalue.le) (sub_nonneg.mpr hhigh.le)
      have hclamped : 0 ≤ min 1 ((value - upper) / (high - upper)) := le_min zero_le_one hpos
      rw [max_eq_right hclamped, max_eq_right (le_trans (by norm_num) hclamped)]
    · -- neither slope has room, or the value lies between them
      rename_i hup
      have hupward : ramp upper high value = 0 := by
        by_cases hhigh : upper < high
        · exact ramp_of_le (not_lt.mp fun hvalue => hup ⟨hvalue, hhigh⟩)
        · exact ramp_of_not_lt hhigh value
      have hdownward : ramp (-lower) (-low) (-value) = 0 := by
        by_cases hlow : low < lower
        · exact ramp_of_le (neg_le_neg (not_lt.mp fun hvalue => hdown ⟨hvalue, hlow⟩))
        · exact ramp_of_not_lt (fun h => hlow (neg_lt_neg_iff.mp h)) _
      rw [stickCurve, hupward, hdownward]
      norm_num

/-- The cascade of comparisons is the curve of a stick. -/
theorem normalizeRcChannel_eq (rawValue : UInt16) {c : RcChannelCalibration}
    (hlow : c.minimum < c.trim) (hhigh : c.trim < c.maximum) :
    normalizeRcChannel (K := ℚ) rawValue c =
      if c.reversed then -c.curve rawValue else c.curve rawValue := by
  have hslopes := @constrain_slopes (c.minimum.toNat : ℚ) c.lower c.upper (c.maximum.toNat : ℚ)
    (rawValue.toNat : ℚ) c.lower_le_upper
  unfold normalizeRcChannel
  rw [if_neg (not_not.mpr ⟨hlow, hhigh⟩)]
  simp only [Scalar.ofNat, Scalar.lt, Scalar.isFinite, if_true, Nat.cast_zero, Nat.cast_one]
  show (if c.reversed = true then -constrain _ _ _ else constrain _ _ _) = _
  unfold RcChannelCalibration.curve
  rw [← hslopes]
  rfl

/-! ## Divisions that can fail -/

/-- A division that fails on zero. -/
def div? (a b : ℚ) : Option ℚ := if b = 0 then none else some (a / b)

/-- `normalizeRcChannel` with such divisions. -/
def normalizeRcChannel? (rawValue : UInt16) (c : RcChannelCalibration) : Option ℚ :=
  if ¬ (c.minimum < c.trim ∧ c.trim < c.maximum) then some 0
  else
    let value : ℚ := (rawValue.toNat : ℚ)
    let minimum : ℚ := (c.minimum.toNat : ℚ)
    let maximum : ℚ := (c.maximum.toNat : ℚ)
    let normalized :=
      if value < c.lower ∧ minimum < c.lower then div? (-(c.lower - value)) (c.lower - minimum)
      else if c.upper < value ∧ c.upper < maximum then div? (value - c.upper) (maximum - c.upper)
      else some 0
    normalized.map fun normalized =>
      let normalized := constrain normalized (-1) 1
      if c.reversed then -normalized else normalized

/-- The guards keep zero away from both divisions. -/
theorem normalizeRcChannel?_eq (rawValue : UInt16) (c : RcChannelCalibration) :
    normalizeRcChannel? rawValue c = some (normalizeRcChannel rawValue c) := by
  by_cases hordered : c.minimum < c.trim ∧ c.trim < c.maximum
  · rw [normalizeRcChannel_eq rawValue hordered.1 hordered.2, RcChannelCalibration.curve,
      ← constrain_slopes c.lower_le_upper, normalizeRcChannel?, if_neg (not_not.mpr hordered)]
    have hguarded : ∀ {a b : ℚ}, 0 < b → div? a b = some (a / b) :=
      fun hpos => if_neg hpos.ne'
    simp only [Bool.and_eq_true, decide_eq_true_eq]
    by_cases hdown : (rawValue.toNat : ℚ) < c.lower ∧ (c.minimum.toNat : ℚ) < c.lower
    · rw [if_pos hdown, if_pos hdown, hguarded (sub_pos.mpr hdown.2), Option.map_some]
    · rw [if_neg hdown, if_neg hdown]
      by_cases hup : c.upper < (rawValue.toNat : ℚ) ∧ c.upper < (c.maximum.toNat : ℚ)
      · rw [if_pos hup, if_pos hup, hguarded (sub_pos.mpr hup.2), Option.map_some]
      · rw [if_neg hup, if_neg hup, Option.map_some]
  · rw [normalizeRcChannel?, normalizeRcChannel, if_pos hordered, if_pos hordered]
    simp only [Scalar.ofNat, Nat.cast_zero]

/-! ## The law -/

/-- What holds of every ordered calibration, whatever its dead zone and direction. -/
structure NormalisationLaw (c : RcChannelCalibration) : Prop where
  total : ∀ raw, normalizeRcChannel? raw c = some (normalizeRcChannel raw c)
  bounded : ∀ raw, -1 ≤ (normalizeRcChannel raw c : ℚ) ∧ (normalizeRcChannel raw c : ℚ) ≤ 1
  rising : c.reversed = false → ∀ raw raw', raw ≤ raw' →
    (normalizeRcChannel raw c : ℚ) ≤ normalizeRcChannel raw' c
  falling : c.reversed = true → ∀ raw raw', raw ≤ raw' →
    (normalizeRcChannel raw' c : ℚ) ≤ normalizeRcChannel raw c
  dead : ∀ raw, (c.trim.toNat : Int) - c.deadzone.toNat ≤ raw.toNat →
    (raw.toNat : Int) ≤ c.trim.toNat + c.deadzone.toNat → (normalizeRcChannel raw c : ℚ) = 0
  mirrored : ∀ raw, (normalizeRcChannel raw { c with reversed := true } : ℚ) =
    -normalizeRcChannel raw { c with reversed := false }

/-- What holds beside that when the dead zone leaves room on both sides; the reversed channel is the
mirror image. -/
structure EndpointLaw (c : RcChannelCalibration) : Prop where
  low : ∀ raw, raw ≤ c.minimum → (normalizeRcChannel raw { c with reversed := false } : ℚ) = -1
  high : ∀ raw, c.maximum ≤ raw → (normalizeRcChannel raw { c with reversed := false } : ℚ) = 1
  strictLow : ∀ raw raw', c.minimum ≤ raw → raw < raw' →
    (raw'.toNat : Int) ≤ c.trim.toNat - c.deadzone.toNat →
    (normalizeRcChannel raw { c with reversed := false } : ℚ) <
      normalizeRcChannel raw' { c with reversed := false }
  strictHigh : ∀ raw raw', (c.trim.toNat : Int) + c.deadzone.toNat ≤ raw.toNat → raw < raw' →
    raw' ≤ c.maximum →
    (normalizeRcChannel raw { c with reversed := false } : ℚ) <
      normalizeRcChannel raw' { c with reversed := false }

theorem toNat_cast_le {a b : UInt16} (h : a ≤ b) : (a.toNat : ℚ) ≤ (b.toNat : ℚ) :=
  Nat.cast_le.mpr (UInt16.le_iff_toNat_le.mp h)

theorem toNat_cast_lt {a b : UInt16} (h : a < b) : (a.toNat : ℚ) < (b.toNat : ℚ) :=
  Nat.cast_lt.mpr (UInt16.lt_iff_toNat_lt.mp h)

namespace RcChannelCalibration

/-- The edges are whole numbers, so what the code compares is what holds of them. -/
theorem lower_eq (c : RcChannelCalibration) :
    c.lower = (((c.trim.toNat : Int) - c.deadzone.toNat : Int) : ℚ) := by
  push_cast
  rfl

theorem upper_eq (c : RcChannelCalibration) :
    c.upper = (((c.trim.toNat : Int) + c.deadzone.toNat : Int) : ℚ) := by
  push_cast
  rfl

theorem le_lower {c : RcChannelCalibration} {n : Nat}
    (h : (n : Int) ≤ c.trim.toNat - c.deadzone.toNat) : (n : ℚ) ≤ c.lower := by
  rw [lower_eq]
  exact_mod_cast h

theorem lower_le {c : RcChannelCalibration} {n : Nat}
    (h : (c.trim.toNat : Int) - c.deadzone.toNat ≤ n) : c.lower ≤ (n : ℚ) := by
  rw [lower_eq]
  exact_mod_cast h

theorem le_upper {c : RcChannelCalibration} {n : Nat}
    (h : (n : Int) ≤ c.trim.toNat + c.deadzone.toNat) : (n : ℚ) ≤ c.upper := by
  rw [upper_eq]
  exact_mod_cast h

theorem upper_le {c : RcChannelCalibration} {n : Nat}
    (h : (c.trim.toNat : Int) + c.deadzone.toNat ≤ n) : c.upper ≤ (n : ℚ) := by
  rw [upper_eq]
  exact_mod_cast h

end RcChannelCalibration

theorem normalisationLaw {c : RcChannelCalibration} (hlow : c.minimum < c.trim)
    (hhigh : c.trim < c.maximum) : NormalisationLaw c := by
  have hcurve : ∀ raw, (normalizeRcChannel raw c : ℚ) =
      if c.reversed then -c.curve raw else c.curve raw :=
    fun raw => normalizeRcChannel_eq raw hlow hhigh
  have hmonotone : ∀ raw raw', raw ≤ raw' → c.curve raw ≤ c.curve raw' :=
    fun raw raw' hle => stickCurve_monotone _ _ _ _ (toNat_cast_le hle)
  refine ⟨fun raw => normalizeRcChannel?_eq raw c, fun raw => ?_, fun hforward raw raw' hle => ?_,
    fun hreversed raw raw' hle => ?_, fun raw hlower hupper => ?_, fun raw => ?_⟩
  · have hbounds := stickCurve_bounds (c.minimum.toNat : ℚ) c.lower c.upper (c.maximum.toNat : ℚ)
      (raw.toNat : ℚ)
    rw [hcurve]
    unfold RcChannelCalibration.curve
    split
    · constructor
      · linarith
      · linarith
    · exact hbounds
  · rw [hcurve, hcurve, hforward]
    exact hmonotone raw raw' hle
  · rw [hcurve, hcurve, hreversed]
    exact neg_le_neg (hmonotone raw raw' hle)
  · have hflat : c.curve raw = 0 :=
      stickCurve_flat (RcChannelCalibration.lower_le hlower) (RcChannelCalibration.le_upper hupper)
    rw [hcurve, hflat]
    split
    · exact neg_zero
    · rfl
  · have hreversed := normalizeRcChannel_eq raw (c := { c with reversed := true }) hlow hhigh
    have hforward := normalizeRcChannel_eq raw (c := { c with reversed := false }) hlow hhigh
    rw [hreversed, hforward]
    rfl

theorem endpointLaw {c : RcChannelCalibration} (hlow : c.minimum < c.trim)
    (hhigh : c.trim < c.maximum)
    (hdown : (c.deadzone.toNat : Int) < c.trim.toNat - c.minimum.toNat)
    (hup : (c.deadzone.toNat : Int) < c.maximum.toNat - c.trim.toNat) : EndpointLaw c := by
  have hcurve : ∀ raw, (normalizeRcChannel raw { c with reversed := false } : ℚ) = c.curve raw :=
    fun raw => normalizeRcChannel_eq raw (c := { c with reversed := false }) hlow hhigh
  have hflat := c.lower_le_upper
  have hroom : (c.minimum.toNat : ℚ) < c.lower := by
    have hedge : (c.minimum.toNat : Int) < c.trim.toNat - c.deadzone.toNat := by omega
    rw [RcChannelCalibration.lower_eq]
    exact_mod_cast hedge
  have hroom' : c.upper < (c.maximum.toNat : ℚ) := by
    have hedge : (c.trim.toNat : Int) + c.deadzone.toNat < c.maximum.toNat := by omega
    rw [RcChannelCalibration.upper_eq]
    exact_mod_cast hedge
  refine ⟨fun raw hle => ?_, fun raw hge => ?_, fun raw raw' hmin hlt hedge => ?_,
    fun raw raw' hedge hlt hmax => ?_⟩
  · rw [hcurve]
    exact stickCurve_low hroom hflat (toNat_cast_le hle)
  · rw [hcurve]
    exact stickCurve_high hroom' hflat (toNat_cast_le hge)
  · have hlt' := toNat_cast_lt hlt
    have hmin' := toNat_cast_le hmin
    have hedge' := RcChannelCalibration.le_lower hedge
    rw [hcurve, hcurve]
    exact stickCurve_strict_low hroom hflat ⟨hmin', hlt'.le.trans hedge'⟩
      ⟨hmin'.trans hlt'.le, hedge'⟩ hlt'
  · have hlt' := toNat_cast_lt hlt
    have hmax' := toNat_cast_le hmax
    have hedge' := RcChannelCalibration.upper_le hedge
    rw [hcurve, hcurve]
    exact stickCurve_strict_high hroom' hflat ⟨hedge', hlt'.le.trans hmax'⟩
      ⟨hedge'.trans hlt'.le, hmax'⟩ hlt'

/-- The law of the calibration: for every ordered calibration the reading is defined, bounded, monotone,
zero in the dead zone and mirrored by the direction; where the dead zone leaves room on both sides, as
`RcConfig::valid` demands, the ends are reached exactly and both slopes are strict. -/
theorem normalisation_law {c : RcChannelCalibration} (hlow : c.minimum < c.trim)
    (hhigh : c.trim < c.maximum) : NormalisationLaw c ∧
      ((c.deadzone.toNat : Int) < c.trim.toNat - c.minimum.toNat →
        (c.deadzone.toNat : Int) < c.maximum.toNat - c.trim.toNat → EndpointLaw c) :=
  ⟨normalisationLaw hlow hhigh, endpointLaw hlow hhigh⟩

/-- The default calibration leaves room on both sides. -/
theorem normalisation_law_default :
    NormalisationLaw ({} : RcChannelCalibration) ∧ EndpointLaw ({} : RcChannelCalibration) := by
  obtain ⟨hlaw, hends⟩ := normalisation_law (c := {}) (by decide) (by decide)
  exact ⟨hlaw, hends (by decide) (by decide)⟩

end DualMagneticWheel
