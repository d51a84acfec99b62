/-
# DualMagneticWheel.Output.SetPoints — what an output becomes on the wire

`sendDamiao` clamps an output, applies the direction of the channel and maps the result onto its range:
a velocity range around zero for a motor, the two stops for a servo. In exact arithmetic both maps are
`unitScale`, so an accepted channel never leaves its range, keeps the order of its outputs or reverses
it, and reaches the ends of the range at the ends of the interval.
-/
import DualMagneticWheel.Foundation.UnitScale
import DualMagneticWheel.Output.Drivable

namespace DualMagneticWheel

open Foundation

namespace CanChannelConfig

/-! ## The arithmetic of an accepted channel -/

/-- The saturation of the output is the clamp of the library. -/
theorem constrainUnit_eq (value : ℚ) : constrainUnit value = clampUnit value := by
  have hone : (1.0 : ℚ) = 1 := by norm_num
  rw [constrainUnit, clampUnit, hone]
  exact saturate_eq (by norm_num) value

/-- The range of a channel: what a motor turns at, where a servo goes. -/
def lowest (config : CanChannelConfig ℚ) : ℚ :=
  match config.actuatorType with
  | .Motor => -config.limits.velocityMax
  | .Servo => config.positionMinimum

def highest (config : CanChannelConfig ℚ) : ℚ :=
  match config.actuatorType with
  | .Motor => config.limits.velocityMax
  | .Servo => config.positionMaximum

/-- The set-point for a physical value. -/
def setPoint (config : CanChannelConfig ℚ) (value : ℚ) : DamiaoCommand ℚ :=
  match config.actuatorType with
  | .Motor => .velocity config.motorId value
  | .Servo => .positionVelocity config.motorId value config.limits.velocityMax

/-- The physical value of an output. -/
def physical (config : CanChannelConfig ℚ) (output : ℚ) : ℚ :=
  unitScale config.lowest config.highest (clampUnit output * config.reverse)

/-- In the mode of its type a channel sends the physical value. -/
theorem damiaoCommand_eq {config : CanChannelConfig ℚ} (hmode : config.mode = config.actuatorType.driveMode)
    (output : ℚ) : config.damiaoCommand output = some (config.setPoint (config.physical output)) := by
  unfold damiaoCommand setPoint physical lowest highest
  rw [constrainUnit_eq, hmode]
  cases htype : config.actuatorType with
  | Motor =>
      simp only [ActuatorType.driveMode, and_self, if_true]
      rw [unitScale_symm]
  | Servo =>
      have hratio : ∀ u : ℚ, config.positionMinimum +
          (u + 1.0) * 0.5 * (config.positionMaximum - config.positionMinimum) =
            unitScale config.positionMinimum config.positionMaximum u := by
        intro u
        have hone : (1.0 : ℚ) = 1 := by norm_num
        have hhalf : (0.5 : ℚ) = 1 / 2 := by norm_num
        rw [unitScale, AffineMap.lineMap_apply_ring', hone, hhalf]
        ring
      simp only [ActuatorType.driveMode, reduceCtorEq, false_and, if_false, and_self, if_true]
      rw [hratio]

/-- The direction and the range of an accepted channel. -/
theorem accepted_range {config : CanChannelConfig ℚ} (h : config.accepted = true) :
    (config.reverse = 1 ∨ config.reverse = -1) ∧ config.lowest < config.highest := by
  have hone : (1.0 : ℚ) = 1 := by norm_num
  have hzero : (0.0 : ℚ) = 0 := by norm_num
  simp only [accepted, Bool.and_eq_true, Bool.or_eq_true, beq_iff_eq, Scalar.lt, decide_eq_true_eq,
    hone, hzero] at h
  obtain ⟨⟨⟨⟨⟨-, hreverse⟩, -⟩, hvelocity⟩, -⟩, hrange⟩ := h
  refine ⟨hreverse, ?_⟩
  unfold lowest highest
  cases config.actuatorType with
  | Motor => exact neg_lt_self hvelocity
  | Servo => exact hrange

/-! ## The law -/

/-- What the frames of a channel carry. `command` says that the physical value is what `sendDamiao` hands to
the encoder of its type. -/
structure MechanicalLimits (config : CanChannelConfig ℚ) : Prop where
  command : ∀ output, config.damiaoCommand output = some (config.setPoint (config.physical output))
  encoded : ∀ output, config.encodes output = true
  bounds : ∀ output, config.lowest ≤ config.physical output ∧ config.physical output ≤ config.highest
  direction : config.reverse = 1 ∨ config.reverse = -1
  rising : config.reverse = 1 → Monotone config.physical ∧
    StrictMonoOn config.physical (Set.Icc (-1) 1) ∧
      config.physical (-1) = config.lowest ∧ config.physical 1 = config.highest
  falling : config.reverse = -1 → Antitone config.physical ∧
    StrictAntiOn config.physical (Set.Icc (-1) 1) ∧
      config.physical (-1) = config.highest ∧ config.physical 1 = config.lowest
  flipped : ∀ output, damiaoCommand { config with reverse := -config.reverse } output =
    config.damiaoCommand (-output)

theorem physical_forward {config : CanChannelConfig ℚ} (h : config.reverse = 1) (output : ℚ) :
    config.physical output = unitScale config.lowest config.highest (clampUnit output) := by
  rw [physical, h, mul_one]

/-- A reversed channel has its range mirrored. -/
theorem physical_reversed {config : CanChannelConfig ℚ} (h : config.reverse = -1) (output : ℚ) :
    config.physical output = unitScale config.highest config.lowest (clampUnit output) := by
  rw [physical, h, mul_neg_one, unitScale_neg]

/-- Clamped to the ends and scaled, an output reaches the ends of the range. -/
theorem unitScale_clampUnit_ends (lo hi : ℚ) :
    unitScale lo hi (clampUnit (-1)) = lo ∧ unitScale lo hi (clampUnit 1) = hi := by
  rw [clampUnit_of_mem (v := (-1 : ℚ)) ⟨by norm_num, by norm_num⟩,
    clampUnit_of_mem (v := (1 : ℚ)) ⟨by norm_num, by norm_num⟩]
  exact ⟨unitScale_neg_one lo hi, unitScale_one lo hi⟩

/-- Every output of an accepted channel in its drivable mode, inside the unit interval or not, is a frame
within the mechanical limits; the outputs keep or reverse their order as the direction says. -/
theorem mechanical_limits {params : ParamReader ℚ} {type : ActuatorType} {index : Nat}
    {config : CanChannelConfig ℚ} (h : (loadChannel params type index config).1 = true)
    (hmode : (loadChannel params type index config).2.mode = type.driveMode) :
    MechanicalLimits (loadChannel params type index config).2 := by
  obtain ⟨htype, -, -, haccepted⟩ := loadChannel_loaded h
  generalize (loadChannel params type index config).2 = loaded at hmode htype haccepted ⊢
  rw [← htype] at hmode
  obtain ⟨hdirection, hrange⟩ := accepted_range haccepted
  have hscale := unitScale_strictMono hrange
  refine ⟨damiaoCommand_eq hmode, fun output => (encodes_iff haccepted output).mpr hmode,
    fun output => ?_, hdirection, fun hforward => ?_, fun hreversed => ?_, fun output => ?_⟩
  · -- the clamped output is in the unit interval in either direction
    have hunit : clampUnit output * loaded.reverse ∈ Set.Icc (-1 : ℚ) 1 := by
      obtain ⟨hlow, hhigh⟩ := clampUnit_mem output
      rcases hdirection with hforward | hreversed
      · rw [hforward, mul_one]
        exact ⟨hlow, hhigh⟩
      · rw [hreversed, mul_neg_one]
        exact ⟨neg_le_neg hhigh, neg_le.mp hlow⟩
    exact unitScale_mem hrange.le hunit
  · -- the scale after the clamp
    have hvalue := physical_forward hforward
    obtain ⟨hleft, hright⟩ := unitScale_clampUnit_ends loaded.lowest loaded.highest
    refine ⟨fun a b hab => ?_, fun a ha b hb hab => ?_, ?_, ?_⟩
    · rw [hvalue, hvalue]
      exact hscale.monotone (clampUnit_monotone hab)
    · rw [hvalue, hvalue, clampUnit_of_mem ha, clampUnit_of_mem hb]
      exact hscale hab
    · rw [hvalue, hleft]
    · rw [hvalue, hright]
  · -- the scale from the upper end down is the scale at the negated value
    have hvalue := physical_reversed hreversed
    have hmirror : ∀ u, unitScale loaded.highest loaded.lowest u =
        unitScale loaded.lowest loaded.highest (-u) := fun u => (unitScale_neg _ _ u).symm
    obtain ⟨hleft, hright⟩ := unitScale_clampUnit_ends loaded.highest loaded.lowest
    refine ⟨fun a b hab => ?_, fun a ha b hb hab => ?_, ?_, ?_⟩
    · rw [hvalue, hvalue, hmirror, hmirror]
      exact hscale.monotone (neg_le_neg (clampUnit_monotone hab))
    · rw [hvalue, hvalue, clampUnit_of_mem ha, clampUnit_of_mem hb, hmirror, hmirror]
      exact hscale (neg_lt_neg hab)
    · rw [hvalue, hleft]
    · rw [hvalue, hright]
  · -- both negations reach the factor of the direction
    have hflipped := @damiaoCommand_eq { loaded with reverse := -loaded.reverse } hmode output
    rw [hflipped, damiaoCommand_eq hmode, physical, physical, clampUnit_neg, neg_mul, mul_neg]
    rfl

/-- The front servo with the factory settings. -/
theorem mechanical_limits_factory :
    MechanicalLimits (loadChannel (factorySettings 3) .Servo 0 initial).2 :=
  mechanical_limits (by decide +kernel) (by decide +kernel)

end CanChannelConfig

end DualMagneticWheel
