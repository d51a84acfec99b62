/-
# DualMagneticWheel.Modules.Command — the arming authority

`Command::update` turns the stick and switch messages into an arming state: it selects the switch that
`CA_ARM_SW` names, shows its position to the interlock, and publishes the interlock's answer unless the
operator inhibits outputs. The inhibit flag and the pending warning are static members, shared with the
shell and with the runtime's report; they travel beside the object.
-/
import DualMagneticWheel.Orb.Topic
import DualMagneticWheel.Params.Table
import DualMagneticWheel.Control.ArmSafety
import DualMagneticWheel.Foundation.Stamp

namespace DualMagneticWheel

open Foundation ManualControlSwitches

/-- The static members of class `Command`. -/
structure CommandStatics where
  outputInhibited : Bool := false
  warningSwitch : Int32 := 0

/-- The fields of class `Command`. -/
structure Command where
  manualSubscription : Subscription := {}
  switchSubscription : Subscription := {}
  parameterSubscription : Subscription := {}
  paramArmSwitch : ParamInt
  manual : ManualControl := {}
  switches : ManualControlSwitches := {}
  status : ActuatorArmed := {}
  armSafety : ArmSafety := {}
  armSwitch : Int32 := 1
  position : UInt8 := POSITION_NONE
  lastWarning : UInt64 := 0

namespace Command

/-- `Command::fresh`. -/
def fresh (timestamp now : UInt64) : Bool := freshWithin 500000 timestamp now

/-- `ModuleParams::updateParams` of this node. -/
def updateParams (params : ParamTable) (c : Command) : Bool × Command :=
  let (valid, armSwitch) := c.paramArmSwitch.update params
  (valid, { c with paramArmSwitch := armSwitch })

/-- `Command::updateParameters`: a new mapping starts the interlock over. -/
def updateParameters (c : Command) : Command :=
  let mapping := c.paramArmSwitch.value
  if c.armSwitch ≠ mapping then
    { c with armSwitch := mapping, armSafety := c.armSafety.reset, lastWarning := 0 }
  else c

/-- The constructor. -/
def construct (params : ParamTable) : Command :=
  (updateParams params
    { paramArmSwitch := Param.construct params (cstr "CA_ARM_SW") 1 }).2.updateParameters

/-- The readings of `update`: parameters first, then sticks and switches. -/
def readTopics (params : ParamTable) (bus : Topics) (c : Command) : Command :=
  let notice := c.parameterSubscription.update bus.parameterUpdate {}
  let c := { c with parameterSubscription := notice.subscription }
  let c := if notice.updated then (c.updateParams params).2.updateParameters else c
  let manual := c.manualSubscription.update bus.manualControl c.manual
  let switches := c.switchSubscription.update bus.manualControlSwitches c.switches
  { c with
    manualSubscription := manual.subscription, manual := manual.message
    switchSubscription := switches.subscription, switches := switches.message }

/-- `Command::switchPosition`: the position of the mapped switch, or none if any test fails. -/
def switchPosition (c : Command) (now : UInt64) : UInt8 :=
  if !c.manual.valid || !c.switches.valid || decide (c.armSwitch.toInt < 1) ||
      decide (c.armSwitch.toInt > c.switches.switchCount.toNat) ||
      decide (c.armSwitch.toInt > SWITCH_COUNT.toNat) ||
      !fresh c.manual.timestampSample now || !fresh c.switches.timestampSample now then
    POSITION_NONE
  else
    let position := c.switches.positions.getD (c.armSwitch.toInt - 1).toNat 0
    if POSITION_ON ≤ position ∧ position ≤ POSITION_OFF then position else POSITION_NONE

/-- `Command::updateSafety`: show the position to the interlock, publish, and note a pending warning. -/
def updateSafety (now : UInt64) (bus : Topics) (statics : CommandStatics) (c : Command) :
    Command × CommandStatics × Topics :=
  let position := c.switchPosition now
  let valid := position != POSITION_NONE
  let (safe, armSafety) := c.armSafety.update valid position
  let status : ActuatorArmed :=
    { timestamp := now, valid, lockdown := statics.outputInhibited
      armed := safe && !statics.outputInhibited }
  let warn := armSafety.waitingForOff && valid && position != POSITION_OFF &&
    (c.lastWarning == 0 || decide (5000000 ≤ now - c.lastWarning))
  ({ c with
      position, status, armSafety
      lastWarning := if warn then now else c.lastWarning },
    if warn then { statics with warningSwitch := c.armSwitch } else statics,
    { bus with actuatorArmed := bus.actuatorArmed.publish status })

/-- `Command::update`; `arg = 0` reads the clock. -/
def update (params : ParamTable) (clock arg : UInt64) (bus : Topics) (statics : CommandStatics)
    (c : Command) : Command × CommandStatics × Topics :=
  (c.readTopics params bus).updateSafety (effectiveNow clock arg) bus statics

/-- `Command::onWorkQueueStopped`: the disarmed default. -/
def onWorkQueueStopped (clock : UInt64) (bus : Topics) : Topics :=
  { bus with actuatorArmed := bus.actuatorArmed.publish { timestamp := clock } }

/-- `Command::reportWarnings` takes the pending warning and clears it. -/
def reportWarnings (statics : CommandStatics) : Int32 × CommandStatics :=
  (statics.warningSwitch, { statics with warningSwitch := 0 })

/-! ## The observation of an update -/

/-- What the interlock is shown at `now`: a position, or nothing. -/
def observation (c : Command) (now : UInt64) : Option UInt8 :=
  if c.switchPosition now = POSITION_NONE then none else some (c.switchPosition now)

/-- The interlock makes one step with the observation, and its answer is published unless inhibited. -/
theorem updateSafety_spec (now : UInt64) (bus : Topics) (statics : CommandStatics) (c : Command) :
    (c.updateSafety now bus statics).1.armSafety = c.armSafety.observe (c.observation now) ∧
      ((c.updateSafety now bus statics).2.2.actuatorArmed.message.armed = true ↔
        (c.armSafety.observe (c.observation now)).state = .armed ∧
          statics.outputInhibited = false) := by
  have hstep : (c.armSafety.update (c.switchPosition now != POSITION_NONE)
      (c.switchPosition now)).2 = c.armSafety.observe (c.observation now) := by
    unfold observation
    by_cases hnone : c.switchPosition now = POSITION_NONE
    · simp [hnone, ArmSafety.observe]
    · rw [if_neg hnone, bne_iff_ne.mpr hnone]
      rfl
  refine ⟨hstep, ?_⟩
  have hanswer := ArmSafety.update_answer (c.switchPosition now != POSITION_NONE)
    (c.switchPosition now) c.armSafety
  rw [hstep] at hanswer
  simp only [updateSafety, Topic.publish_message, hanswer, Bool.and_eq_true, beq_iff_eq,
    Bool.not_eq_true']

/-- An update observes a position when both messages are valid and recent, the mapped switch exists, and
it stands on, in the middle or off. -/
def Observes (manual : ManualControl) (switches : ManualControlSwitches) (armSwitch : Int32)
    (now : UInt64) (position : UInt8) : Prop :=
  manual.valid = true ∧ switches.valid = true ∧
    (manual.timestampSample ≠ 0 ∧ manual.timestampSample.toNat ≤ now.toNat ∧
      now.toNat ≤ manual.timestampSample.toNat + 500000) ∧
    (switches.timestampSample ≠ 0 ∧ switches.timestampSample.toNat ≤ now.toNat ∧
      now.toNat ≤ switches.timestampSample.toNat + 500000) ∧
    1 ≤ armSwitch.toInt ∧ armSwitch.toInt ≤ min switches.switchCount.toNat 12 ∧
    switches.positions.getD (armSwitch.toInt - 1).toNat 0 = position ∧
    (position = POSITION_ON ∨ position = POSITION_MIDDLE ∨ position = POSITION_OFF)

theorem position_range (position : UInt8) :
    (POSITION_ON ≤ position ∧ position ≤ POSITION_OFF) ↔
      (position = POSITION_ON ∨ position = POSITION_MIDDLE ∨ position = POSITION_OFF) := by
  simp only [UInt8.le_iff_toNat_le, ← UInt8.toNat_inj, POSITION_ON, POSITION_MIDDLE, POSITION_OFF,
    UInt8.reduceToNat]
  omega

theorem observation_eq_some (c : Command) (now : UInt64) (position : UInt8) :
    c.observation now = some position ↔
      Observes c.manual c.switches c.armSwitch now position := by
  -- the tests of `switchPosition`, negated one by one
  have hgate : (!c.manual.valid || !c.switches.valid || decide (c.armSwitch.toInt < 1) ||
      decide (c.armSwitch.toInt > c.switches.switchCount.toNat) ||
      decide (c.armSwitch.toInt > SWITCH_COUNT.toNat) ||
      !fresh c.manual.timestampSample now || !fresh c.switches.timestampSample now) = false ↔
      c.manual.valid = true ∧ c.switches.valid = true ∧
        fresh c.manual.timestampSample now = true ∧ fresh c.switches.timestampSample now = true ∧
        1 ≤ c.armSwitch.toInt ∧ c.armSwitch.toInt ≤ min c.switches.switchCount.toNat 12 := by
    have hcount : (SWITCH_COUNT.toNat : Int) = 12 := rfl
    simp only [Bool.or_eq_false_iff, Bool.not_eq_false', decide_eq_false_iff_not, hcount]
    constructor
    · rintro ⟨⟨⟨⟨⟨⟨hm, hs⟩, hlow⟩, hcount⟩, hmax⟩, hfm⟩, hfs⟩
      exact ⟨hm, hs, hfm, hfs, by omega, by omega⟩
    · rintro ⟨hm, hs, hfm, hfs, hlow, hmin⟩
      exact ⟨⟨⟨⟨⟨⟨hm, hs⟩, by omega⟩, by omega⟩, by omega⟩, hfm⟩, hfs⟩
  have hfresh : ∀ stamp, fresh stamp now = true ↔ stamp ≠ 0 ∧ stamp.toNat ≤ now.toNat ∧
      now.toNat ≤ stamp.toNat + 500000 := fun stamp => freshWithin_iff
  unfold observation switchPosition Observes
  simp only [← hfresh]
  split
  · -- a test failed, so there is no position
    rename_i htests
    rw [if_pos rfl]
    constructor
    · intro h
      cases h
    · rintro ⟨hm, hs, hfm, hfs, hlow, hmin, _⟩
      rw [hgate.mpr ⟨hm, hs, hfm, hfs, hlow, hmin⟩] at htests
      cases htests
  · rename_i htests
    obtain ⟨hm, hs, hfm, hfs, hlow, hmin⟩ := hgate.mp (by simpa using htests)
    generalize hpos : c.switches.positions.getD (c.armSwitch.toInt - 1).toNat 0 = actual
    by_cases hrange : POSITION_ON ≤ actual ∧ actual ≤ POSITION_OFF
    · have hnone : actual ≠ POSITION_NONE := by
        rintro rfl
        revert hrange
        decide
      rw [if_pos hrange, if_neg hnone, Option.some_inj]
      constructor
      · rintro rfl
        exact ⟨hm, hs, hfm, hfs, hlow, hmin, rfl, (position_range _).mp hrange⟩
      · rintro ⟨_, _, _, _, _, _, hposition, _⟩
        exact hposition
    · rw [if_neg hrange, if_pos rfl]
      constructor
      · intro h
        cases h
      · rintro ⟨_, _, _, _, _, _, rfl, hposition⟩
        exact absurd ((position_range _).mpr hposition) hrange

end Command

end DualMagneticWheel
