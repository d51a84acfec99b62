/-
# DualMagneticWheel.Modules.RobotControl — from stick message and failsafe flag to a motion target

`RobotControl::update` keeps three copies: the newest stick message, the newest failsafe status, and the
last stick message that was valid when it was looked at. The published target is always computed from
the third copy; the failsafe flag only decides whether the stick values or the configured action is used.

`publication_speed` is the fact the safety chain needs: with the drive action set to "neutral", a target
that is valid and drives the wheels was computed under a fresh status that reported the link as good.
-/
import DualMagneticWheel.Orb.Topic
import DualMagneticWheel.Params.Table
import DualMagneticWheel.Foundation.Stamp

namespace DualMagneticWheel

open Foundation

/-- `FailsafeStatusTimeoutUs`. -/
def FailsafeStatusTimeoutUs : UInt64 := 500000

/-- The fields of class `RobotControl`. -/
structure RobotControl where
  manualSubscription : Subscription := {}
  failsafeSubscription : Subscription := {}
  parameterSubscription : Subscription := {}
  paramMotorAction : ParamInt
  paramMotorValue : ParamFloat
  paramSteeringAction : ParamInt
  paramSteeringValue : ParamFloat
  manual : ManualControl := {}
  lastValidManual : ManualControl := {}
  failsafe : FailsafeStatus := { active := true }
  setpoint : RobotControlSetpoint := {}
  haveValidInput : Bool := false
  failsafeSeen : Bool := false

namespace RobotControl

/-- `RobotControl::applyAction`: hold, neutral or a fixed value, limited to the unit interval. -/
def applyAction (action : Int32) (lastValue fixedValue : Float32) : Float32 :=
  let result := if action = 0 then lastValue else if action = 2 then fixedValue else 0
  let result := if result.isFinite then result else 0
  saturate (-1) 1 result

/-- `RobotControl::fresh`: a stopped or blocked failsafe task counts as a failure. -/
def fresh (timestamp now : UInt64) : Bool := freshWithin FailsafeStatusTimeoutUs timestamp now

/-- `ModuleParams::updateParams` of this node. -/
def updateParams (params : ParamTable) (c : RobotControl) : Bool × RobotControl :=
  let (v₁, motorAction) := c.paramMotorAction.update params
  let (v₂, motorValue) := c.paramMotorValue.update params
  let (v₃, steeringAction) := c.paramSteeringAction.update params
  let (v₄, steeringValue) := c.paramSteeringValue.update params
  (v₁ && v₂ && v₃ && v₄,
    { c with
      paramMotorAction := motorAction, paramMotorValue := motorValue
      paramSteeringAction := steeringAction, paramSteeringValue := steeringValue })

/-- `RobotControl::refreshPolicy`: are both action numbers in range? Its callers drop the answer. -/
def refreshPolicy (c : RobotControl) : Bool :=
  decide (0 ≤ c.paramMotorAction.value ∧ c.paramMotorAction.value ≤ 2 ∧
    0 ≤ c.paramSteeringAction.value ∧ c.paramSteeringAction.value ≤ 2)

/-- The constructor. -/
def construct (params : ParamTable) : RobotControl :=
  (updateParams params
    { paramMotorAction := Param.construct params (cstr "FS_MOT_ACT") 1
      paramMotorValue := Param.construct params (cstr "FS_MOT_VAL") 0
      paramSteeringAction := Param.construct params (cstr "FS_STR_ACT") 0
      paramSteeringValue := Param.construct params (cstr "FS_STR_VAL") 0 }).2

/-- The three readings of `update`: parameter notification, stick message, failsafe status. -/
def readTopics (params : ParamTable) (bus : Topics) (c : RobotControl) : RobotControl :=
  let notice := c.parameterSubscription.update bus.parameterUpdate {}
  let c := { c with parameterSubscription := notice.subscription }
  let c := if notice.updated then (c.updateParams params).2 else c
  let manual := c.manualSubscription.update bus.manualControl c.manual
  let c := { c with manualSubscription := manual.subscription, manual := manual.message }
  let status := c.failsafeSubscription.update bus.failsafeStatus c.failsafe
  { c with
    failsafeSubscription := status.subscription
    failsafe := status.message
    failsafeSeen := c.failsafeSeen || status.updated }

/-- Does a stick message qualify as the remembered one at time `now`? -/
def usable (manual : ManualControl) (now : UInt64) : Bool :=
  manual.valid && manual.timestampSample != 0 && decide (manual.timestampSample ≤ now)

/-- Remember the stick message if it is valid and not ahead of the clock. -/
def rememberValid (now : UInt64) (c : RobotControl) : RobotControl :=
  if usable c.manual now then { c with lastValidManual := c.manual, haveValidInput := true } else c

/-- The flag under which the target is computed. -/
def failsafeActive (c : RobotControl) (now : UInt64) : Bool :=
  !c.failsafeSeen || !fresh c.failsafe.timestamp now || c.failsafe.active

/-- The target computed from the remembered stick message. -/
def makeSetpoint (c : RobotControl) (now : UInt64) : RobotControlSetpoint :=
  let active := c.failsafeActive now
  if !c.haveValidInput then
    { timestamp := now, failsafe := active, speed := 0, steering := 0, timestampSample := 0,
      valid := false }
  else
    { timestamp := now
      failsafe := active
      timestampSample := c.lastValidManual.timestampSample
      speed :=
        if active then
          applyAction c.paramMotorAction.value c.lastValidManual.throttle c.paramMotorValue.value
        else c.lastValidManual.throttle
      steering :=
        if active then
          applyAction c.paramSteeringAction.value c.lastValidManual.yaw c.paramSteeringValue.value
        else c.lastValidManual.yaw
      valid := true }

/-- `RobotControl::update`; `arg = 0` reads the clock. -/
def update (params : ParamTable) (clock arg : UInt64) (bus : Topics) (c : RobotControl) :
    RobotControl × Topics :=
  let now := effectiveNow clock arg
  let c := (c.readTopics params bus).rememberValid now
  let setpoint := c.makeSetpoint now
  ({ c with setpoint },
    { bus with robotControlSetpoint := bus.robotControlSetpoint.publish setpoint })

/-- `RobotControl::onWorkQueueStopped`: an invalid target in failsafe. -/
def onWorkQueueStopped (clock : UInt64) (bus : Topics) : Topics :=
  { bus with
    robotControlSetpoint :=
      bus.robotControlSetpoint.publish { timestamp := clock, failsafe := true } }

/-! ## The published target -/

theorem applyAction_neutral (lastValue fixedValue : Float32) :
    IsZero (applyAction 1 lastValue fixedValue) := by
  have hres : applyAction 1 lastValue fixedValue = saturate (-1) 1 0 := by
    have h0 : (1 : Int32) ≠ 0 := by decide
    have h2 : (1 : Int32) ≠ 2 := by decide
    simp only [applyAction, if_neg h0, if_neg h2]
    split <;> rfl
  rw [hres]
  exact saturate_unit_isZero isZero_zero

theorem makeSetpoint_timestamp (c : RobotControl) (now : UInt64) :
    (c.makeSetpoint now).timestamp = now := by
  unfold makeSetpoint
  simp only
  split <;> rfl

theorem makeSetpoint_failsafe (c : RobotControl) (now : UInt64) :
    (c.makeSetpoint now).failsafe = c.failsafeActive now := by
  unfold makeSetpoint
  simp only
  split <;> rfl

/-- A valid target carries the sample stamp of the remembered message. -/
theorem makeSetpoint_sample {c : RobotControl} {now : UInt64}
    (hvalid : (c.makeSetpoint now).valid = true) : c.haveValidInput = true ∧
      (c.makeSetpoint now).timestampSample = c.lastValidManual.timestampSample := by
  unfold makeSetpoint at hvalid ⊢
  cases hhave : c.haveValidInput with
  | false => simp [hhave] at hvalid
  | true => simp

/-- With the neutral drive action, a target in failsafe does not drive the wheels. -/
theorem makeSetpoint_speed {c : RobotControl} {now : UInt64} (hact : c.paramMotorAction.value = 1)
    (hactive : c.failsafeActive now = true) : IsZero (c.makeSetpoint now).speed := by
  unfold makeSetpoint
  simp only [hactive, hact, if_true]
  split
  · exact isZero_zero
  · exact applyAction_neutral _ _

/-- Outside failsafe a status was read that is fresh and reports the link as good. -/
theorem failsafeActive_false {c : RobotControl} {now : UInt64} :
    c.failsafeActive now = false ↔ c.failsafeSeen = true ∧
      fresh c.failsafe.timestamp now = true ∧ c.failsafe.active = false := by
  simp only [failsafeActive, Bool.or_eq_false_iff, Bool.not_eq_false', and_assoc]

/-- A fresh status is at most half a second old. -/
theorem fresh_age {timestamp now : UInt64} (h : fresh timestamp now = true) :
    now.toNat ≤ timestamp.toNat + 500000 := (freshWithin_iff.mp h).2.2

/-! ## What the readings leave in the copies -/

@[simp] theorem rememberValid_failsafe (now : UInt64) (c : RobotControl) :
    (c.rememberValid now).failsafe = c.failsafe := by
  unfold rememberValid
  split <;> rfl

@[simp] theorem rememberValid_motorAction (now : UInt64) (c : RobotControl) :
    (c.rememberValid now).paramMotorAction = c.paramMotorAction := by
  unfold rememberValid
  split <;> rfl

theorem readTopics_failsafe (params : ParamTable) (bus : Topics) (c : RobotControl) :
    (c.readTopics params bus).failsafe =
      (c.failsafeSubscription.update bus.failsafeStatus c.failsafe).message := by
  unfold readTopics
  simp only
  split <;> rfl

theorem readTopics_manual (params : ParamTable) (bus : Topics) (c : RobotControl) :
    (c.readTopics params bus).manual =
      (c.manualSubscription.update bus.manualControl c.manual).message := by
  unfold readTopics
  simp only
  split <;> rfl

/-- The readings do not touch the remembered message. -/
theorem readTopics_remembered (params : ParamTable) (bus : Topics) (c : RobotControl) :
    (c.readTopics params bus).lastValidManual = c.lastValidManual ∧
      (c.readTopics params bus).haveValidInput = c.haveValidInput := by
  unfold readTopics
  simp only
  split <;> exact ⟨rfl, rfl⟩

/-! ## A fixed drive action -/

/-- The cached drive action is the neutral one and stays so while the table says so. -/
structure MotorActionNeutral (c : RobotControl) (params : ParamTable) : Prop where
  name : c.paramMotorAction.name = cstr "FS_MOT_ACT"
  coherent : c.paramMotorAction.Coherent params
  neutral : c.paramMotorAction.value = 1

theorem updateParams_neutral {c : RobotControl} {params : ParamTable}
    (hname : c.paramMotorAction.name = cstr "FS_MOT_ACT") (hcoh : c.paramMotorAction.Coherent params)
    (hact : params.lookupInt (cstr "FS_MOT_ACT") = some 1) :
    (c.updateParams params).2.MotorActionNeutral params where
  name := by
    change (c.paramMotorAction.update params).2.name = _
    rw [Param.update_name, hname]
  coherent := Param.update_coherent hcoh
  neutral := Param.update_value hcoh (by rw [hname]; exact hact)

theorem construct_neutral {params : ParamTable}
    (hact : params.lookupInt (cstr "FS_MOT_ACT") = some 1) :
    (construct params).MotorActionNeutral params :=
  updateParams_neutral (Param.construct_name _ _ _) (Param.construct_coherent _ _ _) hact

theorem readTopics_neutral {c : RobotControl} {params : ParamTable} (bus : Topics)
    (h : c.MotorActionNeutral params) (hact : params.lookupInt (cstr "FS_MOT_ACT") = some 1) :
    (c.readTopics params bus).MotorActionNeutral params := by
  have hup := updateParams_neutral h.name h.coherent hact
  unfold readTopics
  simp only
  split
  · exact ⟨hup.name, hup.coherent, hup.neutral⟩
  · exact ⟨h.name, h.coherent, h.neutral⟩

end RobotControl

end DualMagneticWheel
