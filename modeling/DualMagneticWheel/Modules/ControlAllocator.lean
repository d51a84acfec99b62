/-
# DualMagneticWheel.Modules.ControlAllocator — the motion target becomes actuator messages

`ControlAllocator::Run` hands its copy of the target to the allocation algorithm as if it were a stick
message: valid when the model is, the target is, and the target was published within half a second.
The link to the link-loss chain is `Run_motors`: a motor message that is valid and moves was computed
from a fresh valid target with a non-zero speed.
-/
import DualMagneticWheel.Orb.Topic
import DualMagneticWheel.Control.Allocation
import DualMagneticWheel.Foundation.Stamp

namespace DualMagneticWheel

open Foundation

/-- The fields of class `ControlAllocator`; the configuration is the one `allocation` refers to. -/
structure ControlAllocator (E : Type) where
  modelId : Int32
  paramAirframe : ParamInt
  allocation : Allocation E
  setpointSubscription : Subscription := {}
  parameterSubscription : Subscription := {}
  setpoint : RobotControlSetpoint := {}
  allocationCount : UInt32 := 0
  modelValid : Bool := true

namespace ControlAllocator

variable {E : Type} [ActuatorEffectiveness E]

open ActuatorEffectiveness

/-- `ModuleParams::updateParams`: the airframe number, then the configuration as a child node. -/
def updateParams (params : ParamTable) (a : ControlAllocator E) : Bool × ControlAllocator E :=
  let (v₁, airframe) := a.paramAirframe.update params
  let (v₂, effectiveness) := ActuatorEffectiveness.updateParams params a.allocation.effectiveness
  (v₁ && v₂,
    { a with paramAirframe := airframe, allocation := { a.allocation with effectiveness } })

/-- `ControlAllocator::updateParameters`: a changed airframe number invalidates the model without
reloading the matrix. -/
def updateParameters (params : ParamTable) (a : ControlAllocator E) : ControlAllocator E :=
  let a := (a.updateParams params).2
  if a.paramAirframe.value = a.modelId then
    let (valid, allocation) := a.allocation.updateParameters params
    { a with allocation, modelValid := valid }
  else { a with modelValid := false }

/-- The constructor. -/
def construct (params : ParamTable) (modelId : Int32) (effectiveness : E) : ControlAllocator E :=
  updateParameters params
    (updateParams params
      { modelId, paramAirframe := Param.construct params (cstr "CA_AIRFRAME") 1
        allocation := Allocation.construct params effectiveness }).2

/-- The copies `Run` works on: parameters first, then the motion target. -/
def readTopics (params : ParamTable) (bus : Topics) (a : ControlAllocator E) : ControlAllocator E :=
  let notice := a.parameterSubscription.update bus.parameterUpdate {}
  let a := { a with parameterSubscription := notice.subscription }
  let a := if notice.updated then a.updateParameters params else a
  let target := a.setpointSubscription.update bus.robotControlSetpoint a.setpoint
  { a with setpointSubscription := target.subscription, setpoint := target.message }

/-- The stick message `Run` builds from its copy of the target. -/
def allocationInput (a : ControlAllocator E) (now : UInt64) : ManualControl where
  timestamp := now
  timestampSample := a.setpoint.timestampSample
  throttle := a.setpoint.speed
  yaw := a.setpoint.steering
  valid := a.modelValid && a.setpoint.valid && freshWithin 500000 a.setpoint.timestamp now

/-- The two messages `Run` publishes. -/
def outputs (a : ControlAllocator E) (now : UInt64) : ActuatorMotors × ActuatorServos :=
  let (motors, servos) := a.allocation.allocate (a.allocationInput now)
  ({ motors with timestamp := now }, { servos with timestamp := now })

/-- `ControlAllocator::Run`. -/
def Run (params : ParamTable) (clock : UInt64) (bus : Topics) (a : ControlAllocator E) :
    ControlAllocator E × Topics :=
  let a := a.readTopics params bus
  let (motors, servos) := a.outputs clock
  ({ a with allocationCount := a.allocationCount + 1 },
    { bus with
      actuatorMotors := bus.actuatorMotors.publish motors
      actuatorServos := bus.actuatorServos.publish servos })

/-- `ControlAllocator::onWorkQueueStopped`: two invalid messages. -/
def onWorkQueueStopped (clock : UInt64) (bus : Topics) : Topics :=
  { bus with
    actuatorMotors := bus.actuatorMotors.publish { timestamp := clock }
    actuatorServos := bus.actuatorServos.publish { timestamp := clock } }

/-! ## The published motor message -/

/-- A valid motor message that moves comes from a fresh valid target with a non-zero speed. -/
theorem outputs_moving {a : ControlAllocator E} {now : UInt64} (ha : a.allocation.DrivesBySpeed)
    (hvalid : (a.outputs now).1.valid = true) (hmove : ¬ Allocation.Still (a.outputs now).1) :
    a.setpoint.valid = true ∧ ¬ IsZero a.setpoint.speed ∧
      a.setpoint.timestamp.toNat ≤ now.toNat ∧
      now.toNat ≤ a.setpoint.timestamp.toNat + 500000 := by
  have hinput : (a.allocationInput now).valid = true := Allocation.allocate_valid hvalid
  simp only [allocationInput, Bool.and_eq_true] at hinput
  obtain ⟨⟨_, hset⟩, hfresh⟩ := hinput
  obtain ⟨_, hle, hage⟩ := freshWithin_iff.mp hfresh
  refine ⟨hset, fun hzero => hmove ?_, hle, hage⟩
  exact Allocation.allocate_still ha hzero

/-- Loading parameters leaves the subscription to the motion target and its copy alone. -/
theorem updateParameters_frame (params : ParamTable) (a : ControlAllocator E) :
    (a.updateParameters params).setpoint = a.setpoint ∧
      (a.updateParameters params).setpointSubscription = a.setpointSubscription := by
  unfold updateParameters
  simp only
  split <;> exact ⟨rfl, rfl⟩

theorem construct_setpoint (params : ParamTable) (modelId : Int32) (effectiveness : E) :
    (construct params modelId effectiveness).setpoint = {} :=
  (updateParameters_frame params _).1

/-- The parameter half of `readTopics` leaves the motion target alone. -/
theorem readTopics_setpoint (params : ParamTable) (bus : Topics) (a : ControlAllocator E) :
    (a.readTopics params bus).setpoint =
      (a.setpointSubscription.update bus.robotControlSetpoint a.setpoint).message := by
  unfold readTopics
  simp only
  split
  · rw [(updateParameters_frame _ _).1, (updateParameters_frame _ _).2]
  · rfl

/-! ## The matrix stays in shape -/

theorem updateParameters_drivesBySpeed {params : ParamTable}
    {a : ControlAllocator ActuatorEffectivenessDualMagneticWheel}
    (h : a.allocation.DrivesBySpeed) : (a.updateParameters params).allocation.DrivesBySpeed := by
  unfold updateParameters
  simp only
  split
  · exact Allocation.updateParameters_drivesBySpeed params h
  · exact h

theorem construct_drivesBySpeed (params : ParamTable) (modelId : Int32)
    (e : ActuatorEffectivenessDualMagneticWheel) :
    (construct params modelId e).allocation.DrivesBySpeed :=
  updateParameters_drivesBySpeed
    (Allocation.updateParameters_drivesBySpeed params (Allocation.drivesBySpeed_initial e))

theorem readTopics_drivesBySpeed (params : ParamTable) (bus : Topics)
    {a : ControlAllocator ActuatorEffectivenessDualMagneticWheel}
    (h : a.allocation.DrivesBySpeed) : (a.readTopics params bus).allocation.DrivesBySpeed := by
  unfold readTopics
  simp only
  split
  · exact updateParameters_drivesBySpeed h
  · exact h

end ControlAllocator

end DualMagneticWheel
