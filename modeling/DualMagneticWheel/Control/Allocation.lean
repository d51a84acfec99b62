/-
# DualMagneticWheel.Control.Allocation — from a motion target to motor and servo controls

A configuration describes itself by its actuator counts, the mask of motors that may run backwards, and
a matrix with one row per actuator and a column each for throttle and yaw. `Allocation` keeps the last
matrix that loaded and multiplies it with the sticks. The dual magnetic wheel is the one configuration
the source has: two wheels that follow the throttle alone and two steering servos.
-/
import DualMagneticWheel.Params.Table
import DualMagneticWheel.Foundation.Loop

namespace DualMagneticWheel

open Foundation

/-! ## Configurations -/

/-- `AllocationMatrix`: motors first, then servos; the columns are throttle and yaw. -/
structure AllocationMatrix where
  values : Vector (Vector Float32 2) 16 := Vector.replicate 16 (Vector.replicate 2 0)

namespace AllocationMatrix

def entry (m : AllocationMatrix) (row column : Nat) : Float32 :=
  (m.values.getD row (Vector.replicate 2 0)).getD column 0

/-- Write the entry `values[row][column]`. -/
def setEntry (m : AllocationMatrix) (row column : Nat) (value : Float32) : AllocationMatrix where
  values := m.values.setIfInBounds row
    ((m.values.getD row (Vector.replicate 2 0)).setIfInBounds column value)

end AllocationMatrix

/-- `ActuatorEffectiveness`: what the allocation algorithm asks of a configuration. -/
class ActuatorEffectiveness (E : Type) where
  motorCount : E → UInt8
  servoCount : E → UInt8
  reversibleMotorMask : E → UInt32
  updateParams : ParamTable → E → Bool × E
  getAllocationMatrix : E → Option AllocationMatrix

/-- `ActuatorEffectivenessDualMagneticWheel`. -/
structure ActuatorEffectivenessDualMagneticWheel where
  paramThrottleFront : ParamFloat
  paramThrottleRear : ParamFloat
  paramYawFront : ParamFloat
  paramYawRear : ParamFloat

namespace ActuatorEffectivenessDualMagneticWheel

/-- `ModuleParams::updateParams` of this node. -/
def updateParams (params : ParamTable) (e : ActuatorEffectivenessDualMagneticWheel) :
    Bool × ActuatorEffectivenessDualMagneticWheel :=
  let (v₁, throttleFront) := e.paramThrottleFront.update params
  let (v₂, throttleRear) := e.paramThrottleRear.update params
  let (v₃, yawFront) := e.paramYawFront.update params
  let (v₄, yawRear) := e.paramYawRear.update params
  (v₁ && v₂ && v₃ && v₄,
    { paramThrottleFront := throttleFront, paramThrottleRear := throttleRear
      paramYawFront := yawFront, paramYawRear := yawRear })

/-- The constructor. -/
def construct (params : ParamTable) : ActuatorEffectivenessDualMagneticWheel :=
  (updateParams params
    { paramThrottleFront := Param.construct params (cstr "CA_THR_F") 1
      paramThrottleRear := Param.construct params (cstr "CA_THR_R") 1
      paramYawFront := Param.construct params (cstr "CA_YAW_F") 1
      paramYawRear := Param.construct params (cstr "CA_YAW_R") 0 }).2

/-- The matrix before its finiteness check. -/
def matrix (e : ActuatorEffectivenessDualMagneticWheel) : AllocationMatrix :=
  let m : AllocationMatrix := {}
  let m := m.setEntry 0 0 e.paramThrottleFront.value
  let m := m.setEntry 1 0 e.paramThrottleRear.value
  let m := m.setEntry 2 1 e.paramYawFront.value
  m.setEntry 3 1 e.paramYawRear.value

/-- `getAllocationMatrix`: refused as soon as a coefficient is not finite. -/
def getAllocationMatrix (e : ActuatorEffectivenessDualMagneticWheel) : Option AllocationMatrix :=
  if (List.range 4).all fun row =>
      (e.matrix.entry row 0).isFinite && (e.matrix.entry row 1).isFinite then some e.matrix
  else none

instance : ActuatorEffectiveness ActuatorEffectivenessDualMagneticWheel where
  motorCount _ := 2
  servoCount _ := 2
  reversibleMotorMask _ := 3
  updateParams := updateParams
  getAllocationMatrix := getAllocationMatrix

end ActuatorEffectivenessDualMagneticWheel

/-! ## The allocation algorithm -/

/-- `Allocation`, holding the configuration it refers to. -/
structure Allocation (E : Type) where
  effectiveness : E
  matrix : AllocationMatrix := {}
  valid : Bool := false

namespace Allocation

variable {E : Type} [ActuatorEffectiveness E]

open ActuatorEffectiveness

/-- `Allocation::updateParameters`: only a complete new matrix replaces the old one. -/
def updateParameters (params : ParamTable) (a : Allocation E) : Bool × Allocation E :=
  let (loaded, effectiveness) := updateParams params a.effectiveness
  let a := { a with effectiveness }
  if loaded && motorCount effectiveness ≤ 8 && servoCount effectiveness ≤ 8 then
    match getAllocationMatrix effectiveness with
    | some matrix => (true, { a with matrix, valid := true })
    | none => (false, { a with valid := false })
  else (false, { a with valid := false })

/-- The constructor. -/
def construct (params : ParamTable) (effectiveness : E) : Allocation E :=
  (updateParameters params { effectiveness }).2

/-- `Allocation::constrainUnit`. -/
def constrainUnit (value : Float32) : Float32 := saturate (-1) 1 value

/-- The product of one matrix row with the sticks. -/
def rowResult (a : Allocation E) (manual : ManualControl) (row : Nat) : Float32 :=
  a.matrix.entry row 0 * manual.throttle + a.matrix.entry row 1 * manual.yaw

/-- A motor outside the reversible mask does not run backwards. -/
def limitReverse (a : Allocation E) (row : Nat) (value : Float32) : Float32 :=
  if reversibleMotorMask a.effectiveness &&& ((1 : UInt32) <<< UInt32.ofNat row) = 0 ∧
      value.lt 0 then 0
  else value

/-- One turn of the row loop; a product that is not finite ends it. -/
def allocateRow (a : Allocation E) (manual : ManualControl)
    (out : ActuatorMotors × ActuatorServos) (row : Nat) :
    Option (ActuatorMotors × ActuatorServos) :=
  let result := a.rowResult manual row
  if !result.isFinite then none
  else
    let value := constrainUnit result
    if row < out.1.count.toNat then
      some ({ out.1 with control := out.1.control.setIfInBounds row (a.limitReverse row value) },
        out.2)
    else
      some (out.1,
        { out.2 with control := out.2.control.setIfInBounds (row - out.1.count.toNat) value })

/-- The two messages with everything but their controls filled in. -/
def allocateHeader (a : Allocation E) (manual : ManualControl) : ActuatorMotors × ActuatorServos :=
  let valid := a.valid && manual.valid && manual.throttle.isFinite && manual.yaw.isFinite
  ({ timestamp := manual.timestamp, timestampSample := manual.timestampSample
     count := motorCount a.effectiveness, valid },
   { timestamp := manual.timestamp, timestampSample := manual.timestampSample
     count := servoCount a.effectiveness, valid })

/-- `Allocation::allocate`: both messages fall back to their defaults when a row overflows. -/
def allocate (a : Allocation E) (manual : ManualControl) : ActuatorMotors × ActuatorServos :=
  let out := a.allocateHeader manual
  if !out.1.valid then out
  else
    match forRange? (out.1.count.toNat + out.2.count.toNat) (a.allocateRow manual) out with
    | some out => out
    | none => ({}, {})

/-! ## No throttle, no drive -/

/-- Motor rows weigh the throttle with a finite coefficient and do not mix in the yaw. -/
def DrivesBySpeed (a : Allocation E) : Prop :=
  ∀ row, row < (motorCount a.effectiveness).toNat →
    (a.matrix.entry row 0).isFinite = true ∧ IsZero (a.matrix.entry row 1)

theorem limitReverse_isZero (a : Allocation E) (row : Nat) {value : Float32} (h : IsZero value) :
    IsZero (a.limitReverse row value) := by
  unfold limitReverse
  split
  · exact isZero_zero
  · exact h

theorem rowResult_isZero {a : Allocation E} {manual : ManualControl} {row : Nat}
    (ha : a.DrivesBySpeed) (hrow : row < (motorCount a.effectiveness).toNat)
    (hthrottle : IsZero manual.throttle) (hyaw : manual.yaw.isFinite = true) :
    IsZero (a.rowResult manual row) :=
  isZero_add (isZero_mul_right (ha row hrow).1 hthrottle) (isZero_mul_left (ha row hrow).2 hyaw)

/-- A row leaves the header fields of the motor message alone. -/
theorem allocateRow_header {a : Allocation E} {manual : ManualControl} {row : Nat}
    {out out' : ActuatorMotors × ActuatorServos} (h : a.allocateRow manual out row = some out') :
    out'.1.valid = out.1.valid ∧ out'.1.count = out.1.count := by
  unfold allocateRow at h
  simp only at h
  split at h
  · cases h
  · split at h <;> cases h <;> exact ⟨rfl, rfl⟩

/-- Every motor control is a zero. -/
def Still (m : ActuatorMotors) : Prop := ∀ i, IsZero (m.control.getD i 0)

theorem still_default : Still {} := by
  intro i
  change IsZero ((Vector.replicate 8 (0 : Float32)).getD i 0)
  rw [getD_replicate]
  exact isZero_zero

theorem still_setIfInBounds {m : ActuatorMotors} (h : Still m) (row : Nat) {value : Float32}
    (hv : IsZero value) : Still { m with control := m.control.setIfInBounds row value } := by
  intro i
  change IsZero ((m.control.setIfInBounds row value).getD i 0)
  rw [getD_setIfInBounds]
  split
  · exact hv
  · exact h i

theorem allocateRow_still {a : Allocation E} {manual : ManualControl} {row : Nat}
    {out out' : ActuatorMotors × ActuatorServos} (ha : a.DrivesBySpeed)
    (hthrottle : IsZero manual.throttle) (hyaw : manual.yaw.isFinite = true)
    (hcount : out.1.count = motorCount a.effectiveness) (hout : Still out.1)
    (h : a.allocateRow manual out row = some out') : Still out'.1 := by
  unfold allocateRow at h
  simp only at h
  split at h
  · cases h
  · split at h
    · rename_i hrow
      cases h
      rw [hcount] at hrow
      have hres := rowResult_isZero ha hrow hthrottle hyaw
      exact still_setIfInBounds hout row (a.limitReverse_isZero row (saturate_unit_isZero hres))
    · cases h
      exact hout

/-- A valid result needs a valid input. -/
theorem allocate_valid {a : Allocation E} {manual : ManualControl}
    (h : (a.allocate manual).1.valid = true) : manual.valid = true := by
  have hheader : (a.allocateHeader manual).1.valid = true := by
    unfold allocate at h
    simp only at h
    split at h
    · exact h
    · rename_i hv
      simpa using hv
  simp only [allocateHeader, Bool.and_eq_true] at hheader
  exact hheader.1.1.2

/-- Without throttle no motor is driven, whatever the steering input. -/
theorem allocate_still {a : Allocation E} {manual : ManualControl} (ha : a.DrivesBySpeed)
    (hthrottle : IsZero manual.throttle) : Still (a.allocate manual).1 := by
  unfold allocate
  simp only
  split
  · exact still_default
  · rename_i hvalid
    have hyaw : manual.yaw.isFinite = true := by
      simp only [allocateHeader, Bool.not_eq_true', Bool.not_eq_false, Bool.and_eq_true] at hvalid
      exact hvalid.2
    split
    · rename_i out hloop
      -- the invariant of the row loop: the count stays, and no row has driven a motor
      have hinv : out.1.count = motorCount a.effectiveness ∧ Still out.1 := by
        refine forRange?_invariant
          (fun _ out => out.1.count = motorCount a.effectiveness ∧ Still out.1) ?_ ?_ hloop
        · exact ⟨rfl, still_default⟩
        · rintro i u v - ⟨hcount, hstill⟩ hrow
          exact ⟨(allocateRow_header hrow).2.trans hcount,
            allocateRow_still ha hthrottle hyaw hcount hstill hrow⟩
      exact hinv.2
    · exact still_default

end Allocation

/-! ## The dual magnetic wheel drives by speed -/

namespace Allocation

theorem drivesBySpeed_of_matrix {e : ActuatorEffectivenessDualMagneticWheel} {m : AllocationMatrix}
    (h : e.getAllocationMatrix = some m) :
    ∀ row, row < 2 → (m.entry row 0).isFinite = true ∧ IsZero (m.entry row 1) := by
  unfold ActuatorEffectivenessDualMagneticWheel.getAllocationMatrix at h
  split at h
  · rename_i hall
    cases h
    rw [List.all_eq_true] at hall
    intro row hrow
    have hfin := hall row (List.mem_range.mpr (by omega))
    rw [Bool.and_eq_true] at hfin
    refine ⟨hfin.1, ?_⟩
    obtain rfl | rfl : row = 0 ∨ row = 1 := by omega
    · exact isZero_zero
    · exact isZero_zero
  · cases h

/-- Loading keeps the matrix of the dual magnetic wheel in shape, also when it fails. -/
theorem updateParameters_drivesBySpeed (params : ParamTable)
    {a : Allocation ActuatorEffectivenessDualMagneticWheel} (h : a.DrivesBySpeed) :
    (a.updateParameters params).2.DrivesBySpeed := by
  unfold updateParameters
  simp only
  split
  · split
    · rename_i m hm
      exact drivesBySpeed_of_matrix hm
    · exact h
  · exact h

theorem drivesBySpeed_initial (e : ActuatorEffectivenessDualMagneticWheel) :
    ({ effectiveness := e } : Allocation ActuatorEffectivenessDualMagneticWheel).DrivesBySpeed := by
  intro row hrow
  obtain rfl | rfl : row = 0 ∨ row = 1 := by
    have : row < 2 := hrow
    omega
  · exact ⟨zero_isFinite, isZero_zero⟩
  · exact ⟨zero_isFinite, isZero_zero⟩

end Allocation

end DualMagneticWheel
