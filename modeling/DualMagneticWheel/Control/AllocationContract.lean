/-
# DualMagneticWheel.Control.AllocationContract — what one call of `allocate` promises its readers

The row loop writes motors first and servos behind them, and ends early when a product overflows.
`allocate_filled` is its result as a whole: the header, every control below the counts, zeros beyond.

Over it stands the history of an `Allocation`: every refresh with the matrix it loaded, while the
configuration object may change on its own. `AllocationRun.contract` ties a valid pair of messages to the
newest entry of that history.
-/
import DualMagneticWheel.Control.Allocation
import DualMagneticWheel.Foundation.Bits
import DualMagneticWheel.Foundation.Transition

namespace DualMagneticWheel

open Foundation

namespace Allocation

variable {E : Type} [ActuatorEffectiveness E]

open ActuatorEffectiveness

/-! ## The row loop -/

/-- A motor's control: the clamped product, raised to zero where the wheel must not turn back. -/
def motorControl (a : Allocation E) (manual : ManualControl) (motor : Nat) : Float32 :=
  let value := saturate (-1) 1
    (a.matrix.entry motor 0 * manual.throttle + a.matrix.entry motor 1 * manual.yaw)
  if (reversibleMotorMask a.effectiveness).toNat.testBit motor = false ∧ value.lt 0 then 0 else value

/-- A servo's control; its row stands behind the rows of all motors. -/
def servoControl (a : Allocation E) (manual : ManualControl) (servo : Nat) : Float32 :=
  let row := (motorCount a.effectiveness).toNat + servo
  saturate (-1) 1 (a.matrix.entry row 0 * manual.throttle + a.matrix.entry row 1 * manual.yaw)

theorem limitReverse_eq (a : Allocation E) (manual : ManualControl) {row : Nat} (h : row < 32) :
    a.limitReverse row (constrainUnit (a.rowResult manual row)) = a.motorControl manual row := by
  have hshift : ((1 : UInt32) <<< UInt32.ofNat row).toNat = 2 ^ row := by
    have hrow : (UInt32.ofNat row).toNat % 32 = row := by
      rw [UInt32.toNat_ofNat']
      omega
    rw [UInt32.toNat_shiftLeft, hrow, UInt32.toNat_one, Nat.one_shiftLeft]
    exact Nat.mod_eq_of_lt (Nat.pow_lt_pow_right (by omega) h)
  have hmask : reversibleMotorMask a.effectiveness &&& ((1 : UInt32) <<< UInt32.ofNat row) = 0 ↔
      (reversibleMotorMask a.effectiveness).toNat.testBit row = false := by
    rw [← UInt32.toNat_inj, UInt32.toNat_and, hshift, ← Bool.not_eq_true,
      ← and_two_pow_ne_zero, not_not]
    rfl
  simp only [limitReverse, motorControl, constrainUnit, rowResult, hmask]

/-- The messages after the first `rows` turns of the loop. -/
structure Filled (a : Allocation E) (manual : ManualControl) (rows : Nat)
    (out : ActuatorMotors × ActuatorServos) : Prop where
  motorsValid : out.1.valid = true
  servosValid : out.2.valid = true
  motorCount : out.1.count = motorCount a.effectiveness
  servoCount : out.2.count = servoCount a.effectiveness
  finite : ∀ row < rows, (a.rowResult manual row).isFinite = true
  motors : ∀ i, out.1.control.getD i 0 =
    if i < rows ∧ i < out.1.count.toNat then a.motorControl manual i else 0
  servos : ∀ i, out.2.control.getD i 0 =
    if out.1.count.toNat + i < rows then a.servoControl manual i else 0

theorem Filled.turn {a : Allocation E} {manual : ManualControl} {row : Nat}
    {out out' : ActuatorMotors × ActuatorServos} (h : a.Filled manual row out)
    (hmotors : out.1.count.toNat ≤ 8) (hservos : out.2.count.toNat ≤ 8)
    (hrow : row < out.1.count.toNat + out.2.count.toNat)
    (hturn : a.allocateRow manual out row = some out') : a.Filled manual (row + 1) out' := by
  unfold allocateRow at hturn
  dsimp only at hturn
  split at hturn
  · cases hturn
  · rename_i hfinite
    have hfinite' : ∀ r < row + 1, (a.rowResult manual r).isFinite = true := by
      intro r hr
      by_cases hlast : r = row
      · rw [hlast]
        simpa using hfinite
      · exact h.finite r (by omega)
    split at hturn
    · -- a row below the motor count fills a motor and leaves the servos
      rename_i hmotor
      obtain rfl := Option.some_inj.mp hturn
      refine ⟨h.motorsValid, h.servosValid, h.motorCount, h.servoCount, hfinite', fun i => ?_,
        fun i => ?_⟩
      · show (out.1.control.setIfInBounds row _).getD i 0 =
          if i < row + 1 ∧ i < out.1.count.toNat then a.motorControl manual i else 0
        rw [getD_setIfInBounds, h.motors i]
        by_cases hi : row = i
        · subst hi
          rw [if_pos ⟨rfl, by omega⟩, if_pos ⟨by omega, hmotor⟩]
          exact limitReverse_eq a manual (by omega)
        · rw [if_neg fun hboth => hi hboth.1]
          have hiff : i < row + 1 ↔ i < row := by omega
          simp only [hiff]
      · show out.2.control.getD i 0 = if out.1.count.toNat + i < row + 1 then _ else 0
        rw [h.servos i, if_neg (by omega), if_neg (by omega)]
    · -- the later rows fill the servos, counted from the first of them
      rename_i hservo
      obtain rfl := Option.some_inj.mp hturn
      refine ⟨h.motorsValid, h.servosValid, h.motorCount, h.servoCount, hfinite', fun i => ?_,
        fun i => ?_⟩
      · show out.1.control.getD i 0 =
          if i < row + 1 ∧ i < out.1.count.toNat then a.motorControl manual i else 0
        rw [h.motors i]
        have hiff : (i < row + 1 ∧ i < out.1.count.toNat) ↔ (i < row ∧ i < out.1.count.toNat) := by
          omega
        simp only [hiff]
      · show (out.2.control.setIfInBounds (row - out.1.count.toNat) _).getD i 0 =
          if out.1.count.toNat + i < row + 1 then a.servoControl manual i else 0
        rw [getD_setIfInBounds, h.servos i]
        by_cases hi : row - out.1.count.toNat = i
        · rw [if_pos ⟨hi, by omega⟩, if_pos (by omega), servoControl, ← h.motorCount]
          have hindex : out.1.count.toNat + i = row := by omega
          rw [hindex]
          rfl
        · rw [if_neg fun hboth => hi hboth.1]
          have hiff : out.1.count.toNat + i < row + 1 ↔ out.1.count.toNat + i < row := by omega
          simp only [hiff]

theorem filled_header {a : Allocation E} {manual : ManualControl}
    (h : (a.allocateHeader manual).1.valid = true) :
    a.Filled manual 0 (a.allocateHeader manual) := by
  refine ⟨h, h, rfl, rfl, fun row hrow => absurd hrow (Nat.not_lt_zero row), fun i => ?_, fun i => ?_⟩
  · rw [if_neg fun hi => Nat.not_lt_zero i hi.1]
    exact getD_replicate 8 i 0
  · rw [if_neg (Nat.not_lt_zero _)]
    exact getD_replicate 8 i 0

/-- Every control of both messages is zero. -/
def AllZero (out : ActuatorMotors × ActuatorServos) : Prop :=
  ∀ i, out.1.control.getD i 0 = 0 ∧ out.2.control.getD i 0 = 0

theorem allZero_fresh {out : ActuatorMotors × ActuatorServos}
    (hmotors : out.1.control = Vector.replicate 8 0)
    (hservos : out.2.control = Vector.replicate 8 0) : AllZero out := by
  intro i
  rw [hmotors, hservos]
  exact ⟨getD_replicate 8 i 0, getD_replicate 8 i 0⟩

/-- Either all rows are filled in from a valid header, or both messages are invalid and zero. -/
theorem allocate_filled {a : Allocation E} (manual : ManualControl)
    (hmotors : (motorCount a.effectiveness).toNat ≤ 8)
    (hservos : (servoCount a.effectiveness).toNat ≤ 8) :
    ((a.allocateHeader manual).1.valid = true ∧ a.Filled manual
      ((motorCount a.effectiveness).toNat + (servoCount a.effectiveness).toNat) (a.allocate manual)) ∨
    ((a.allocate manual).1.valid = false ∧ (a.allocate manual).2.valid = false ∧
      AllZero (a.allocate manual)) := by
  unfold allocate
  dsimp only
  split
  · rename_i hinvalid
    rw [Bool.not_eq_true'] at hinvalid
    exact Or.inr ⟨hinvalid, hinvalid, allZero_fresh rfl rfl⟩
  · rename_i hvalid
    rw [Bool.not_eq_true', Bool.not_eq_false] at hvalid
    split
    · rename_i out hloop
      refine Or.inl ⟨hvalid, ?_⟩
      apply forRange?_invariant (fun row out => a.Filled manual row out) (filled_header hvalid) ?_ hloop
      intro row out out' hrow hfilled hturn
      apply hfilled.turn ?_ ?_ ?_ hturn
      · rw [hfilled.motorCount]
        exact hmotors
      · rw [hfilled.servoCount]
        exact hservos
      · rw [hfilled.motorCount, hfilled.servoCount]
        exact hrow
    · exact Or.inr ⟨rfl, rfl, allZero_fresh rfl rfl⟩

/-- A finite float between `-1` and `1`. -/
def Normalised (value : Float32) : Prop :=
  value.isFinite = true ∧ Float32.le (-1) value = true ∧ Float32.le value 1 = true

theorem normalised_zero : Normalised 0 := ⟨zero_isFinite, by decide, by decide⟩

theorem Filled.normalised {a : Allocation E} {manual : ManualControl} {rows : Nat}
    {out : ActuatorMotors × ActuatorServos} (h : a.Filled manual rows out) (i : Nat) :
    Normalised (out.1.control.getD i 0) ∧ Normalised (out.2.control.getD i 0) := by
  constructor
  · rw [h.motors i]
    split
    · rename_i hi
      unfold motorControl
      dsimp only
      split
      · exact normalised_zero
      · exact saturate_unit_bounds (h.finite i hi.1)
    · exact normalised_zero
  · rw [h.servos i]
    split
    · rename_i hi
      rw [h.motorCount] at hi
      exact saturate_unit_bounds (h.finite _ hi)
    · exact normalised_zero

/-- A refresh succeeds with the matrix of the refreshed configuration, or keeps the old one and marks it
invalid. -/
theorem updateParameters_cases (params : ParamTable) (a : Allocation E) :
    (∃ matrix, a.updateParameters params = (true,
        { effectiveness := (updateParams params a.effectiveness).2, matrix, valid := true }) ∧
        getAllocationMatrix (updateParams params a.effectiveness).2 = some matrix) ∨
      a.updateParameters params =
        (false, { a with effectiveness := (updateParams params a.effectiveness).2, valid := false }) := by
  unfold updateParameters
  dsimp only
  split
  · split
    · rename_i matrix hmatrix
      exact Or.inl ⟨matrix, rfl, hmatrix⟩
    · exact Or.inr rfl
  · exact Or.inr rfl

end Allocation

/-! ## The history of an allocation -/

/-- An allocation with its refreshes, newest first: the matrix that was loaded, `none` for a failure. -/
structure AllocationRun (E : Type) where
  allocation : Allocation E
  loads : List (Option AllocationMatrix) := []

/-- What happens to an allocation; the configuration it refers to may change without its doing. -/
inductive AllocationEvent (E : Type) where
  | updateParameters (params : ParamTable)
  | changed (effectiveness : E)

namespace AllocationRun

variable {E : Type} [ActuatorEffectiveness E]

open ActuatorEffectiveness

def next (s : AllocationRun E) : AllocationEvent E → AllocationRun E
  | .updateParameters params =>
      let (loaded, allocation) := s.allocation.updateParameters params
      { allocation
        loads := (if loaded then getAllocationMatrix allocation.effectiveness else none) :: s.loads }
  | .changed effectiveness => { s with allocation := { s.allocation with effectiveness } }

/-- The constructor is a first refresh. -/
def Start (s : AllocationRun E) : Prop :=
  ∃ effectiveness params, s = next { allocation := { effectiveness } } (.updateParameters params)

/-- All histories. -/
def system (E : Type) [ActuatorEffectiveness E] : Transition (AllocationRun E) (AllocationEvent E) :=
  .ofFun Start next

/-- The stored matrix and the flag in terms of the history. -/
structure Remembers (s : AllocationRun E) : Prop where
  matrix : s.allocation.matrix = (s.loads.filterMap id).headD {}
  valid : s.allocation.valid = true → ∃ matrix rest, s.loads = some matrix :: rest

theorem Remembers.next {s : AllocationRun E} (h : s.Remembers) (e : AllocationEvent E) :
    (s.next e).Remembers := by
  cases e with
  | changed effectiveness => exact ⟨h.matrix, h.valid⟩
  | updateParameters params =>
      rcases s.allocation.updateParameters_cases params with ⟨matrix, hloaded, hmatrix⟩ | hfailed
      · have hnext : s.next (.updateParameters params) =
            { allocation :=
                { effectiveness := (updateParams params s.allocation.effectiveness).2, matrix
                  valid := true }
              loads := some matrix :: s.loads } := by
          rw [AllocationRun.next, hloaded]
          simp only [if_true, hmatrix]
        rw [hnext]
        exact ⟨rfl, fun _ => ⟨matrix, s.loads, rfl⟩⟩
      · have hnext : s.next (.updateParameters params) =
            { allocation := { s.allocation with
                effectiveness := (updateParams params s.allocation.effectiveness).2, valid := false }
              loads := none :: s.loads } := by
          rw [AllocationRun.next, hfailed]
          rfl
        rw [hnext]
        refine ⟨h.matrix, fun hvalid => ?_⟩
        cases hvalid

theorem reachable_remembers {s : AllocationRun E} (h : (system E).Reachable s) : s.Remembers := by
  refine h.invariant Remembers ?_ ?_
  · rintro s ⟨effectiveness, params, rfl⟩
    apply Remembers.next
    refine ⟨rfl, fun hvalid => ?_⟩
    cases hvalid
  · rintro s e t - hs rfl
    exact hs.next e

/-- What the readers of a pair of messages rely on. -/
structure Contract (s : AllocationRun E) (manual : ManualControl)
    (out : ActuatorMotors × ActuatorServos) : Prop where
  agree : out.2.valid = out.1.valid
  loaded : out.1.valid = true →
    ∃ matrix rest, s.loads = some matrix :: rest ∧ s.allocation.matrix = matrix
  input : out.1.valid = true →
    manual.valid = true ∧ manual.throttle.isFinite = true ∧ manual.yaw.isFinite = true
  counts : out.1.valid = true → out.1.count = motorCount s.allocation.effectiveness ∧
    out.2.count = servoCount s.allocation.effectiveness
  motors : out.1.valid = true → ∀ i, out.1.control.getD i 0 =
    if i < out.1.count.toNat then s.allocation.motorControl manual i else 0
  servos : out.1.valid = true → ∀ i, out.2.control.getD i 0 =
    if i < out.2.count.toNat then s.allocation.servoControl manual i else 0
  normalised : ∀ i, Allocation.Normalised (out.1.control.getD i 0) ∧
    Allocation.Normalised (out.2.control.getD i 0)
  invalid : out.1.valid = false → Allocation.AllZero out

/-- The output contract, after every sequence of refreshes: `allocate` keeps it for every input, and a
refresh that fails leaves the matrix alone and no input valid. -/
theorem contract {s : AllocationRun E} (h : (system E).Reachable s)
    (hmotors : (motorCount s.allocation.effectiveness).toNat ≤ 8)
    (hservos : (servoCount s.allocation.effectiveness).toNat ≤ 8) :
    (∀ manual, s.Contract manual (s.allocation.allocate manual)) ∧
      ∀ params, (s.allocation.updateParameters params).1 = false →
        (s.allocation.updateParameters params).2.matrix = s.allocation.matrix ∧
        ∀ manual, ((s.allocation.updateParameters params).2.allocate manual).1.valid = false := by
  have hs := reachable_remembers h
  constructor
  · intro manual
    rcases Allocation.allocate_filled manual hmotors hservos with
      ⟨hheader, hfilled⟩ | ⟨hmotorsInvalid, hservosInvalid, hzero⟩
    · simp only [Allocation.allocateHeader, Bool.and_eq_true] at hheader
      obtain ⟨⟨⟨hvalid, hmanual⟩, hthrottle⟩, hyaw⟩ := hheader
      refine ⟨hfilled.servosValid.trans hfilled.motorsValid.symm, fun _ => ?_,
        fun _ => ⟨hmanual, hthrottle, hyaw⟩, fun _ => ⟨hfilled.motorCount, hfilled.servoCount⟩,
        fun _ i => ?_, fun _ i => ?_, hfilled.normalised, fun hinvalid => ?_⟩
      · obtain ⟨matrix, rest, hloads⟩ := hs.valid hvalid
        refine ⟨matrix, rest, hloads, ?_⟩
        rw [hs.matrix, hloads]
        rfl
      · rw [hfilled.motors i]
        have hiff : (i < (motorCount s.allocation.effectiveness).toNat +
            (servoCount s.allocation.effectiveness).toNat ∧
            i < (s.allocation.allocate manual).1.count.toNat) ↔
              i < (s.allocation.allocate manual).1.count.toNat := by
          rw [hfilled.motorCount]
          omega
        simp only [hiff]
      · rw [hfilled.servos i]
        have hiff : (s.allocation.allocate manual).1.count.toNat + i <
            (motorCount s.allocation.effectiveness).toNat +
              (servoCount s.allocation.effectiveness).toNat ↔
              i < (s.allocation.allocate manual).2.count.toNat := by
          rw [hfilled.motorCount, hfilled.servoCount]
          omega
        simp only [hiff]
      · rw [hfilled.motorsValid] at hinvalid
        cases hinvalid
    · -- nothing valid was output, so all that is promised of valid outputs holds
      have hnever : ∀ {P : Prop}, (s.allocation.allocate manual).1.valid = true → P := by
        intro P hvalid
        rw [hmotorsInvalid] at hvalid
        cases hvalid
      refine ⟨hservosInvalid.trans hmotorsInvalid.symm, hnever, hnever, hnever, hnever, hnever,
        fun i => ?_, fun _ => hzero⟩
      rw [(hzero i).1, (hzero i).2]
      exact ⟨Allocation.normalised_zero, Allocation.normalised_zero⟩
  · intro params hfailed
    rcases s.allocation.updateParameters_cases params with ⟨matrix, hloaded, -⟩ | hcase
    · rw [hloaded] at hfailed
      cases hfailed
    · rw [hcase]
      refine ⟨rfl, fun manual => ?_⟩
      rfl

def dualWheelParams : ParamTable :=
  [(cstr "CA_THR_F", 1), (cstr "CA_THR_R", 1), (cstr "CA_YAW_F", 1), (cstr "CA_YAW_R", 0)].map
    fun p => ⟨p.1, .float, .ofReal p.2, .ofReal p.2⟩

/-- The dual magnetic wheel with its default coefficients, refreshed once. -/
def dualWheel : AllocationRun ActuatorEffectivenessDualMagneticWheel :=
  next { allocation := { effectiveness := .construct dualWheelParams } }
    (.updateParameters dualWheelParams)

theorem dualWheel_reachable :
    (system ActuatorEffectivenessDualMagneticWheel).Reachable dualWheel :=
  .start ⟨.construct dualWheelParams, dualWheelParams, rfl⟩

/-- A valid stick message leads to valid controls. -/
theorem contract_dualWheel :
    (dualWheel.allocation.allocate { throttle := 0.5, yaw := 0.25, valid := true }).1.valid = true ∧
      ∀ manual, dualWheel.Contract manual (dualWheel.allocation.allocate manual) :=
  ⟨by decide +kernel, (contract dualWheel_reachable (by decide) (by decide)).1⟩

end AllocationRun

end DualMagneticWheel
