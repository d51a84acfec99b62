/-
# DualMagneticWheel.Output.MixingOutput — the last stage before a driver

`MixingOutput` maps the logical motor and servo messages to the physical channels of one driver and
decides, on every update, between three calls: none, a stop, or an output array. It owns the sentinels
`stopped`, `lastOutput` and `dataFaultSince`.

The driver is a parameter. `OutputInterface D` is the virtual function it implements, with the caller
passed along because a driver asks its `MixingOutput` which channels are assigned. `Recorded D` wraps
any driver and keeps every call with its reply, so that statements about "what the driver was told" are
statements about a list. `update_cases` is the inversion lemma of the module: everything one update can
do, with the tests that led there.
-/
import DualMagneticWheel.Orb.Topic
import DualMagneticWheel.Params.Table
import DualMagneticWheel.Foundation.Stamp
import DualMagneticWheel.Foundation.Loop

namespace DualMagneticWheel

open Foundation

/-! ## Output functions -/

/-- `OutputFunction`: a C++ enumeration over `uint16_t`, so every 16-bit number is a value of it. -/
structure OutputFunction where
  value : UInt16
  deriving DecidableEq

namespace OutputFunction

def Disabled : OutputFunction := ⟨0⟩
def Motor1 : OutputFunction := ⟨101⟩
def MotorMax : OutputFunction := ⟨108⟩
def Servo1 : OutputFunction := ⟨201⟩
def ServoMax : OutputFunction := ⟨208⟩

/-- `static_cast<OutputFunction>` of a parameter value keeps the low 16 bits. -/
def ofInt32 (value : Int32) : OutputFunction := ⟨value.toUInt32.toUInt16⟩

end OutputFunction

def outputFunctionIsMotor (function : OutputFunction) : Bool :=
  decide (OutputFunction.Motor1.value ≤ function.value) &&
    decide (function.value ≤ OutputFunction.MotorMax.value)

def outputFunctionIsServo (function : OutputFunction) : Bool :=
  decide (OutputFunction.Servo1.value ≤ function.value) &&
    decide (function.value ≤ OutputFunction.ServoMax.value)

def outputFunctionIndex (function : OutputFunction) : UInt8 :=
  (function.value -
    if outputFunctionIsMotor function then OutputFunction.Motor1.value
    else OutputFunction.Servo1.value).toUInt8

/-! ## The state -/

/-- `TopicTimeoutUs`. -/
def TopicTimeoutUs : UInt64 := 500000
/-- `OutputPeriodUs`. -/
def OutputPeriodUs : UInt64 := 20000
/-- `NeutralBeforeDisableUs`. -/
def NeutralBeforeDisableUs : UInt64 := 500000

/-- The fields of class `MixingOutput`; the names are `none` for a null pointer. -/
structure MixingOutput where
  functionParamNames : Option (List CString)
  maxOutputs : Nat
  functionHandles : Vector (Option Nat) 8 := Vector.replicate 8 none
  functions : Vector OutputFunction 8 := Vector.replicate 8 .Disabled
  paramFailAction : ParamInt
  armedSubscription : Subscription := {}
  motorsSubscription : Subscription := {}
  servosSubscription : Subscription := {}
  armed : ActuatorArmed := {}
  motors : ActuatorMotors := {}
  servos : ActuatorServos := {}
  lastOutput : UInt64 := 0
  dataFaultSince : UInt64 := 0
  stopped : Bool := true

/-- `OutputInterface::updateOutputs`: a driver answers whether the call succeeded. The array is `none`
for a null pointer. -/
class OutputInterface (D : Type) where
  updateOutputs (caller : MixingOutput) (stopOutputs : Bool) (outputs : Option (Vector Float32 8))
    (count : UInt8) (now : UInt64) (driver : D) : Bool × D

namespace MixingOutput

/-! ## Parameters -/

/-- One turn of the channel loop of `updateParamsImpl`; the flag collects the result. -/
def refreshChannel (params : ParamTable) (s : Bool × MixingOutput) (channel : Nat) :
    Bool × MixingOutput :=
  let (valid, m) := s
  let handle :=
    match m.functionHandles.getD channel none, m.functionParamNames with
    | none, some names => params.find (names.getD channel [])
    | handle, _ => handle
  let m := { m with functionHandles := m.functionHandles.setIfInBounds channel handle }
  match params.getInt handle with
  | none => (false, { m with functions := m.functions.setIfInBounds channel .Disabled })
  | some value =>
      let function := OutputFunction.ofInt32 value
      if function ≠ .Disabled ∧ ¬ outputFunctionIsMotor function ∧
          ¬ outputFunctionIsServo function then
        (false, { m with functions := m.functions.setIfInBounds channel .Disabled })
      else (valid, { m with functions := m.functions.setIfInBounds channel function })

/-- `MixingOutput::updateParamsImpl`: unknown and unreadable functions become `Disabled`. -/
def updateParamsImpl (params : ParamTable) (m : MixingOutput) : Bool × MixingOutput :=
  forRange m.maxOutputs (refreshChannel params) (m.functionParamNames.isSome, m)

/-- `ModuleParams::updateParams` of this node. -/
def updateParams (params : ParamTable) (m : MixingOutput) : Bool × MixingOutput :=
  let (v₁, failAction) := m.paramFailAction.update params
  let (v₂, m) := updateParamsImpl params { m with paramFailAction := failAction }
  (v₂ && v₁, m)

/-- The constructor. -/
def construct (params : ParamTable) (functionParams : Option (List CString)) (maxOutputs : Nat) :
    MixingOutput :=
  (updateParamsImpl params
    { functionParamNames := functionParams
      maxOutputs := if maxOutputs ≤ 8 then maxOutputs else 8
      paramFailAction := Param.construct params (cstr "OUT_FAIL_ACT") 2 }).2

/-- A parameter reload writes handles, functions and the policy, and nothing else. -/
theorem refreshChannel_frame (params : ParamTable) (s : Bool × MixingOutput) (channel : Nat) :
    ∃ functionHandles functions,
      (refreshChannel params s channel).2 = { s.2 with functionHandles, functions } := by
  unfold refreshChannel
  simp only
  split
  · exact ⟨_, _, rfl⟩
  · split <;> exact ⟨_, _, rfl⟩

theorem updateParamsImpl_frame (params : ParamTable) (m : MixingOutput) :
    ∃ functionHandles functions,
      (updateParamsImpl params m).2 = { m with functionHandles, functions } := by
  refine forRange_invariant (fun _ (s : Bool × MixingOutput) =>
    ∃ functionHandles functions, s.2 = { m with functionHandles, functions }) ⟨_, _, rfl⟩ ?_
  rintro i s - ⟨handles, functions, hs⟩
  obtain ⟨handles', functions', hs'⟩ := refreshChannel_frame params s i
  exact ⟨handles', functions', by rw [hs', hs]⟩

theorem updateParams_frame (params : ParamTable) (m : MixingOutput) :
    ∃ paramFailAction functionHandles functions,
      (m.updateParams params).2 = { m with paramFailAction, functionHandles, functions } := by
  obtain ⟨handles, functions, h⟩ := updateParamsImpl_frame params
    { m with paramFailAction := (m.paramFailAction.update params).2 }
  exact ⟨_, handles, functions, h⟩

/-- A new module has no message yet, and its sentinels are at rest. -/
theorem construct_frame (params : ParamTable) (functionParams : Option (List CString))
    (maxOutputs : Nat) :
    ∃ maxOutputs' functionHandles functions paramFailAction,
      construct params functionParams maxOutputs =
        { functionParamNames := functionParams, maxOutputs := maxOutputs', functionHandles,
          functions, paramFailAction } := by
  obtain ⟨handles, functions, h⟩ := updateParamsImpl_frame params
    { functionParamNames := functionParams
      maxOutputs := if maxOutputs ≤ 8 then maxOutputs else 8
      paramFailAction := Param.construct params (cstr "OUT_FAIL_ACT") 2 }
  exact ⟨_, handles, functions, _, h⟩

/-! ## The update -/

/-- `MixingOutput::fresh`. -/
def fresh (timestamp now : UInt64) : Bool := freshWithin TopicTimeoutUs timestamp now

/-- `MixingOutput::constrainUnit`. -/
def constrainUnit (value : Float32) : Float32 := saturate (-1) 1 value

/-- `MixingOutput::isFunctionSet`. -/
def isFunctionSet (m : MixingOutput) (channel : Nat) : Bool :=
  decide (channel < m.maxOutputs) && m.functions.getD channel .Disabled != .Disabled

/-- `MixingOutput::function`. -/
def function (m : MixingOutput) (channel : Nat) : OutputFunction :=
  if channel < m.maxOutputs then m.functions.getD channel .Disabled else .Disabled

/-- `MixingOutput::hasAssignedFunctions`. -/
def hasAssignedFunctions (m : MixingOutput) : Bool :=
  (List.range m.maxOutputs).any m.isFunctionSet

/-- The message a channel takes its control from. -/
def source (m : MixingOutput) (function : OutputFunction) : ActuatorControls :=
  if outputFunctionIsMotor function then m.motors else m.servos

/-- The last loop of `sourceDataValid`, for one channel. -/
def channelDataValid (m : MixingOutput) (channel : Nat) : Bool :=
  let assigned := m.functions.getD channel .Disabled
  if assigned = .Disabled then true
  else
    let index := outputFunctionIndex assigned
    decide (index < (m.source assigned).count) && decide (index.toNat < 8) &&
      ((m.source assigned).control.getD index.toNat 0).isFinite

/-- `MixingOutput::sourceDataValid`. -/
def sourceDataValid (m : MixingOutput) (now : UInt64) : Bool :=
  let channels := List.range m.maxOutputs
  let needsMotors := channels.any fun c => outputFunctionIsMotor (m.functions.getD c .Disabled)
  let needsServos := channels.any fun c => outputFunctionIsServo (m.functions.getD c .Disabled)
  if needsMotors && (!m.motors.valid || !fresh m.motors.timestamp now) then false
  else if needsServos && (!m.servos.valid || !fresh m.servos.timestamp now) then false
  else channels.all m.channelDataValid

/-- What `fillPhysicalOutputs` stores for one channel. -/
def channelOutput (m : MixingOutput) (channel : Nat) : Float32 :=
  let assigned := m.functions.getD channel .Disabled
  if assigned = .Disabled then 0
  else constrainUnit ((m.source assigned).control.getD (outputFunctionIndex assigned).toNat 0)

/-- `MixingOutput::fillPhysicalOutputs`; it fails on a null array only. -/
def fillPhysicalOutputs (m : MixingOutput) (outputs : Option (Vector Float32 8)) :
    Option (Vector Float32 8) :=
  outputs.map (forRange m.maxOutputs fun array c => array.setIfInBounds c (m.channelOutput c))

variable {D : Type} [OutputInterface D]

open OutputInterface

/-- `MixingOutput::stopOutputs`. -/
def stopOutputs (now : UInt64) (m : MixingOutput) (driver : D) : Bool × MixingOutput × D :=
  let (stopped, driver) := updateOutputs m true none 0 now driver
  (stopped, { m with stopped, lastOutput := now }, driver)

/-- The three readings of `update`. -/
structure Readings where
  armChanged : Bool
  motorsChanged : Bool
  servosChanged : Bool
  output : MixingOutput

/-- The readings at the head of `update`. -/
def readTopics (bus : Topics) (m : MixingOutput) : Readings :=
  let armed := m.armedSubscription.update bus.actuatorArmed m.armed
  let motors := m.motorsSubscription.update bus.actuatorMotors m.motors
  let servos := m.servosSubscription.update bus.actuatorServos m.servos
  { armChanged := armed.updated, motorsChanged := motors.updated, servosChanged := servos.updated
    output :=
      { m with
        armedSubscription := armed.subscription, armed := armed.message
        motorsSubscription := motors.subscription, motors := motors.message
        servosSubscription := servos.subscription, servos := servos.message } }

/-- The arming half of the gate: a stale, unarmed or locked arming state. -/
def disarm (m : MixingOutput) (now : UInt64) : Bool :=
  !m.armed.armed || m.armed.lockdown || !fresh m.armed.timestamp now

/-- The bookkeeping of `_dataFaultSince`. -/
def trackFault (m : MixingOutput) (dataFault : Bool) (now : UInt64) : MixingOutput :=
  let m := if dataFault && m.dataFaultSince == 0 then { m with dataFaultSince := now } else m
  if !dataFault then { m with dataFaultSince := 0 } else m

/-- The configured action, `0` when out of range. -/
def faultAction (m : MixingOutput) : Int32 :=
  let configuredAction := m.paramFailAction.value
  if 0 ≤ configuredAction ∧ configuredAction ≤ 2 then configuredAction else 0

/-- `MixingOutput::update`; `arg = 0` reads the clock. -/
def update (clock arg : UInt64) (bus : Topics) (m : MixingOutput) (driver : D) :
    Bool × MixingOutput × D :=
  let ⟨armChanged, motorsChanged, servosChanged, m⟩ := m.readTopics bus
  let now := effectiveNow clock arg
  if m.disarm now || !m.hasAssignedFunctions then
    let m := { m with dataFaultSince := 0 }
    if m.stopped && !armChanged && m.lastOutput != 0 &&
        decide (now - m.lastOutput < OutputPeriodUs) then (true, m, driver)
    else m.stopOutputs now driver
  else
    let dataFault := !m.sourceDataValid now
    let m := m.trackFault dataFault now
    if dataFault && (m.faultAction == 0 ||
        (m.faultAction == 2 && decide (NeutralBeforeDisableUs ≤ now - m.dataFaultSince))) then
      m.stopOutputs now driver
    else if !armChanged && !motorsChanged && !servosChanged && !m.stopped &&
        m.lastOutput != 0 && decide (now - m.lastOutput < OutputPeriodUs) then
      (true, m, driver)
    else
      let zeros := Vector.replicate 8 0
      match if dataFault then some zeros else m.fillPhysicalOutputs (some zeros) with
      | none => m.stopOutputs now driver
      | some outputs =>
          let (accepted, driver) :=
            updateOutputs m false (some outputs) (UInt8.ofNat m.maxOutputs) now driver
          if !accepted then
            let (_, m, driver) := m.stopOutputs now driver
            (false, m, driver)
          else (true, { m with stopped := false, lastOutput := now }, driver)

/-! ## Everything one update can do -/

/-- The gate: armed, not in lockdown, recently stamped, and some channel is assigned. -/
def gateOpen (m : MixingOutput) (now : UInt64) : Bool := !(m.disarm now || !m.hasAssignedFunctions)

/-- The fault bookkeeping aside, the state is untouched. -/
def withFaultSince (m : MixingOutput) (since : UInt64) : MixingOutput :=
  { m with dataFaultSince := since }

theorem trackFault_eq (m : MixingOutput) (dataFault : Bool) (now : UInt64) :
    ∃ since, m.trackFault dataFault now = m.withFaultSince since := by
  unfold trackFault
  cases dataFault with
  | false => exact ⟨0, by simp [withFaultSince]⟩
  | true =>
      by_cases h : m.dataFaultSince = 0
      · exact ⟨now, by simp [withFaultSince, h]⟩
      · exact ⟨m.dataFaultSince, by simp [withFaultSince, h]⟩

/-- The arrays an update may pass: zeros, or the controls of valid source data. -/
inductive Passes (m : MixingOutput) (now : UInt64) : Vector Float32 8 → Prop
  | zeros : Passes m now (Vector.replicate 8 0)
  | controls {outputs : Vector Float32 8} : m.sourceDataValid now = true →
      m.fillPhysicalOutputs (some (Vector.replicate 8 0)) = some outputs → Passes m now outputs

/-- What an update leaves behind, for the readings `m` and the time `now`. -/
inductive Effect (m : MixingOutput) (now : UInt64) (driver : D) : MixingOutput × D → Prop
  /-- No call, because the previous one is recent and said the right thing. -/
  | quiet (since : UInt64) : m.lastOutput ≠ 0 → m.stopped = !m.gateOpen now →
      Effect m now driver (m.withFaultSince since, driver)
  /-- A stop: the gate is closed, or the data is bad and the policy says so. -/
  | stop (since : UInt64) :
      Effect m now driver ((m.withFaultSince since).stopOutputs now driver).2
  /-- An output array that the driver took. -/
  | drive (since : UInt64) {outputs : Vector Float32 8} {driver' : D} :
      m.gateOpen now = true → m.Passes now outputs →
      updateOutputs (m.withFaultSince since) false (some outputs) (UInt8.ofNat m.maxOutputs) now
        driver = (true, driver') →
      Effect m now driver
        ({ m.withFaultSince since with stopped := false, lastOutput := now }, driver')
  /-- An output array that the driver refused, followed by a stop. -/
  | refused (since : UInt64) {outputs : Vector Float32 8} {driver' : D} :
      m.gateOpen now = true → m.Passes now outputs →
      updateOutputs (m.withFaultSince since) false (some outputs) (UInt8.ofNat m.maxOutputs) now
        driver = (false, driver') →
      Effect m now driver ((m.withFaultSince since).stopOutputs now driver').2

theorem update_effect (clock arg : UInt64) (bus : Topics) (m : MixingOutput) (driver : D) :
    Effect (m.readTopics bus).output (effectiveNow clock arg) driver
      (m.update clock arg bus driver).2 := by
  unfold update
  rcases m.readTopics bus with ⟨armChanged, motorsChanged, servosChanged, r⟩
  simp only
  generalize effectiveNow clock arg = now
  by_cases hclosed : (r.disarm now || !r.hasAssignedFunctions) = true
  · -- the gate is shut: a stop, unless the driver was stopped already
    have hgate : r.gateOpen now = false := by simp [gateOpen, hclosed]
    rw [if_pos hclosed]
    split
    · rename_i hquiet
      simp only [Bool.and_eq_true, bne_iff_ne] at hquiet
      exact Effect.quiet 0 hquiet.1.2 (by rw [hgate, hquiet.1.1.1]; rfl)
    · exact Effect.stop 0
  · have hgate : r.gateOpen now = true := by
      simpa [gateOpen] using hclosed
    rw [if_neg hclosed]
    -- the gate is open, and the state of the fault is brought up to date
    obtain ⟨since, hsince⟩ := r.trackFault_eq (!r.sourceDataValid now) now
    rw [hsince]
    split
    · exact Effect.stop since
    · split
      · rename_i hquiet
        simp only [Bool.and_eq_true, Bool.not_eq_true', bne_iff_ne] at hquiet
        exact Effect.quiet since hquiet.1.2 (by rw [hgate]; exact hquiet.1.1.2)
      · -- the array is zero in a fault and filled from the messages otherwise
        have hpasses : ∀ outputs,
            (if (!r.sourceDataValid now) = true then some (Vector.replicate 8 0)
              else (r.withFaultSince since).fillPhysicalOutputs (some (Vector.replicate 8 0))) =
                some outputs → r.Passes now outputs := by
          intro outputs h
          split at h
          · cases h
            exact .zeros
          · rename_i hvalid
            exact .controls (by simpa using hvalid) h
        split
        · exact Effect.stop since
        · rename_i outputs houtputs
          have hpass := hpasses outputs houtputs
          have hcount : (r.withFaultSince since).maxOutputs = r.maxOutputs := rfl
          rcases hcall : updateOutputs (r.withFaultSince since) false (some outputs)
            (UInt8.ofNat r.maxOutputs) now driver with ⟨_ | _, driver'⟩
          · simp only [hcount, hcall]
            exact Effect.refused since hgate hpass hcall
          · simp only [hcount, hcall]
            exact Effect.drive since hgate hpass hcall

/-! ## What is passed to the driver -/

/-- The three tests of `sourceDataValid`, channel by channel. -/
theorem sourceDataValid_iff (m : MixingOutput) (now : UInt64) :
    m.sourceDataValid now = true ↔
      (∀ c < m.maxOutputs, outputFunctionIsMotor (m.functions.getD c .Disabled) = true →
        m.motors.valid = true ∧ fresh m.motors.timestamp now = true) ∧
      (∀ c < m.maxOutputs, outputFunctionIsServo (m.functions.getD c .Disabled) = true →
        m.servos.valid = true ∧ fresh m.servos.timestamp now = true) ∧
      ∀ c < m.maxOutputs, m.channelDataValid c = true := by
  have hneeds : ∀ (p : Nat → Bool) (ok : Bool),
      ((List.range m.maxOutputs).any p && !ok) = false ↔
        ∀ c < m.maxOutputs, p c = true → ok = true := by
    intro p ok
    cases ok <;> simp [List.any_eq_false]
  have hmotors := hneeds (fun c => outputFunctionIsMotor (m.functions.getD c .Disabled))
    (m.motors.valid && fresh m.motors.timestamp now)
  have hservos := hneeds (fun c => outputFunctionIsServo (m.functions.getD c .Disabled))
    (m.servos.valid && fresh m.servos.timestamp now)
  simp only [Bool.and_eq_true, Bool.not_and] at hmotors hservos
  rw [← hmotors, ← hservos]
  unfold sourceDataValid
  simp only
  split
  · rename_i h
    simp [h]
  · rename_i h
    split
    · rename_i h'
      simp [h']
    · rename_i h'
      simp only [Bool.not_eq_true] at h h'
      simp [h, h', List.all_eq_true]

/-- The filled array, read at any channel. -/
theorem fillPhysicalOutputs_getD {m : MixingOutput} {outputs : Vector Float32 8}
    (h : m.fillPhysicalOutputs (some (Vector.replicate 8 0)) = some outputs) (channel : Nat) :
    outputs.getD channel 0 =
      if channel < m.maxOutputs ∧ channel < 8 then m.channelOutput channel else 0 := by
  simp only [fillPhysicalOutputs, Option.map_some, Option.some_inj] at h
  subst h
  refine forRange_invariant (fun i (array : Vector Float32 8) => array.getD channel 0 =
    if channel < i ∧ channel < 8 then m.channelOutput channel else 0) ?_ ?_
  · rw [getD_replicate]
    simp
  · intro i array _ hi
    rw [getD_setIfInBounds, hi]
    by_cases hc : i = channel
    · subst hc
      by_cases h8 : i < 8 <;> simp [h8]
    · have : channel < i + 1 ↔ channel < i := by omega
      simp [hc, this]

/-- With valid source data every channel output is finite and within the unit interval. -/
theorem channelOutput_bounds {m : MixingOutput} {channel : Nat}
    (h : m.channelDataValid channel = true) :
    (m.channelOutput channel).isFinite = true ∧
      Float32.le (-1) (m.channelOutput channel) = true ∧
      Float32.le (m.channelOutput channel) 1 = true := by
  unfold channelDataValid at h
  unfold channelOutput
  simp only at h ⊢
  split
  · exact ⟨zero_isFinite, by decide, by decide⟩
  · rename_i hassigned
    rw [if_neg hassigned] at h
    simp only [Bool.and_eq_true] at h
    exact saturate_unit_bounds h.2

theorem Passes.bounds {m : MixingOutput} {now : UInt64} {outputs : Vector Float32 8}
    (h : m.Passes now outputs) (channel : Nat) :
    (outputs.getD channel 0).isFinite = true ∧
      Float32.le (-1) (outputs.getD channel 0) = true ∧
      Float32.le (outputs.getD channel 0) 1 = true := by
  cases h with
  | zeros =>
      rw [getD_replicate]
      exact ⟨zero_isFinite, by decide, by decide⟩
  | controls hvalid hfill =>
      rw [fillPhysicalOutputs_getD hfill]
      split
      · rename_i hchannel
        exact channelOutput_bounds (((sourceDataValid_iff m now).mp hvalid).2.2 _ hchannel.1)
      · exact ⟨zero_isFinite, by decide, by decide⟩

/-- A channel without function is passed a zero. -/
theorem Passes.disabled {m : MixingOutput} {now : UInt64} {outputs : Vector Float32 8}
    (h : m.Passes now outputs) {channel : Nat}
    (hdisabled : m.functions.getD channel .Disabled = .Disabled) :
    outputs.getD channel 0 = 0 := by
  cases h with
  | zeros => exact getD_replicate 8 channel 0
  | controls _ hfill =>
      rw [fillPhysicalOutputs_getD hfill]
      split
      · rw [channelOutput]
        exact if_pos hdisabled
      · rfl

/-- A value that is not zero was taken from valid source data. -/
theorem Passes.moving {m : MixingOutput} {now : UInt64} {outputs : Vector Float32 8}
    (h : m.Passes now outputs) {channel : Nat} (hmove : ¬ IsZero (outputs.getD channel 0)) :
    channel < m.maxOutputs ∧ m.sourceDataValid now = true ∧
      ¬ IsZero (m.channelOutput channel) := by
  cases h with
  | zeros =>
      rw [getD_replicate] at hmove
      exact absurd isZero_zero hmove
  | controls hvalid hfill =>
      rw [fillPhysicalOutputs_getD hfill] at hmove
      split at hmove
      · rename_i hchannel
        exact ⟨hchannel.1, hvalid, hmove⟩
      · exact absurd isZero_zero hmove

end MixingOutput

/-! ## A driver with a memory -/

/-- One call of a driver with its reply and the channel functions at that moment. -/
structure DriverCall where
  functions : Vector OutputFunction 8
  stopOutputs : Bool
  outputs : Option (Vector Float32 8)
  count : UInt8
  now : UInt64
  reply : Bool

/-- The value passed for a channel. -/
def DriverCall.value (c : DriverCall) (channel : Nat) : Float32 :=
  (c.outputs.getD (Vector.replicate 8 0)).getD channel 0

/-- A driver together with the calls it has received, newest first. -/
structure Recorded (D : Type) where
  device : D
  calls : List DriverCall := []

instance {D : Type} [OutputInterface D] : OutputInterface (Recorded D) where
  updateOutputs caller stopOutputs outputs count now driver :=
    let (reply, device) :=
      OutputInterface.updateOutputs caller stopOutputs outputs count now driver.device
    (reply, ⟨device, ⟨caller.functions, stopOutputs, outputs, count, now, reply⟩ :: driver.calls⟩)

/-- A driver that answers from a script and accepts everything afterwards. -/
structure ScriptedDriver where
  replies : List Bool := []

instance : OutputInterface ScriptedDriver where
  updateOutputs _ _ _ _ _ driver := (driver.replies.headD true, ⟨driver.replies.tail⟩)

/-- A call is recorded with its reply. -/
theorem Recorded.calls_of_call {D : Type} [OutputInterface D] {caller : MixingOutput}
    {stopOutputs reply : Bool} {outputs : Option (Vector Float32 8)} {count : UInt8} {now : UInt64}
    {driver driver' : Recorded D}
    (h : OutputInterface.updateOutputs caller stopOutputs outputs count now driver =
      (reply, driver')) :
    driver'.calls = ⟨caller.functions, stopOutputs, outputs, count, now, reply⟩ :: driver.calls := by
  obtain ⟨hreply, hdriver⟩ := Prod.mk.inj h
  rw [← hdriver, ← hreply]

namespace MixingOutput

variable {D : Type} [OutputInterface D]

/-- A stop appends one call, and the flag is its reply. -/
theorem stopOutputs_calls (m : MixingOutput) (now : UInt64) (driver : Recorded D) :
    (m.stopOutputs now driver).2.2.calls =
      ⟨m.functions, true, none, 0, now, (m.stopOutputs now driver).2.1.stopped⟩ ::
        driver.calls := rfl

/-- The new calls of one update: at most an output array under the gate's conditions, then at most a
stop. -/
theorem Effect.newCalls {m : MixingOutput} {now : UInt64} {driver : Recorded D}
    {out : MixingOutput × Recorded D} (h : m.Effect now driver out) :
    ∃ new, out.2.calls = new ++ driver.calls ∧ ∀ c ∈ new, c.now = now ∧ c.functions = m.functions ∧
      (c.stopOutputs = false → m.gateOpen now = true ∧
        ∃ outputs, c.outputs = some outputs ∧ m.Passes now outputs) := by
  cases h with
  | quiet since _ _ => exact ⟨[], rfl, by simp⟩
  | stop since =>
      refine ⟨[_], stopOutputs_calls _ now driver, ?_⟩
      intro c hc
      rw [List.mem_singleton] at hc
      subst hc
      exact ⟨rfl, rfl, by simp⟩
  | drive since hgate hpass hcall =>
      refine ⟨[_], Recorded.calls_of_call hcall, ?_⟩
      intro c hc
      rw [List.mem_singleton] at hc
      subst hc
      exact ⟨rfl, rfl, fun _ => ⟨hgate, _, rfl, hpass⟩⟩
  | refused since hgate hpass hcall =>
      refine ⟨[_, _], (stopOutputs_calls _ now _).trans
        (congrArg (List.cons _) (Recorded.calls_of_call hcall)), ?_⟩
      intro c hc
      simp only [List.mem_cons, List.not_mem_nil, or_false] at hc
      rcases hc with rfl | rfl
      · exact ⟨rfl, rfl, by simp⟩
      · exact ⟨rfl, rfl, fun _ => ⟨hgate, _, rfl, hpass⟩⟩

/-- After the readings an update changes the three sentinels only. -/
theorem Effect.frame {m : MixingOutput} {now : UInt64} {driver : D} {out : MixingOutput × D}
    (h : m.Effect now driver out) : ∃ since stopped lastOutput,
      out.1 = { m with dataFaultSince := since, stopped, lastOutput } := by
  cases h <;> exact ⟨_, _, _, rfl⟩

end MixingOutput

end DualMagneticWheel
