/-
# DualMagneticWheel.System.Pipeline — from the receiver to the wheels, in any order

Four modules form the control chain: failsafe detector, robot control, control allocator and mixing
output. Each keeps a copy of the message before it and believes that copy for a limited time. The system
below takes their steps in any order and as rarely as it likes, restarts them, reloads parameters and
lets the sticks and the arming state be anything. Its clock does not run backwards.

The safety invariant says of every message and every copy along the chain that, if it would let the
wheels turn, a valid stick sample that the detector received vouches for it, with half a second of slack
more at every stage. At the driver that adds up to the timeout plus one and a half seconds.
-/
import DualMagneticWheel.Modules.Failsafe
import DualMagneticWheel.Modules.RobotControl
import DualMagneticWheel.Modules.ControlAllocator
import DualMagneticWheel.Output.MixingOutput
import DualMagneticWheel.Foundation.Transition

namespace DualMagneticWheel

open Foundation

variable {D : Type} [OutputInterface D]

/-! ## The system -/

/-- The modules of the chain that can be stopped and started. -/
inductive ChainModule where
  | failsafe
  | robotControl
  | controlAllocator
  | mixingOutput

/-- The chain, its topics and its driver. `received` is a history variable: the stick messages the
failsafe detector has read. -/
structure Pipeline (D : Type) where
  time : UInt64
  params : ParamTable
  bus : Topics
  failsafe : Failsafe
  robotControl : RobotControl
  controlAllocator : ControlAllocator ActuatorEffectivenessDualMagneticWheel
  mixingOutput : MixingOutput
  driver : Recorded D
  received : List ManualControl := []

/-- One step of the environment or of a module. An entry point that takes a time is given the reading
`clock` and its argument `arg`. -/
inductive ChainEvent where
  | publishManual (message : ManualControl)
  | publishArmed (message : ActuatorArmed)
  | setParams (params : ParamTable)
  | notifyParams (notice : ParameterUpdate)
  | updateFailsafe (clock arg : UInt64)
  | updateRobotControl (clock arg : UInt64)
  | runControlAllocator (clock : UInt64)
  | updateMixingOutput (clock arg : UInt64)
  | reloadMixingOutput
  | stop (node : ChainModule) (clock : UInt64)
  | start (node : ChainModule)

/-- The clock reading of an event, if it makes one. -/
def ChainEvent.now? : ChainEvent → Option UInt64
  | .updateFailsafe clock arg => some (effectiveNow clock arg)
  | .updateRobotControl clock arg => some (effectiveNow clock arg)
  | .runControlAllocator clock => some clock
  | .updateMixingOutput clock arg => some (effectiveNow clock arg)
  | .stop _ clock => some clock
  | _ => none

namespace Pipeline

/-- The message a stopping module leaves behind; a stopped output module publishes nothing. -/
def stopModule (clock : UInt64) (bus : Topics) : ChainModule → Topics
  | .failsafe => Failsafe.onWorkQueueStopped clock bus
  | .robotControl => RobotControl.onWorkQueueStopped clock bus
  | .controlAllocator => ControlAllocator.onWorkQueueStopped clock bus
  | .mixingOutput => bus

/-- A module that starts is constructed anew. -/
def startModule (s : Pipeline D) : ChainModule → Pipeline D
  | .failsafe => { s with failsafe := .construct s.params }
  | .robotControl => { s with robotControl := .construct s.params }
  | .controlAllocator =>
      { s with
        controlAllocator := .construct s.params s.controlAllocator.modelId (.construct s.params) }
  | .mixingOutput =>
      { s with
        mixingOutput :=
          .construct s.params s.mixingOutput.functionParamNames s.mixingOutput.maxOutputs }

/-- One event, leaving the clock aside. -/
def next (s : Pipeline D) : ChainEvent → Pipeline D
  | .publishManual message =>
      { s with bus := { s.bus with manualControl := s.bus.manualControl.publish message } }
  | .publishArmed message =>
      { s with bus := { s.bus with actuatorArmed := s.bus.actuatorArmed.publish message } }
  | .setParams params => { s with params }
  | .notifyParams notice =>
      { s with bus := { s.bus with parameterUpdate := s.bus.parameterUpdate.publish notice } }
  | .updateFailsafe clock arg =>
      let reading := s.failsafe.manualSubscription.update s.bus.manualControl s.failsafe.manual
      let (failsafe, bus) := s.failsafe.update s.params clock arg s.bus
      { s with
        failsafe, bus
        received := if reading.updated then reading.message :: s.received else s.received }
  | .updateRobotControl clock arg =>
      let (robotControl, bus) := s.robotControl.update s.params clock arg s.bus
      { s with robotControl, bus }
  | .runControlAllocator clock =>
      let (controlAllocator, bus) := s.controlAllocator.Run s.params clock s.bus
      { s with controlAllocator, bus }
  | .updateMixingOutput clock arg =>
      let (_, mixingOutput, driver) := s.mixingOutput.update clock arg s.bus s.driver
      { s with mixingOutput, driver }
  | .reloadMixingOutput => { s with mixingOutput := (s.mixingOutput.updateParams s.params).2 }
  | .stop node clock => { s with bus := stopModule clock s.bus node }
  | .start node => s.startModule node

/-- One event with the clock moved to its reading. -/
def tick (s : Pipeline D) (e : ChainEvent) : Pipeline D :=
  { s.next e with time := e.now?.getD s.time }

/-- The parameter assumption: the drive action is "neutral" and the RC timeout is `r`. -/
def Policy (r : Float32) (params : ParamTable) : Prop :=
  params.lookupInt (cstr "FS_MOT_ACT") = some 1 ∧ params.lookupFloat (cstr "FS_RC_TMO") = some r

/-- The clock does not run backwards, and parameters change within the policy and never their
definitions. -/
def Admits (r : Float32) (s : Pipeline D) (e : ChainEvent) : Prop :=
  (∀ now, e.now? = some now → s.time ≤ now) ∧
    ∀ params, e = .setParams params → s.params.SameShape params ∧ Policy r params

/-- All modules constructed under the policy, nothing published, the driver not called. -/
def Start (r : Float32) (s : Pipeline D) : Prop :=
  Policy r s.params ∧ s.bus = {} ∧ s.failsafe = .construct s.params ∧
    s.robotControl = .construct s.params ∧
    (∃ modelId, s.controlAllocator = .construct s.params modelId (.construct s.params)) ∧
    (∃ names maxOutputs, s.mixingOutput = .construct s.params names maxOutputs) ∧
    s.driver.calls = [] ∧ s.received = []

/-- All runs of the control chain under a policy. -/
def system (D : Type) [OutputInterface D] (r : Float32) : Transition (Pipeline D) ChainEvent :=
  (Transition.ofFun (Start r) tick).restrict (Admits r)

/-! ## The safety invariant -/

/-- The trusted instants: sample stamps of valid stick messages that the detector has read. -/
def Trusted (received : List ManualControl) (x : Nat) : Prop :=
  ∃ m ∈ received, m.valid = true ∧ m.timestampSample.toNat = x

/-- A status that reports the link as good. -/
def StatusBacked (received : List ManualControl) (T : Nat) (m : FailsafeStatus) : Prop :=
  m.active = false → Vouched (Trusted received) T m.timestamp.toNat

/-- A motion target that drives. -/
def SetpointBacked (received : List ManualControl) (T : Nat) (m : RobotControlSetpoint) : Prop :=
  m.valid = true → ¬ IsZero m.speed → Vouched (Trusted received) (T + 500000) m.timestamp.toNat

/-- A motor message that moves. -/
def MotorsBacked (received : List ManualControl) (T : Nat) (m : ActuatorMotors) : Prop :=
  m.valid = true → ¬ Allocation.Still m →
    Vouched (Trusted received) (T + 500000 + 500000) m.timestamp.toNat

/-- A driver call that turns a wheel. -/
def CallBacked (received : List ManualControl) (T : Nat) (c : DriverCall) : Prop :=
  c.stopOutputs = false → ∀ channel,
    outputFunctionIsMotor (c.functions.getD channel .Disabled) = true → ¬ IsZero (c.value channel) →
      Vouched (Trusted received) (T + 500000 + 500000 + 500000) c.now.toNat

/-- Every message and every copy along the chain is backed; and the cached parameters, the matrix and
the detector's own copy are what that needs. -/
structure Safe (r : Float32) (s : Pipeline D) : Prop where
  policy : Policy r s.params
  held : s.failsafe.manual.valid = true → s.failsafe.manual ∈ s.received
  timeout : s.failsafe.TimeoutIs s.params r
  action : s.robotControl.MotorActionNeutral s.params
  matrix : s.controlAllocator.allocation.DrivesBySpeed
  statusTopic : s.bus.failsafeStatus.Holds (StatusBacked s.received (Failsafe.policyTimeout r).toNat)
  statusCopy : StatusBacked s.received (Failsafe.policyTimeout r).toNat s.robotControl.failsafe
  setpointTopic :
    s.bus.robotControlSetpoint.Holds (SetpointBacked s.received (Failsafe.policyTimeout r).toNat)
  setpointCopy :
    SetpointBacked s.received (Failsafe.policyTimeout r).toNat s.controlAllocator.setpoint
  motorsTopic : s.bus.actuatorMotors.Holds (MotorsBacked s.received (Failsafe.policyTimeout r).toNat)
  motorsCopy : MotorsBacked s.received (Failsafe.policyTimeout r).toNat s.mixingOutput.motors
  calls : ∀ c ∈ s.driver.calls, CallBacked s.received (Failsafe.policyTimeout r).toNat c

/-! ### One lemma per stage -/

/-- The detector: an inactive status is vouched for by the copy it was judged on. -/
theorem detect_backed {f : Failsafe} {received : List ManualControl} {r : Float32}
    {params : ParamTable} (now : UInt64) (htimeout : f.TimeoutIs params r)
    (hheld : f.manual.valid = true → f.manual ∈ received) :
    StatusBacked received (Failsafe.policyTimeout r).toNat (f.detect now) := by
  intro hactive
  obtain ⟨hvalid, _, _, hage⟩ := Failsafe.detect_inactive hactive
  rw [htimeout.inForce] at hage
  exact ⟨_, ⟨f.manual, hheld hvalid, hvalid, rfl⟩, hage⟩

/-- Robot control: under the neutral action a target drives only outside failsafe. -/
theorem makeSetpoint_backed {c : RobotControl} {received : List ManualControl} {T : Nat}
    (now : UInt64) (haction : c.paramMotorAction.value = 1)
    (hstatus : StatusBacked received T c.failsafe) :
    SetpointBacked received T (c.makeSetpoint now) := by
  intro _ hspeed
  have hinactive : c.failsafeActive now = false := by
    by_contra h
    exact hspeed (RobotControl.makeSetpoint_speed haction (by simpa using h))
  obtain ⟨_, hfresh, hactive⟩ := RobotControl.failsafeActive_false.mp hinactive
  rw [RobotControl.makeSetpoint_timestamp]
  exact (hstatus hactive).later (RobotControl.fresh_age hfresh)

/-- The allocator: motors move only with a fresh target that drives. -/
theorem outputs_backed {a : ControlAllocator ActuatorEffectivenessDualMagneticWheel}
    {received : List ManualControl} {T : Nat} {now : UInt64}
    (hmatrix : a.allocation.DrivesBySpeed) (hsetpoint : SetpointBacked received T a.setpoint) :
    MotorsBacked received T (a.outputs now).1 := by
  intro hvalid hmove
  obtain ⟨hset, hspeed, _, hage⟩ := ControlAllocator.outputs_moving hmatrix hvalid hmove
  exact (hsetpoint hset hspeed).later hage

/-- The mixing output: a motor channel is non-zero only with a fresh motor message that moves. -/
theorem passes_backed {m : MixingOutput} {received : List ManualControl} {T : Nat} {now : UInt64}
    {c : DriverCall} {outputs : Vector Float32 8} (hmotors : MotorsBacked received T m.motors)
    (hpass : m.Passes now outputs) (htime : c.now = now) (hfunctions : c.functions = m.functions)
    (houtputs : c.outputs = some outputs) : CallBacked received T c := by
  intro _ channel hmotor hmove
  rw [DriverCall.value, houtputs, Option.getD_some] at hmove
  rw [hfunctions] at hmotor
  obtain ⟨hchannel, hsource, hcontrol⟩ := hpass.moving hmove
  obtain ⟨hvalid, hfresh⟩ :=
    ((MixingOutput.sourceDataValid_iff m now).mp hsource).1 channel hchannel hmotor
  rw [htime]
  refine (hmotors hvalid fun hstill => hcontrol ?_).later (freshWithin_iff.mp hfresh).2.2
  unfold MixingOutput.channelOutput
  simp only [MixingOutput.source, hmotor, if_true]
  split
  · exact isZero_zero
  · exact saturate_unit_isZero (hstill _)

/-! ### The invariant -/

theorem Trusted.cons {received : List ManualControl} {x : Nat} (h : Trusted received x)
    (m : ManualControl) : Trusted (m :: received) x := by
  obtain ⟨m', hm', h⟩ := h
  exact ⟨m', List.mem_cons_of_mem m hm', h⟩

omit [OutputInterface D] in
/-- Evidence is not lost when the detector reads another message. -/
theorem Safe.receive {r : Float32} {s : Pipeline D} (h : Safe r s) (m : ManualControl) :
    Safe r { s with received := m :: s.received } where
  policy := h.policy
  held hv := List.mem_cons_of_mem m (h.held hv)
  timeout := h.timeout
  action := h.action
  matrix := h.matrix
  statusTopic := h.statusTopic.mono fun _ hm ha => (hm ha).mono fun _ hx => hx.cons m
  statusCopy ha := (h.statusCopy ha).mono fun _ hx => hx.cons m
  setpointTopic := h.setpointTopic.mono fun _ hm hv hs => (hm hv hs).mono fun _ hx => hx.cons m
  setpointCopy hv hs := (h.setpointCopy hv hs).mono fun _ hx => hx.cons m
  motorsTopic := h.motorsTopic.mono fun _ hm hv hs => (hm hv hs).mono fun _ hx => hx.cons m
  motorsCopy hv hs := (h.motorsCopy hv hs).mono fun _ hx => hx.cons m
  calls c hc hd channel hm hv := (h.calls c hc hd channel hm hv).mono fun _ hx => hx.cons m

theorem Safe.updateFailsafe {r : Float32} {s : Pipeline D} (h : Safe r s) (clock arg : UInt64) :
    Safe r (s.next (.updateFailsafe clock arg)) := by
  have hmanual := Failsafe.readTopics_manual s.params s.bus s.failsafe
  -- the history grows first, then the status is published from the new copy
  obtain ⟨received, hreceived, hsafe, hheld⟩ : ∃ received,
      received = (s.next (.updateFailsafe clock arg)).received ∧ Safe r { s with received } ∧
        ((s.failsafe.readTopics s.params s.bus).manual.valid = true →
          (s.failsafe.readTopics s.params s.bus).manual ∈ received) := by
    refine ⟨_, rfl, ?_, ?_⟩
    · simp only [next]
      split
      · exact h.receive _
      · exact h
    · rw [hmanual]
      simp only [next]
      rcases s.failsafe.manualSubscription.update_cases s.bus.manualControl s.failsafe.manual with
        hup | ⟨_, hup⟩
      · rw [hup]
        exact h.held
      · rw [hup]
        exact fun _ => List.mem_cons_self
  have htimeout := Failsafe.readTopics_timeoutIs s.bus h.timeout h.policy.2
  have hstatus := detect_backed (effectiveNow clock arg) htimeout hheld
  have hshape : s.next (.updateFailsafe clock arg) =
      { s with
        failsafe := (s.failsafe.update s.params clock arg s.bus).1
        bus := (s.failsafe.update s.params clock arg s.bus).2, received } := by
    rw [hreceived]
    rfl
  rw [hshape]
  exact
    { hsafe with
      held := hheld
      timeout := ⟨htimeout.name, htimeout.coherent, htimeout.inForce⟩
      statusTopic := Topic.holds_publish _ hstatus }

theorem Safe.updateRobotControl {r : Float32} {s : Pipeline D} (h : Safe r s)
    (clock arg : UInt64) : Safe r (s.next (.updateRobotControl clock arg)) := by
  have haction := RobotControl.readTopics_neutral s.bus h.action h.policy.1
  have hcopy : StatusBacked s.received (Failsafe.policyTimeout r).toNat
      (s.robotControl.readTopics s.params s.bus).failsafe := by
    rw [RobotControl.readTopics_failsafe]
    exact Subscription.update_holds h.statusTopic h.statusCopy
  have hsetpoint := makeSetpoint_backed (effectiveNow clock arg)
    (c := (s.robotControl.readTopics s.params s.bus).rememberValid (effectiveNow clock arg))
    (by rw [RobotControl.rememberValid_motorAction]; exact haction.neutral)
    (by rw [RobotControl.rememberValid_failsafe]; exact hcopy)
  exact
    { h with
      action := by
        refine ⟨?_, ?_, ?_⟩ <;> simp only [next, RobotControl.update,
          RobotControl.rememberValid_motorAction]
        · exact haction.name
        · exact haction.coherent
        · exact haction.neutral
      statusCopy := by
        simp only [next, RobotControl.update, RobotControl.rememberValid_failsafe]
        exact hcopy
      setpointTopic := Topic.holds_publish _ hsetpoint }

theorem Safe.runControlAllocator {r : Float32} {s : Pipeline D} (h : Safe r s) (clock : UInt64) :
    Safe r (s.next (.runControlAllocator clock)) := by
  have hmatrix := ControlAllocator.readTopics_drivesBySpeed s.params s.bus h.matrix
  have hcopy : SetpointBacked s.received (Failsafe.policyTimeout r).toNat
      (s.controlAllocator.readTopics s.params s.bus).setpoint := by
    rw [ControlAllocator.readTopics_setpoint]
    exact Subscription.update_holds h.setpointTopic h.setpointCopy
  exact
    { h with
      matrix := hmatrix
      setpointCopy := hcopy
      motorsTopic := Topic.holds_publish _ (outputs_backed hmatrix hcopy) }

theorem Safe.updateMixingOutput {r : Float32} {s : Pipeline D} (h : Safe r s)
    (clock arg : UInt64) : Safe r (s.next (.updateMixingOutput clock arg)) := by
  have heffect := MixingOutput.update_effect clock arg s.bus s.mixingOutput s.driver
  have hcopy : MotorsBacked s.received (Failsafe.policyTimeout r).toNat
      (s.mixingOutput.readTopics s.bus).output.motors :=
    Subscription.update_holds h.motorsTopic h.motorsCopy
  obtain ⟨_, _, _, hframe⟩ := heffect.frame
  obtain ⟨new, hnew, hcalls⟩ := heffect.newCalls
  exact
    { h with
      motorsCopy := by
        simp only [next, hframe]
        exact hcopy
      calls := by
        intro c hc
        simp only [next, hnew, List.mem_append] at hc
        rcases hc with hc | hc
        · intro hdrive
          obtain ⟨htime, hfunctions, hpass⟩ := hcalls c hc
          obtain ⟨_, outputs, houtputs, hpass⟩ := hpass hdrive
          exact passes_backed hcopy hpass htime hfunctions houtputs hdrive
        · exact h.calls c hc }

/-- A stopping module publishes a message that lets nothing move. -/
theorem Safe.stop {r : Float32} {s : Pipeline D} (h : Safe r s) (node : ChainModule)
    (clock : UInt64) : Safe r (s.next (.stop node clock)) := by
  cases node with
  | failsafe => exact { h with statusTopic := Topic.holds_publish _ fun hactive => nomatch hactive }
  | robotControl => exact { h with setpointTopic := Topic.holds_publish _ fun hv => nomatch hv }
  | controlAllocator => exact { h with motorsTopic := Topic.holds_publish _ fun hv => nomatch hv }
  | mixingOutput => exact h

omit [OutputInterface D] in
/-- A new allocator needs a matrix in shape and no motion target. -/
theorem Safe.replaceAllocator {r : Float32} {s : Pipeline D} (h : Safe r s)
    {a : ControlAllocator ActuatorEffectivenessDualMagneticWheel}
    (hmatrix : a.allocation.DrivesBySpeed) (hsetpoint : a.setpoint = {}) :
    Safe r { s with controlAllocator := a } := by
  refine { h with matrix := hmatrix, setpointCopy := fun hv => ?_ }
  rw [hsetpoint] at hv
  cases hv

/-- A starting module holds no message yet. -/
theorem Safe.start {r : Float32} {s : Pipeline D} (h : Safe r s) (node : ChainModule) :
    Safe r (s.next (.start node)) := by
  cases node with
  | failsafe =>
      refine { h with held := ?_, timeout := Failsafe.construct_timeoutIs h.policy.2 }
      intro hv
      change (Failsafe.construct s.params).manual.valid = true at hv
      rw [Failsafe.construct_manual] at hv
      cases hv
  | robotControl =>
      exact
        { h with
          action := RobotControl.construct_neutral h.policy.1
          statusCopy := fun hactive => nomatch hactive }
  | controlAllocator =>
      exact h.replaceAllocator (ControlAllocator.construct_drivesBySpeed _ _ _)
        (ControlAllocator.construct_setpoint _ _ _)
  | mixingOutput =>
      obtain ⟨_, _, _, _, hframe⟩ := MixingOutput.construct_frame s.params
        s.mixingOutput.functionParamNames s.mixingOutput.maxOutputs
      refine { h with motorsCopy := ?_ }
      simp only [next, startModule, hframe]
      exact fun hv => nomatch hv

/-- Whatever happens next, the chain stays safe. -/
theorem Safe.step {r : Float32} {s : Pipeline D} {e : ChainEvent} (h : Safe r s)
    (hadmits : Admits r s e) : Safe r (s.next e) := by
  cases e with
  | publishManual message => exact { h with }
  | publishArmed message => exact { h with }
  | setParams params =>
      obtain ⟨hshape, hpolicy⟩ := hadmits.2 params rfl
      exact
        { h with
          policy := hpolicy
          timeout := ⟨h.timeout.name, h.timeout.coherent.congr hshape, h.timeout.inForce⟩
          action := ⟨h.action.name, h.action.coherent.congr hshape, h.action.neutral⟩ }
  | notifyParams notice => exact { h with }
  | updateFailsafe clock arg => exact h.updateFailsafe clock arg
  | updateRobotControl clock arg => exact h.updateRobotControl clock arg
  | runControlAllocator clock => exact h.runControlAllocator clock
  | updateMixingOutput clock arg => exact h.updateMixingOutput clock arg
  | reloadMixingOutput =>
      obtain ⟨_, _, _, hframe⟩ := s.mixingOutput.updateParams_frame s.params
      refine { h with motorsCopy := ?_ }
      simp only [next, hframe]
      exact h.motorsCopy
  | stop node clock => exact h.stop node clock
  | start node => exact h.start node

omit [OutputInterface D] in
theorem Start.safe {r : Float32} {s : Pipeline D} (h : Start r s) : Safe r s := by
  obtain ⟨hpolicy, hbus, hfailsafe, hrobot, ⟨modelId, hallocator⟩, ⟨names, maxOutputs, hmixing⟩,
    hcalls, hreceived⟩ := h
  obtain ⟨_, _, _, _, hframe⟩ := MixingOutput.construct_frame s.params names maxOutputs
  refine ⟨hpolicy, ?_, ?_, ?_, ?_, ?_, ?_, ?_, ?_, ?_, ?_, ?_⟩
  · rw [hfailsafe, Failsafe.construct_manual]
    exact fun hv => nomatch hv
  · rw [hfailsafe]
    exact Failsafe.construct_timeoutIs hpolicy.2
  · rw [hrobot]
    exact RobotControl.construct_neutral hpolicy.1
  · rw [hallocator]
    exact ControlAllocator.construct_drivesBySpeed _ _ _
  · rw [hbus]
    exact fun hadv => nomatch hadv
  · rw [hrobot]
    exact fun hactive => nomatch hactive
  · rw [hbus]
    exact fun hadv => nomatch hadv
  · rw [hallocator, ControlAllocator.construct_setpoint]
    exact fun hv => nomatch hv
  · rw [hbus]
    exact fun hadv => nomatch hadv
  · rw [hmixing, hframe]
    exact fun hv => nomatch hv
  · rw [hcalls]
    exact fun c hc => nomatch hc

theorem reachable_safe {r : Float32} {s : Pipeline D} (h : (system D r).Reachable s) :
    Safe r s := by
  refine h.invariant (Safe r) (fun s hs => Start.safe hs) ?_
  rintro s e t - hs ⟨hadmits, rfl⟩
  exact { hs.step hadmits with }

/-- The end-to-end bound. In every run of the control chain, a driver call that passes a non-zero value
on a motor channel is preceded by a valid stick message that the failsafe detector received and whose
sample is at most the RC timeout and one and a half seconds older than the call. -/
theorem wheels_backed {r : Float32} {s : Pipeline D} (h : (system D r).Reachable s) :
    ∀ c ∈ s.driver.calls, c.stopOutputs = false → ∀ channel,
      outputFunctionIsMotor (c.functions.getD channel .Disabled) = true →
      ¬ IsZero (c.value channel) →
      ∃ m ∈ s.received, m.valid = true ∧
        c.now.toNat ≤ m.timestampSample.toNat + (Failsafe.policyTimeout r).toNat + 1500000 := by
  intro c hc hdrive channel hmotor hmove
  obtain ⟨x, ⟨m, hm, hvalid, rfl⟩, hage⟩ := (reachable_safe h).calls c hc hdrive channel hmotor hmove
  exact ⟨m, hm, hvalid, by simpa only [Nat.add_assoc, Nat.reduceAdd] using hage⟩

/-- A parameter table under the policy, with one motor channel. -/
def demoParams : ParamTable :=
  [⟨cstr "FS_MOT_ACT", .int32, .ofInteger 1, .ofInteger 1⟩,
    ⟨cstr "FS_RC_TMO", .float, .ofReal 0.5, .ofReal 0.5⟩,
    ⟨cstr "CA_AIRFRAME", .int32, .ofInteger 1, .ofInteger 1⟩,
    ⟨cstr "CA_THR_F", .float, .ofReal 1, .ofReal 1⟩,
    ⟨cstr "CA_THR_R", .float, .ofReal 1, .ofReal 1⟩,
    ⟨cstr "CA_YAW_F", .float, .ofReal 1, .ofReal 1⟩,
    ⟨cstr "CA_YAW_R", .float, .ofReal 0, .ofReal 0⟩,
    ⟨cstr "CAN_M0_FUNC", .int32, .ofInteger 0, .ofInteger 101⟩]

/-- The chain after start-up with that table. -/
def demoStart : Pipeline ScriptedDriver where
  time := 0
  params := demoParams
  bus := {}
  failsafe := .construct demoParams
  robotControl := .construct demoParams
  controlAllocator := .construct demoParams 1 (.construct demoParams)
  mixingOutput := .construct demoParams (some [cstr "CAN_M0_FUNC"]) 1
  driver := ⟨{}, []⟩

/-- A stick message travels down the chain once. -/
def demoRun : List ChainEvent :=
  [.publishManual { timestamp := 100, timestampSample := 100, throttle := 0.5, valid := true },
    .updateFailsafe 100 0, .updateRobotControl 110 0, .runControlAllocator 120,
    .publishArmed { timestamp := 125, armed := true, valid := true }, .updateMixingOutput 130 0]

theorem demoRun_reachable :
    (system ScriptedDriver 0.5).Reachable (demoRun.foldl tick demoStart) := by
  have hstart : (system ScriptedDriver 0.5).Reachable demoStart :=
    .start ⟨⟨by decide +kernel, by decide +kernel⟩, rfl, rfl, rfl, ⟨1, rfl⟩, ⟨_, _, rfl⟩, rfl, rfl⟩
  refine hstart.foldl_restrict ?_
  refine ⟨⟨?_, ?_⟩, ⟨?_, ?_⟩, ⟨?_, ?_⟩, ⟨?_, ?_⟩, ⟨?_, ?_⟩, ⟨?_, ?_⟩, trivial⟩ <;>
    first
    | (rintro now ⟨⟩; decide)
    | rintro params ⟨⟩

/-- There the wheel turns, and the stick message vouches for it. -/
theorem wheels_backed_demo :
    ∃ c ∈ (demoRun.foldl tick demoStart).driver.calls, ¬ IsZero (c.value 0) ∧
      ∃ m ∈ (demoRun.foldl tick demoStart).received, m.valid = true ∧
        c.now.toNat ≤ m.timestampSample.toNat + (Failsafe.policyTimeout 0.5).toNat + 1500000 := by
  obtain ⟨c, hc, hdrive, hmotor, hmove⟩ : ∃ c ∈ (demoRun.foldl tick demoStart).driver.calls,
      c.stopOutputs = false ∧ outputFunctionIsMotor (c.functions.getD 0 .Disabled) = true ∧
        (c.value 0 == 0) = false := by
    decide +kernel
  have hmove' : ¬ IsZero (c.value 0) := by
    rw [isZero_iff_beq, hmove]
    decide
  exact ⟨c, hc, hmove', wheels_backed demoRun_reachable c hc hdrive 0 hmotor hmove'⟩

end Pipeline

end DualMagneticWheel
