/-
# DualMagneticWheel.Output.SafetyGate — MixingOutput as the last safety gate

The system of this module is one `MixingOutput` over three topics and an arbitrary driver. Its
environment publishes any message, reloads parameters from any table and calls `update` at any time.

The sentinels are tied to the call history by `Sentinel`: a set `stopped` flag together with a non-zero
`lastOutput` means that the newest call is a stop, and a newest call that is a failed stop clears the
flag. Each is one line of the source read as an invariant of all runs.
-/
import DualMagneticWheel.Output.MixingOutput
import DualMagneticWheel.Foundation.Transition

namespace DualMagneticWheel

open Foundation

variable {D : Type} [OutputInterface D]

/-- A `MixingOutput`, its topics, and the driver with its call history. -/
structure GateState (D : Type) where
  bus : Topics
  mixing : MixingOutput
  driver : Recorded D

/-- What can happen around a `MixingOutput`. -/
inductive GateEvent where
  | publishArmed (message : ActuatorArmed)
  | publishMotors (message : ActuatorMotors)
  | publishServos (message : ActuatorServos)
  | reload (params : ParamTable)
  | update (clock now : UInt64)

namespace GateState

/-- One event. -/
def next (s : GateState D) : GateEvent → GateState D
  | .publishArmed message =>
      { s with bus := { s.bus with actuatorArmed := s.bus.actuatorArmed.publish message } }
  | .publishMotors message =>
      { s with bus := { s.bus with actuatorMotors := s.bus.actuatorMotors.publish message } }
  | .publishServos message =>
      { s with bus := { s.bus with actuatorServos := s.bus.actuatorServos.publish message } }
  | .reload params => { s with mixing := (s.mixing.updateParams params).2 }
  | .update clock now =>
      let (_, mixing, driver) := s.mixing.update clock now s.bus s.driver
      { s with mixing, driver }

/-- A freshly constructed `MixingOutput` on a driver that was not called yet. -/
def Start (s : GateState D) : Prop :=
  ∃ params functionParams maxOutputs,
    s.mixing = MixingOutput.construct params functionParams maxOutputs ∧ s.driver.calls = []

/-- All runs of a `MixingOutput`. -/
def system (D : Type) [OutputInterface D] : Transition (GateState D) GateEvent :=
  .ofFun Start next

end GateState

/-! ## The sentinels and the call history -/

namespace MixingOutput

/-- The flags of the module describe the newest driver call. -/
structure Sentinel (m : MixingOutput) (calls : List DriverCall) : Prop where
  stopped : m.stopped = true → m.lastOutput ≠ 0 → ∃ c rest, calls = c :: rest ∧ c.stopOutputs = true
  failing : ∀ c rest, calls = c :: rest → c.stopOutputs = true → c.reply = false → m.stopped = false

theorem Sentinel.reload {m : MixingOutput} {calls : List DriverCall} (h : m.Sentinel calls)
    (params : ParamTable) : (m.updateParams params).2.Sentinel calls := by
  obtain ⟨_, _, _, hframe⟩ := m.updateParams_frame params
  rw [hframe]
  exact ⟨h.stopped, h.failing⟩

theorem construct_sentinel (params : ParamTable) (functionParams : Option (List CString))
    (maxOutputs : Nat) : (construct params functionParams maxOutputs).Sentinel [] := by
  obtain ⟨_, _, _, _, hframe⟩ := construct_frame params functionParams maxOutputs
  rw [hframe]
  refine ⟨fun _ hl => absurd rfl hl, fun c rest hc => ?_⟩
  cases hc

/-- Reading the topics leaves the sentinels alone. -/
theorem Sentinel.readTopics {m : MixingOutput} {calls : List DriverCall} (h : m.Sentinel calls)
    (bus : Topics) : (m.readTopics bus).output.Sentinel calls :=
  ⟨h.stopped, h.failing⟩

/-- A stop always leaves the flag equal to the reply of the newest call. -/
theorem sentinel_stopOutputs (m : MixingOutput) (now : UInt64) (driver : Recorded D) :
    (m.stopOutputs now driver).2.1.Sentinel (m.stopOutputs now driver).2.2.calls := by
  refine ⟨fun _ _ => ⟨_, _, rfl, rfl⟩, fun c rest hc _ hr => ?_⟩
  cases hc
  exact hr

theorem Sentinel.effect {m : MixingOutput} {now : UInt64} {driver : Recorded D}
    {out : MixingOutput × Recorded D} (h : m.Sentinel driver.calls)
    (heffect : m.Effect now driver out) : out.1.Sentinel out.2.calls := by
  cases heffect with
  | quiet since _ _ => exact ⟨h.stopped, h.failing⟩
  | stop since => exact sentinel_stopOutputs _ now driver
  | drive since _ _ hcall =>
      refine ⟨fun hs => ?_, fun c rest hc hstop => ?_⟩
      · cases hs
      · rw [Recorded.calls_of_call hcall] at hc
        cases hc
        cases hstop
  | refused since _ _ hcall => exact sentinel_stopOutputs _ now _

end MixingOutput

theorem GateState.sentinel {s : GateState D} (h : (GateState.system D).Reachable s) :
    s.mixing.Sentinel s.driver.calls := by
  refine h.invariant (fun s => s.mixing.Sentinel s.driver.calls) ?_ ?_
  · rintro s ⟨params, functionParams, maxOutputs, hmixing, hcalls⟩
    rw [hmixing, hcalls]
    exact MixingOutput.construct_sentinel params functionParams maxOutputs
  · rintro s e t - hs rfl
    cases e with
    | publishArmed message => exact hs
    | publishMotors message => exact hs
    | publishServos message => exact hs
    | reload params => exact hs.reload params
    | update clock now =>
        exact (hs.readTopics s.bus).effect (MixingOutput.update_effect clock now s.bus s.mixing _)

/-! ## The copies and the topics -/

namespace MixingOutput

/-- Each copy goes with the generation its subscription has seen. -/
structure Current (m : MixingOutput) (bus : Topics) : Prop where
  armed : m.armedSubscription.Current bus.actuatorArmed {} m.armed
  motors : m.motorsSubscription.Current bus.actuatorMotors {} m.motors
  servos : m.servosSubscription.Current bus.actuatorServos {} m.servos

/-- Each copy is the latest message of its topic, or the default before the first one. -/
structure Latest (m : MixingOutput) (bus : Topics) : Prop where
  armed : m.armed = bus.actuatorArmed.copy.getD {}
  motors : m.motors = bus.actuatorMotors.copy.getD {}
  servos : m.servos = bus.actuatorServos.copy.getD {}

theorem Current.readTopics {m : MixingOutput} {bus : Topics} (h : m.Current bus) :
    (m.readTopics bus).output.Current bus ∧ (m.readTopics bus).output.Latest bus :=
  ⟨⟨h.armed.update.1, h.motors.update.1, h.servos.update.1⟩,
    ⟨h.armed.update.2, h.motors.update.2, h.servos.update.2⟩⟩

end MixingOutput

namespace GateState

/-- The publication does not bring the counter of its topic round to what the module has seen: fewer than
2^32 messages have come since the last reading. -/
def Unwrapped (s : GateState D) : GateEvent → Prop
  | .publishArmed _ => s.mixing.armedSubscription.generation ≠ s.bus.actuatorArmed.generation + 1
  | .publishMotors _ => s.mixing.motorsSubscription.generation ≠ s.bus.actuatorMotors.generation + 1
  | .publishServos _ => s.mixing.servosSubscription.generation ≠ s.bus.actuatorServos.generation + 1
  | _ => True

instance (s : GateState D) (e : GateEvent) : Decidable (s.Unwrapped e) :=
  match e with
  | .publishArmed _ => inferInstanceAs (Decidable (_ ≠ _))
  | .publishMotors _ => inferInstanceAs (Decidable (_ ≠ _))
  | .publishServos _ => inferInstanceAs (Decidable (_ ≠ _))
  | .reload _ => inferInstanceAs (Decidable True)
  | .update _ _ => inferInstanceAs (Decidable True)

/-- The runs that begin with empty topics and read them in time. -/
def timely (D : Type) [OutputInterface D] : Transition (GateState D) GateEvent :=
  (Transition.ofFun (fun s => s.Start ∧ s.bus = {}) next).restrict Unwrapped

theorem current {s : GateState D} (h : (timely D).Reachable s) : s.mixing.Current s.bus := by
  refine h.invariant (fun s => s.mixing.Current s.bus) ?_ ?_
  · rintro s ⟨⟨params, functionParams, maxOutputs, hmixing, -⟩, hbus⟩
    obtain ⟨_, _, _, _, hframe⟩ := MixingOutput.construct_frame params functionParams maxOutputs
    rw [hmixing, hframe, hbus]
    exact ⟨⟨nofun, fun _ => rfl⟩, ⟨nofun, fun _ => rfl⟩, ⟨nofun, fun _ => rfl⟩⟩
  · rintro s e t - hs ⟨hunwrapped, rfl⟩
    cases e with
    | publishArmed message => exact ⟨Subscription.current_publish _ _ _ hunwrapped, hs.motors, hs.servos⟩
    | publishMotors message => exact ⟨hs.armed, Subscription.current_publish _ _ _ hunwrapped, hs.servos⟩
    | publishServos message => exact ⟨hs.armed, hs.motors, Subscription.current_publish _ _ _ hunwrapped⟩
    | reload params =>
        obtain ⟨_, _, _, hframe⟩ := s.mixing.updateParams_frame params
        simp only [next, hframe]
        exact ⟨hs.armed, hs.motors, hs.servos⟩
    | update clock now =>
        obtain ⟨_, _, _, hframe⟩ := (MixingOutput.update_effect clock now s.bus s.mixing s.driver).frame
        obtain ⟨harmed, hmotors, hservos⟩ := hs.readTopics.1
        simp only [next, hframe]
        exact ⟨harmed, hmotors, hservos⟩

end GateState

/-! ## The gate -/

namespace MixingOutput

/-- What an output array must satisfy, in terms of the copies `m` it was computed from. -/
structure CallGated (m : MixingOutput) (now : UInt64) (c : DriverCall) : Prop where
  time : c.now = now
  armed : m.armed.armed = true ∧ m.armed.lockdown = false
  armedFresh : m.armed.timestamp ≠ 0 ∧ m.armed.timestamp.toNat ≤ now.toNat ∧
    now.toNat ≤ m.armed.timestamp.toNat + 500000
  bounded : ∀ channel, (c.value channel).isFinite = true ∧
    Float32.le (-1) (c.value channel) = true ∧ Float32.le (c.value channel) 1 = true
  disabled : ∀ channel, c.functions.getD channel .Disabled = .Disabled → c.value channel = 0
  sources : (∃ channel, ¬ IsZero (c.value channel)) → ∀ channel < m.maxOutputs,
    let assigned := c.functions.getD channel .Disabled
    (outputFunctionIsMotor assigned = true → m.motors.valid = true ∧
      m.motors.timestamp.toNat ≤ now.toNat ∧ now.toNat ≤ m.motors.timestamp.toNat + 500000) ∧
    (outputFunctionIsServo assigned = true → m.servos.valid = true ∧
      m.servos.timestamp.toNat ≤ now.toNat ∧ now.toNat ≤ m.servos.timestamp.toNat + 500000) ∧
    (assigned ≠ .Disabled →
      outputFunctionIndex assigned < (m.source assigned).count ∧
      ((m.source assigned).control.getD (outputFunctionIndex assigned).toNat 0).isFinite = true)

theorem fresh_bounds {stamp now : UInt64} (h : fresh stamp now = true) :
    stamp.toNat ≤ now.toNat ∧ now.toNat ≤ stamp.toNat + 500000 := (freshWithin_iff.mp h).2

theorem gateOpen_iff {m : MixingOutput} {now : UInt64} :
    m.gateOpen now = true ↔ (m.armed.armed = true ∧ m.armed.lockdown = false ∧
      fresh m.armed.timestamp now = true) ∧ m.hasAssignedFunctions = true := by
  simp only [gateOpen, disarm, Bool.not_or, Bool.not_not, Bool.and_eq_true, Bool.not_eq_true',
    and_assoc]

theorem Passes.callGated {m : MixingOutput} {now : UInt64} {c : DriverCall}
    {outputs : Vector Float32 8} (hgate : m.gateOpen now = true) (hpass : m.Passes now outputs)
    (htime : c.now = now) (hfunctions : c.functions = m.functions)
    (houtputs : c.outputs = some outputs) : m.CallGated now c := by
  have hvalue : ∀ channel, c.value channel = outputs.getD channel 0 := by
    intro channel
    rw [DriverCall.value, houtputs, Option.getD_some]
  obtain ⟨⟨harmed, hlock, hfresh⟩, -⟩ := gateOpen_iff.mp hgate
  refine ⟨htime, ⟨harmed, hlock⟩, freshWithin_iff.mp hfresh, fun channel => ?_, fun channel hd => ?_,
    fun ⟨channel, hmove⟩ => ?_⟩
  · rw [hvalue]
    exact hpass.bounds channel
  · rw [hvalue]
    exact hpass.disabled (hfunctions ▸ hd)
  · rw [hvalue] at hmove
    obtain ⟨hmotors, hservos, hchannels⟩ := (sourceDataValid_iff m now).mp (hpass.moving hmove).2.1
    intro other hother
    rw [hfunctions]
    refine ⟨fun hm => ?_, fun hs => ?_, fun hassigned => ?_⟩
    · obtain ⟨hvalid, hf⟩ := hmotors other hother hm
      exact ⟨hvalid, fresh_bounds hf⟩
    · obtain ⟨hvalid, hf⟩ := hservos other hother hs
      exact ⟨hvalid, fresh_bounds hf⟩
    · have hdata := hchannels other hother
      unfold channelDataValid at hdata
      simp only [if_neg hassigned, Bool.and_eq_true, decide_eq_true_eq] at hdata
      exact ⟨hdata.1.1, hdata.2⟩

/-- With the gate closed the newest call is a stop, and a failed newest stop is repeated. -/
theorem Effect.closed {m : MixingOutput} {now : UInt64} {driver : Recorded D}
    {out : MixingOutput × Recorded D} (h : m.Effect now driver out)
    (hsentinel : m.Sentinel driver.calls) (hclosed : m.gateOpen now = false) :
    (∃ c rest, out.2.calls = c :: rest ∧ c.stopOutputs = true) ∧
      ∀ c rest, driver.calls = c :: rest → c.stopOutputs = true → c.reply = false →
        ∃ c', out.2.calls = c' :: driver.calls ∧ c'.stopOutputs = true ∧ c'.now = now := by
  cases h with
  | quiet since hlast hstopped =>
      rw [hclosed] at hstopped
      refine ⟨hsentinel.stopped hstopped hlast, fun c rest hc hstop hreply => ?_⟩
      rw [hsentinel.failing c rest hc hstop hreply] at hstopped
      cases hstopped
  | stop since =>
      have hcalls := stopOutputs_calls (m.withFaultSince since) now driver
      exact ⟨⟨_, _, hcalls, rfl⟩, fun _ _ _ _ _ => ⟨_, hcalls, rfl, rfl⟩⟩
  | drive since hgate _ _ =>
      rw [hclosed] at hgate
      cases hgate
  | refused since hgate _ _ =>
      rw [hclosed] at hgate
      cases hgate

end MixingOutput

/-- The last safety gate, at every update of every run. Each output array that the driver is given
satisfies `CallGated` for the copies the module has just read, which are the latest messages if no topic
got 2^32 of them unread; and when the arming gate is closed or no channel is assigned, the newest driver
call is a stop, which is made again if the newest one failed. -/
theorem GateState.update_gated {s t : GateState D} {clock now : UInt64}
    (h : (GateState.system D).Reachable s) (hnow : now ≠ 0)
    (hstep : (GateState.system D).step s (.update clock now) t) :
    (∃ new, t.driver.calls = new ++ s.driver.calls ∧
      ∀ c ∈ new, c.stopOutputs = false → t.mixing.CallGated now c) ∧
    (t.mixing.gateOpen now = false →
      (∃ c rest, t.driver.calls = c :: rest ∧ c.stopOutputs = true) ∧
      ∀ c rest, s.driver.calls = c :: rest → c.stopOutputs = true → c.reply = false →
        ∃ c', t.driver.calls = c' :: s.driver.calls ∧ c'.stopOutputs = true ∧ c'.now = now) ∧
    ((GateState.timely D).Reachable s → t.mixing.Latest s.bus) := by
  have heffect := MixingOutput.update_effect clock now s.bus s.mixing s.driver
  rw [effectiveNow_of_ne hnow] at heffect
  cases hstep
  obtain ⟨since, stopped, lastOutput, hframe⟩ := heffect.frame
  simp only [GateState.next, hframe]
  refine ⟨?_, ?_, fun htimely => ?_⟩
  · obtain ⟨new, hnew, hcalls⟩ := heffect.newCalls
    refine ⟨new, hnew, fun c hc hdrive => ?_⟩
    obtain ⟨htime, hfun, hpass⟩ := hcalls c hc
    obtain ⟨hgate, outputs, houtputs, hpass⟩ := hpass hdrive
    have hgated := hpass.callGated hgate htime hfun houtputs
    exact ⟨hgated.time, hgated.armed, hgated.armedFresh, hgated.bounded, hgated.disabled,
      hgated.sources⟩
  · exact heffect.closed ((GateState.sentinel h).readTopics s.bus)
  · obtain ⟨harmed, hmotors, hservos⟩ := (GateState.current htimely).readTopics.2
    exact ⟨harmed, hmotors, hservos⟩

/-- One motor channel on a driver that refuses its first call. -/
def GateState.oneMotor : GateState ScriptedDriver :=
  let table : ParamTable := [⟨cstr "CAN_M0_FUNC", .int32, .ofInteger 0, .ofInteger 101⟩]
  ⟨{}, .construct table (some [cstr "CAN_M0_FUNC"]) 1, ⟨⟨[false]⟩, []⟩⟩

/-- The same, armed and with a motor message waiting. -/
def GateState.running : GateState ScriptedDriver :=
  [.publishArmed { timestamp := 5, armed := true, valid := true },
    .publishMotors
      { timestamp := 5, control := Vector.replicate 8 0.5, count := 1, valid := true }].foldl
    GateState.next GateState.oneMotor

theorem GateState.running_timely : (GateState.timely ScriptedDriver).Reachable GateState.running := by
  have hstart : (GateState.timely ScriptedDriver).Reachable GateState.oneMotor :=
    .start ⟨⟨_, _, _, rfl, rfl⟩, rfl⟩
  exact hstart.foldl_restrict (by decide +kernel)

/-- There the refused array is followed by a stop, and the array meets the gate. -/
theorem GateState.update_gated_running :
    (GateState.running.next (.update 0 10)).driver.calls.map (·.stopOutputs) = [true, false] ∧
    (∃ new, (GateState.running.next (.update 0 10)).driver.calls = new ++ [] ∧
      ∀ c ∈ new, c.stopOutputs = false →
        (GateState.running.next (.update 0 10)).mixing.CallGated 10 c) ∧
    (GateState.running.next (.update 0 10)).mixing.Latest GateState.running.bus := by
  have hstart : (GateState.system ScriptedDriver).Reachable GateState.oneMotor :=
    .start ⟨_, _, _, rfl, rfl⟩
  have hstep : (GateState.system ScriptedDriver).step GateState.running (.update 0 10)
      (GateState.running.next (.update 0 10)) := rfl
  obtain ⟨hgated, -, hlatest⟩ := GateState.update_gated (hstart.foldl _) (by decide) hstep
  exact ⟨by decide +kernel, hgated, hlatest GateState.running_timely⟩

end DualMagneticWheel
