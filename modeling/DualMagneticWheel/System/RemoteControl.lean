/-
# DualMagneticWheel.System.RemoteControl — from the serial port to the wheels

The control chain of `System.Pipeline` takes any stick message and any arming state. Here both come from
where they come from in the robot: the SBUS driver reads bytes, `rc_update` makes sticks and switches of
its frames, and `command` arms on the switches. All modules run in any order, may be stopped and started
again, and the port may be closed and opened again; `sessions` keeps what every opening of the port has
brought.

Whatever is valid, armed or moving can be traced back to frames in the bytes. Valid sticks and switches are
the calibrated channels of a frame without the failsafe flag (`sticks_from_stream`); the robot is armed only
after the arm switch was off in one frame and on in a later one (`armed_from_stream`); and a wheel is driven
only on such evidence and on a frame that is recent (`wheels_from_stream`).
-/
import DualMagneticWheel.Modules.ArmingInterlock
import DualMagneticWheel.Rc.RcUpdate
import DualMagneticWheel.Rc.SbusCodec
import DualMagneticWheel.Rc.SbusInput
import DualMagneticWheel.Rc.ThreeFrames
import DualMagneticWheel.System.Pipeline

namespace DualMagneticWheel

open Foundation ManualControlSwitches

/-! ## Evidence -/

/-- The message for a frame in the bytes of some session, without the failsafe flag. -/
def OnAir (sessions : List SbusRun) (input : InputRc) : Prop :=
  ∃ session ∈ sessions, ∃ message ∈
      SbusRun.messagesOf session.arrivals (SbusRun.scanned session.arrivals),
    message.rcFailsafe = false ∧ message.toInputRc = input

/-- Every frame is still there. -/
def Grows (sessions sessions' : List SbusRun) : Prop :=
  ∀ input, OnAir sessions input → OnAir sessions' input

/-- An input that `rc_update` has processed, with the configuration in force at that moment. -/
structure Processed where
  config : RcConfig
  input : InputRc
  now : UInt64

namespace Processed

/-- The sticks that were published for it, if they were valid. -/
def manual (p : Processed) : ManualControl :=
  RcUpdate.makeManual (RcUpdate.makeChannels p.config p.input p.now) p.input true p.now

/-- The switches. -/
def switches (p : Processed) : ManualControlSwitches :=
  RcUpdate.makeSwitches (RcUpdate.makeChannels p.config p.input p.now) p.input true p.now

end Processed

/-- A valid stick message was made of a good input. -/
def SticksFrom (processed : List Processed) (m : ManualControl) : Prop :=
  m.valid = true → ∃ p ∈ processed, RcUpdate.inputLost p.input = false ∧ m = p.manual

/-- A valid switch message was made of a good input. -/
def SwitchesFrom (processed : List Processed) (m : ManualControlSwitches) : Prop :=
  m.valid = true → ∃ p ∈ processed, RcUpdate.inputLost p.input = false ∧ m = p.switches

/-- A good input of that time shows a position on the arm switch. -/
def Shows (processed : List Processed) (armSwitch : Int32) (position : UInt8) (stamp : Nat) : Prop :=
  ∃ p ∈ processed, RcUpdate.inputLost p.input = false ∧ p.input.timestampLastSignal.toNat = stamp ∧
    p.switches.positions.getD (armSwitch.toInt - 1).toNat 0 = position

/-- The arm switch was off in one input and on in another one that is not older. -/
def ArmedBy (processed : List Processed) : Prop :=
  ∃ armSwitch : Int32, 1 ≤ armSwitch.toInt ∧ armSwitch.toInt ≤ 12 ∧
    ∃ off on, off ≤ on ∧ Shows processed armSwitch POSITION_OFF off ∧
      Shows processed armSwitch POSITION_ON on

/-- An arming state that rests on such inputs. -/
def ArmedFrom (processed : List Processed) (m : ActuatorArmed) : Prop :=
  m.armed = true → ArmedBy processed

section Evidence

variable {processed processed' : List Processed}

theorem SticksFrom.mono {m : ManualControl} (h : SticksFrom processed m)
    (hsub : processed ⊆ processed') : SticksFrom processed' m := by
  intro hvalid
  obtain ⟨p, hp, hmade⟩ := h hvalid
  exact ⟨p, hsub hp, hmade⟩

theorem SwitchesFrom.mono {m : ManualControlSwitches} (h : SwitchesFrom processed m)
    (hsub : processed ⊆ processed') : SwitchesFrom processed' m := by
  intro hvalid
  obtain ⟨p, hp, hmade⟩ := h hvalid
  exact ⟨p, hsub hp, hmade⟩

theorem Shows.mono {armSwitch : Int32} {position : UInt8} {stamp : Nat}
    (h : Shows processed armSwitch position stamp) (hsub : processed ⊆ processed') :
    Shows processed' armSwitch position stamp := by
  obtain ⟨p, hp, hshown⟩ := h
  exact ⟨p, hsub hp, hshown⟩

theorem ArmedBy.mono (h : ArmedBy processed) (hsub : processed ⊆ processed') : ArmedBy processed' := by
  obtain ⟨armSwitch, hlow, hhigh, off, on, hle, hoff, hon⟩ := h
  exact ⟨armSwitch, hlow, hhigh, off, on, hle, hoff.mono hsub, hon.mono hsub⟩

end Evidence

/-! ## The system -/

/-- The whole robot: the control chain, the receiver side and the arming authority. Two history variables,
newest first: what every opening of the port has brought, and what `rc_update` has processed. -/
structure Robot (D : Type) extends Pipeline D where
  sessions : List SbusRun := []
  processed : List Processed := []
  rcUpdate : RcUpdate
  command : Command
  statics : CommandStatics := {}

/-- What can happen. An event of the chain that publishes sticks or an arming state is not admitted. -/
inductive RobotEvent where
  | openPort (clock : UInt64)
  | sbusTurn (turn : SbusTurn)
  | runRcUpdate (clock : UInt64)
  | stopRcUpdate (clock : UInt64)
  | startRcUpdate (clock : UInt64)
  | updateCommand (clock arg : UInt64)
  | stopCommand (clock : UInt64)
  | startCommand
  | setOutputInhibited (inhibited : Bool)
  | reportWarnings
  | chain (event : ChainEvent)

/-- The clock reading of an event, if it makes one. -/
def RobotEvent.now? : RobotEvent → Option UInt64
  | .openPort clock => some clock
  | .sbusTurn turn => some turn.now
  | .runRcUpdate clock => some clock
  | .stopRcUpdate clock => some clock
  | .startRcUpdate clock => some clock
  | .updateCommand clock arg => some (effectiveNow clock arg)
  | .stopCommand clock => some clock
  | .chain event => event.now?
  | _ => none

namespace Robot

variable {D : Type} [OutputInterface D]

/-- The messages that a turn of the driver has added to its log, oldest first. -/
def published (before after : List SbusEffect) : List InputRc :=
  (after.take (after.length - before.length)).reverse.filterMap fun effect =>
    match effect with
    | .publish message => some message.toInputRc
    | .print _ _ => none

/-- The input that a run of `rc_update` processes, if there is news. -/
def taken (params : ParamTable) (clock : UInt64) (bus : Topics) (u : RcUpdate) : Option Processed :=
  let found := u.readParams params bus
  let reading := found.inputSubscription.update bus.inputRc {}
  if reading.updated then some ⟨found.config, reading.message, clock⟩ else none

/-- One event, leaving the clock aside. -/
def next (s : Robot D) : RobotEvent → Robot D
  | .openPort clock => { s with sessions := SbusRun.opened clock :: s.sessions }
  | .sbusTurn turn =>
      match s.sessions with
      | [] => s
      | session :: earlier =>
          let messages := published session.port.log (session.next turn).port.log
          { s with
            sessions := session.next turn :: earlier
            bus := { s.bus with inputRc := messages.foldl Topic.publish s.bus.inputRc } }
  | .runRcUpdate clock =>
      let (rcUpdate, bus) := s.rcUpdate.Run s.params clock s.bus
      { s with
        rcUpdate, bus
        processed := (taken s.params clock s.bus s.rcUpdate).toList ++ s.processed }
  | .stopRcUpdate clock => { s with bus := RcUpdate.onWorkQueueStopped clock s.bus }
  | .startRcUpdate clock => { s with rcUpdate := (RcUpdate.construct s.params).initWorkQueue clock }
  | .updateCommand clock arg =>
      let (command, statics, bus) := s.command.update s.params clock arg s.bus s.statics
      { s with command, statics, bus }
  | .stopCommand clock => { s with bus := Command.onWorkQueueStopped clock s.bus }
  | .startCommand => { s with command := .construct s.params }
  | .setOutputInhibited inhibited => { s with statics := { s.statics with outputInhibited := inhibited } }
  | .reportWarnings => { s with statics := (Command.reportWarnings s.statics).2 }
  | .chain event => { s with toPipeline := s.toPipeline.next event }

/-- One event with the clock moved to its reading. -/
def tick (s : Robot D) (e : RobotEvent) : Robot D := { s.next e with time := e.now?.getD s.time }

/-- Messages that other modules of the robot publish. -/
def Foreign : ChainEvent → Prop
  | .publishManual _ => True
  | .publishArmed _ => True
  | _ => False

/-- The clock does not run backwards, sticks and arming state come from their modules, and parameters
change within the policy and never their definitions. -/
def Admits (r : Float32) (s : Robot D) (e : RobotEvent) : Prop :=
  (∀ now, e.now? = some now → s.time ≤ now) ∧
    (∀ event, e = .chain event → ¬ Foreign event) ∧
    ∀ params, e = .chain (.setParams params) → s.params.SameShape params ∧ Pipeline.Policy r params

/-- All modules constructed under the policy, the port not opened yet, nothing published. -/
def Start (r : Float32) (s : Robot D) : Prop :=
  Pipeline.Start r s.toPipeline ∧ s.sessions = [] ∧ s.processed = [] ∧
    (∃ clock, s.rcUpdate = (RcUpdate.construct s.params).initWorkQueue clock) ∧
    s.command = .construct s.params

/-- All runs of the robot under a policy. -/
def system (D : Type) [OutputInterface D] (r : Float32) : Transition (Robot D) RobotEvent :=
  (Transition.ofFun (Start r) tick).restrict (Admits r)

/-! ## One lemma per module -/

/-- A topic after some publications holds one of their messages, or there was none. -/
theorem foldl_publish {Message : Type} (t : Topic Message) (messages : List Message) :
    messages.foldl Topic.publish t = t ∨
      ∃ m ∈ messages, ∃ before : Topic Message, messages.foldl Topic.publish t = before.publish m := by
  induction messages generalizing t with
  | nil => exact Or.inl rfl
  | cons m messages ih =>
      rcases ih (t.publish m) with hsame | ⟨last, hmem, before, hlast⟩
      · exact Or.inr ⟨m, List.mem_cons_self, t, hsame⟩
      · exact Or.inr ⟨last, List.mem_cons_of_mem m hmem, before, hlast⟩

theorem holds_foldl_publish {Message : Type} {P : Message → Prop} {t : Topic Message}
    {messages : List Message} (ht : t.Holds P) (hmessages : ∀ m ∈ messages, P m) :
    (messages.foldl Topic.publish t).Holds P := by
  rcases foldl_publish t messages with hsame | ⟨m, hmem, before, hlast⟩
  · rw [hsame]
    exact ht
  · rw [hlast]
    exact Topic.holds_publish before (hmessages m hmem)

theorem holds_copy {Message : Type} {P : Message → Prop} {t : Topic Message} (h : t.Holds P)
    {m : Message} (hcopy : t.copy = some m) : P m := by
  unfold Topic.copy at hcopy
  split at hcopy
  · rename_i hadvertised
    cases hcopy
    exact h hadvertised
  · cases hcopy

/-- The driver: what a turn publishes as good is a frame of the turn. -/
theorem mem_published {now : UInt64} {before after : List SbusEffect}
    (h : SbusPort.Extends now before after) {m : InputRc} (hm : m ∈ published before after)
    (hgood : m.rcLost = false) : m.timestampLastSignal = now ∧
      ∃ message ∈ SbusRun.frameMessages after, message.toInputRc = m := by
  obtain ⟨new, rfl, hnew⟩ := h
  have htake : (new ++ before).take ((new ++ before).length - before.length) = new := by
    rw [List.length_append, Nat.add_sub_cancel, List.take_left]
  rw [published, htake, List.mem_filterMap] at hm
  obtain ⟨effect, hmem, heffect⟩ := hm
  cases effect with
  | print notice time => cases heffect
  | publish message =>
      cases heffect
      have hin := List.mem_reverse.mp hmem
      exact ⟨(hnew message hin hgood).2, message,
        SbusRun.mem_frameMessages (List.mem_append_left before hin) hgood, rfl⟩

/-- The driver: frames are not forgotten. -/
theorem frameMessages_extends {now : UInt64} {before after : List SbusEffect}
    (h : SbusPort.Extends now before after) {message : InputRcMessage}
    (hm : message ∈ SbusRun.frameMessages before) : message ∈ SbusRun.frameMessages after := by
  obtain ⟨new, rfl, -⟩ := h
  rw [SbusRun.frameMessages, List.reverse_append, List.filterMap_append]
  exact List.mem_append_left _ hm

/-- `rc_update`: a run publishes sticks and switches, valid only for a good input, or nothing. -/
theorem run_publishes (params : ParamTable) (clock : UInt64) (bus : Topics) (u : RcUpdate) :
    (∀ p ∈ taken params clock bus u, bus.inputRc.advertised = true ∧ p.input = bus.inputRc.message) ∧
      ((u.Run params clock bus).2 = bus ∨
        ∃ channels manual switches,
          (u.Run params clock bus).2 =
            { bus with
              rcChannels := bus.rcChannels.publish channels
              manualControl := bus.manualControl.publish manual
              manualControlSwitches := bus.manualControlSwitches.publish switches } ∧
          (manual.valid = true ∨ switches.valid = true → ∃ p ∈ taken params clock bus u,
            RcUpdate.inputLost p.input = false ∧ manual = p.manual ∧ switches = p.switches)) := by
  unfold RcUpdate.Run taken
  dsimp only
  generalize u.readParams params bus = u
  rcases u.inputSubscription.update_cases bus.inputRc {} with hquiet | ⟨hadvertised, hnews⟩
  · rw [hquiet]
    dsimp only
    rw [if_neg Bool.false_ne_true, if_neg Bool.false_ne_true]
    refine ⟨fun p hp => (by cases hp), ?_⟩
    unfold RcUpdate.publishTimeoutIfNeeded
    split
    · exact Or.inr ⟨_, _, _, rfl, fun hvalid => by rcases hvalid with hvalid | hvalid <;> cases hvalid⟩
    · exact Or.inl rfl
  · rw [hnews]
    dsimp only
    rw [if_pos rfl, if_pos rfl]
    refine ⟨fun p hp => (by cases hp; exact ⟨hadvertised, rfl⟩), ?_⟩
    unfold RcUpdate.processInput
    dsimp only
    rw [RcUpdate.countFrame_config]
    generalize hvalid : (!RcUpdate.inputLost bus.inputRc.message && _ && _) = valid
    refine Or.inr ⟨_, _, _, rfl, ?_⟩
    intro hpublished
    have htrue : valid = true := by
      rcases hpublished with h | h
      · exact h
      · exact h
    subst htrue
    rw [Bool.and_eq_true, Bool.and_eq_true, Bool.not_eq_true'] at hvalid
    exact ⟨_, rfl, hvalid.1.1, rfl, rfl⟩

theorem updateParameters_switches (c : Command) :
    c.updateParameters.switches = c.switches ∧
      c.updateParameters.switchSubscription = c.switchSubscription := by
  unfold Command.updateParameters
  dsimp only
  split
  · exact ⟨rfl, rfl⟩
  · exact ⟨rfl, rfl⟩

/-- `command`: the readings give the switch copy. -/
theorem readTopics_switches (params : ParamTable) (bus : Topics) (c : Command) :
    (c.readTopics params bus).switches =
      (c.switchSubscription.update bus.manualControlSwitches c.switches).message := by
  unfold Command.readTopics
  dsimp only
  split
  · rw [(updateParameters_switches _).1, (updateParameters_switches _).2]
    rfl
  · rfl

/-- The chain neither publishes inputs, sticks, switches or arming states nor touches the arming copy of
the output stage, unless that stage reads or starts. -/
theorem chain_bus (s : Pipeline D) {e : ChainEvent} (h : ¬ Foreign e) :
    (s.next e).bus.inputRc = s.bus.inputRc ∧ (s.next e).bus.manualControl = s.bus.manualControl ∧
      (s.next e).bus.manualControlSwitches = s.bus.manualControlSwitches ∧
      (s.next e).bus.actuatorArmed = s.bus.actuatorArmed := by
  cases e with
  | publishManual message => exact absurd trivial h
  | publishArmed message => exact absurd trivial h
  | stop node clock => cases node <;> exact ⟨rfl, rfl, rfl, rfl⟩
  | start node => cases node <;> exact ⟨rfl, rfl, rfl, rfl⟩
  | _ => exact ⟨rfl, rfl, rfl, rfl⟩

/-- What the detector has read is what it had read, and possibly the message of the topic. -/
theorem chain_received (s : Pipeline D) (e : ChainEvent) :
    (s.next e).received = s.received ∨ s.bus.manualControl.advertised = true ∧
      (s.next e).received = s.bus.manualControl.message :: s.received := by
  cases e with
  | updateFailsafe clock arg =>
      unfold Pipeline.next
      dsimp only
      rcases s.failsafe.manualSubscription.update_cases s.bus.manualControl s.failsafe.manual with
        hquiet | ⟨hadvertised, hnews⟩
      · rw [hquiet]
        exact Or.inl rfl
      · rw [hnews]
        exact Or.inr ⟨hadvertised, rfl⟩
  | start node => cases node <;> exact Or.inl (by simp only [Pipeline.next, Pipeline.startModule])
  | _ => exact Or.inl (by simp only [Pipeline.next])

/-- The arming copy of the output stage, and the calls it makes. -/
theorem chain_armed (s : Pipeline D) (e : ChainEvent) {P : ActuatorArmed → Prop}
    (htopic : s.bus.actuatorArmed.Holds P) (hcopy : P s.mixingOutput.armed) (hrest : P {}) :
    P (s.next e).mixingOutput.armed ∧ ∀ c ∈ (s.next e).driver.calls, c ∈ s.driver.calls ∨
      (c.stopOutputs = false → ∃ m : ActuatorArmed, P m ∧ m.armed = true ∧
        MixingOutput.fresh m.timestamp c.now = true) := by
  cases e with
  | updateMixingOutput clock arg =>
      have heffect := MixingOutput.update_effect clock arg s.bus s.mixingOutput s.driver
      have hread : P (s.mixingOutput.readTopics s.bus).output.armed :=
        Subscription.update_holds htopic hcopy
      obtain ⟨_, _, _, hframe⟩ := heffect.frame
      obtain ⟨new, hnew, hcalls⟩ := heffect.newCalls
      refine ⟨?_, ?_⟩
      · simp only [Pipeline.next, hframe]
        exact hread
      · intro c hc
        simp only [Pipeline.next, hnew, List.mem_append] at hc
        rcases hc with hc | hc
        · refine Or.inr fun hdrive => ⟨_, hread, ?_⟩
          have hgate := ((hcalls c hc).2.2 hdrive).1
          simp only [MixingOutput.gateOpen, MixingOutput.disarm, Bool.not_eq_true', Bool.or_eq_false_iff,
            Bool.not_eq_false'] at hgate
          rw [(hcalls c hc).1]
          exact ⟨hgate.1.1.1, hgate.1.2⟩
        · exact Or.inl hc
  | reloadMixingOutput =>
      obtain ⟨_, _, _, hframe⟩ := s.mixingOutput.updateParams_frame s.params
      refine ⟨?_, fun c hc => Or.inl hc⟩
      simp only [Pipeline.next, hframe]
      exact hcopy
  | start node =>
      cases node with
      | mixingOutput =>
          obtain ⟨_, _, _, _, hframe⟩ := MixingOutput.construct_frame s.params
            s.mixingOutput.functionParamNames s.mixingOutput.maxOutputs
          refine ⟨?_, fun c hc => Or.inl hc⟩
          simp only [Pipeline.next, Pipeline.startModule, hframe]
          exact hrest
      | _ => exact ⟨hcopy, fun c hc => Or.inl hc⟩
  | _ => exact ⟨hcopy, fun c hc => Or.inl hc⟩

/-! ## The invariant -/

/-- No good input that can still be processed is older than that. -/
structure BehindInput (time : UInt64) (inputs : Topic InputRc) (x : Nat) : Prop where
  time : x ≤ time.toNat
  input : inputs.Holds fun m => m.rcLost = false → x ≤ m.timestampLastSignal.toNat

/-- Nor is the switch message on the topic. -/
structure BehindTopic (time : UInt64) (inputs : Topic InputRc) (switches : Topic ManualControlSwitches)
    (x : Nat) : Prop extends BehindInput time inputs x where
  topic : switches.Holds fun m => m.valid = true → x ≤ m.timestampSample.toNat

/-- Nor the one that `command` holds. -/
structure Behind (time : UInt64) (inputs : Topic InputRc) (switches : Topic ManualControlSwitches)
    (held : ManualControlSwitches) (x : Nat) : Prop extends BehindTopic time inputs switches x where
  copy : held.valid = true → x ≤ held.timestampSample.toNat

/-- Everything that would let the robot move rests on frames. -/
structure Grounded (r : Float32) (s : Robot D) : Prop where
  safe : Pipeline.Safe r s.toPipeline
  heard : ∀ session ∈ s.sessions, SbusRun.Heard session.port session.arrivals
  input : s.bus.inputRc.Holds fun m => m.rcLost = false → m.rcFailsafe = false → OnAir s.sessions m
  onAir : ∀ p ∈ s.processed, RcUpdate.inputLost p.input = false → OnAir s.sessions p.input
  inputPast : s.bus.inputRc.Holds fun m =>
    m.rcLost = false → m.timestampLastSignal.toNat ≤ s.time.toNat
  sticks : s.bus.manualControl.Holds (SticksFrom s.processed)
  received : ∀ m ∈ s.received, SticksFrom s.processed m
  switches : s.bus.manualControlSwitches.Holds (SwitchesFrom s.processed)
  copy : SwitchesFrom s.processed s.command.switches
  topicOrder : s.bus.manualControlSwitches.Holds fun m =>
    m.valid = true → BehindInput s.time s.bus.inputRc m.timestampSample.toNat
  copyOrder : s.command.switches.valid = true →
    BehindTopic s.time s.bus.inputRc s.bus.manualControlSwitches
      s.command.switches.timestampSample.toNat
  ready : s.command.armSafety.state ≠ .waitForOff →
    1 ≤ s.command.armSwitch.toInt ∧ s.command.armSwitch.toInt ≤ 12 ∧
      ∃ off, Shows s.processed s.command.armSwitch POSITION_OFF off ∧
        Behind s.time s.bus.inputRc s.bus.manualControlSwitches s.command.switches off
  armed : s.command.armSafety.state = .armed → ArmedBy s.processed
  armedTopic : s.bus.actuatorArmed.Holds (ArmedFrom s.processed)
  armedCopy : ArmedFrom s.processed s.mixingOutput.armed
  calls : ∀ c ∈ s.driver.calls, c.stopOutputs = false → ArmedBy s.processed

section Clock

variable {time now : UInt64} {inputs : Topic InputRc} {switches : Topic ManualControlSwitches}
  {held : ManualControlSwitches} {x : Nat}

theorem BehindInput.later (h : BehindInput time inputs x) (hle : time ≤ now) :
    BehindInput now inputs x := ⟨Nat.le_trans h.time (UInt64.le_iff_toNat_le.mp hle), h.input⟩

theorem BehindTopic.later (h : BehindTopic time inputs switches x) (hle : time ≤ now) :
    BehindTopic now inputs switches x := ⟨h.toBehindInput.later hle, h.topic⟩

theorem Behind.later (h : Behind time inputs switches held x) (hle : time ≤ now) :
    Behind now inputs switches held x := ⟨h.toBehindTopic.later hle, h.copy⟩

end Clock

omit [OutputInterface D] in
/-- Time goes on. -/
theorem Grounded.later {r : Float32} {s : Robot D} (h : Grounded r s) {now : UInt64}
    (hle : s.time ≤ now) : Grounded r { s with time := now } where
  safe := { h.safe with }
  heard := h.heard
  input := h.input
  onAir := h.onAir
  inputPast := h.inputPast.mono fun _ hm hgood =>
    Nat.le_trans (hm hgood) (UInt64.le_iff_toNat_le.mp hle)
  sticks := h.sticks
  received := h.received
  switches := h.switches
  copy := h.copy
  topicOrder := h.topicOrder.mono fun _ hm hvalid => (hm hvalid).later hle
  copyOrder hvalid := (h.copyOrder hvalid).later hle
  ready hstate := by
    obtain ⟨hlow, hhigh, off, hoff, hbehind⟩ := h.ready hstate
    exact ⟨hlow, hhigh, off, hoff, hbehind.later hle⟩
  armed := h.armed
  armedTopic := h.armedTopic
  armedCopy := h.armedCopy
  calls := h.calls

/-! ### The driver -/

omit [OutputInterface D] in
/-- The port is opened: a session without frames. -/
theorem Grounded.openPort {r : Float32} {s : Robot D} (h : Grounded r s) (clock : UInt64) :
    Grounded r { s with sessions := SbusRun.opened clock :: s.sessions } := by
  have hgrows : Grows s.sessions (SbusRun.opened clock :: s.sessions) := by
    rintro input ⟨session, hmem, hmessage⟩
    exact ⟨session, List.mem_cons_of_mem _ hmem, hmessage⟩
  exact
    { h with
      safe := { h.safe with }
      heard := List.forall_mem_cons.mpr ⟨SbusRun.heard_opened clock, h.heard⟩
      input := h.input.mono fun _ hm hgood hsafe => hgrows _ (hm hgood hsafe)
      onAir := fun p hp hgood => hgrows _ (h.onAir p hp hgood) }

omit [OutputInterface D] in
/-- A turn of the driver at the present time. -/
theorem Grounded.turn {r : Float32} {s : Robot D} (h : Grounded r s) {session : SbusRun}
    {earlier : List SbusRun} (hsessions : s.sessions = session :: earlier) {turn : SbusTurn}
    (htime : s.time = turn.now) :
    Grounded r
      { s with
        sessions := session.next turn :: earlier
        bus := { s.bus with
          inputRc := (published session.port.log (session.next turn).port.log).foldl Topic.publish
            s.bus.inputRc } } := by
  have hextends : SbusPort.Extends turn.now session.port.log (session.next turn).port.log :=
    session.port.turn_extends turn.read turn.now
  have hheard := h.heard
  rw [hsessions, List.forall_mem_cons] at hheard
  have hafter := (hheard.1.next turn).messages
  have hgrows : Grows s.sessions (session.next turn :: earlier) := by
    rintro input ⟨other, hmem, message, hmessage, hinput⟩
    rw [hsessions] at hmem
    rcases List.mem_cons.mp hmem with rfl | hmem
    · rw [← hheard.1.messages] at hmessage
      refine ⟨_, List.mem_cons_self, message, ?_, hinput⟩
      rw [← hafter]
      exact frameMessages_extends hextends hmessage
    · exact ⟨other, List.mem_cons_of_mem _ hmem, message, hmessage, hinput⟩
  -- a good input of this turn carries the present time
  have hnow : ∀ m ∈ published session.port.log (session.next turn).port.log,
      m.rcLost = false → m.timestampLastSignal.toNat = s.time.toNat := by
    intro m hm hgood
    rw [(mem_published hextends hm hgood).1, htime]
  have hbehind : ∀ x, BehindInput s.time s.bus.inputRc x → BehindInput s.time
      ((published session.port.log (session.next turn).port.log).foldl Topic.publish s.bus.inputRc)
      x := by
    intro x hx
    refine ⟨hx.time, holds_foldl_publish hx.input ?_⟩
    intro m hm hgood
    rw [hnow m hm hgood]
    exact hx.time
  exact
    { h with
      safe := { h.safe with }
      heard := List.forall_mem_cons.mpr ⟨hheard.1.next turn, hheard.2⟩
      input := by
        refine holds_foldl_publish (h.input.mono fun _ hm hgood hsafe => hgrows _ (hm hgood hsafe)) ?_
        intro m hm hgood hsafe
        obtain ⟨-, message, hmessage, rfl⟩ := mem_published hextends hm hgood
        rw [hafter] at hmessage
        exact ⟨_, List.mem_cons_self, message, hmessage, hsafe, rfl⟩
      onAir := fun p hp hgood => hgrows _ (h.onAir p hp hgood)
      inputPast := holds_foldl_publish h.inputPast fun m hm hgood => Nat.le_of_eq (hnow m hm hgood)
      topicOrder := h.topicOrder.mono fun _ hm hvalid => hbehind _ (hm hvalid)
      copyOrder := fun hvalid => ⟨hbehind _ (h.copyOrder hvalid).toBehindInput, (h.copyOrder hvalid).topic⟩
      ready := fun hstate => by
        obtain ⟨hlow, hhigh, off, hoff, hready⟩ := h.ready hstate
        exact ⟨hlow, hhigh, off, hoff,
          ⟨hbehind _ hready.toBehindInput, hready.topic⟩, hready.copy⟩ }

/-! ### Sticks and switches -/

omit [OutputInterface D] in
/-- Other sticks, switches and channels, if they come from a frame or are invalid. -/
theorem Grounded.publish {r : Float32} {s : Robot D} (h : Grounded r s) (channels : Topic RcChannels)
    {manual : ManualControl} {switches : ManualControlSwitches} (hmanual : SticksFrom s.processed manual)
    (hswitches : SwitchesFrom s.processed switches)
    (horder : switches.valid = true → BehindInput s.time s.bus.inputRc switches.timestampSample.toNat ∧
      ∀ x, BehindInput s.time s.bus.inputRc x → x ≤ switches.timestampSample.toNat) :
    Grounded r
      { s with
        bus :=
          { s.bus with
            rcChannels := channels
            manualControl := s.bus.manualControl.publish manual
            manualControlSwitches := s.bus.manualControlSwitches.publish switches } } := by
  have hbehind : ∀ x, BehindTopic s.time s.bus.inputRc s.bus.manualControlSwitches x →
      BehindTopic s.time s.bus.inputRc (s.bus.manualControlSwitches.publish switches) x := by
    intro x hx
    exact ⟨⟨hx.time, hx.input⟩,
      Topic.holds_publish _ fun hvalid => (horder hvalid).2 x hx.toBehindInput⟩
  exact
    { h with
      safe := { h.safe with }
      sticks := Topic.holds_publish _ hmanual
      switches := Topic.holds_publish _ hswitches
      topicOrder := Topic.holds_publish _ fun hvalid =>
        ⟨(horder hvalid).1.time, (horder hvalid).1.input⟩
      copyOrder := fun hvalid => hbehind _ (h.copyOrder hvalid)
      ready := fun hstate => by
        obtain ⟨hlow, hhigh, off, hoff, hready⟩ := h.ready hstate
        exact ⟨hlow, hhigh, off, hoff, hbehind _ hready.toBehindTopic, hready.copy⟩ }

omit [OutputInterface D] in
/-- Nothing rests on the state of `rc_update`. -/
theorem Grounded.replaceRcUpdate {r : Float32} {s : Robot D} (h : Grounded r s) (u : RcUpdate) :
    Grounded r { s with rcUpdate := u } := { h with safe := { h.safe with } }

omit [OutputInterface D] in
/-- One more processed input, if it is on the air when it is good. -/
theorem Grounded.process {r : Float32} {s : Robot D} (h : Grounded r s) {new : List Processed}
    (hnew : ∀ p ∈ new, RcUpdate.inputLost p.input = false → OnAir s.sessions p.input) :
    Grounded r { s with processed := new ++ s.processed } := by
  have hsub : s.processed ⊆ new ++ s.processed := List.subset_append_right new s.processed
  exact
    { h with
      safe := { h.safe with }
      onAir := List.forall_mem_append.mpr ⟨hnew, h.onAir⟩
      sticks := h.sticks.mono fun _ hm => hm.mono hsub
      received := fun m hm => (h.received m hm).mono hsub
      switches := h.switches.mono fun _ hm => hm.mono hsub
      copy := h.copy.mono hsub
      ready := fun hstate => by
        obtain ⟨hlow, hhigh, off, hoff, hbehind⟩ := h.ready hstate
        exact ⟨hlow, hhigh, off, hoff.mono hsub, hbehind⟩
      armed := fun hstate => (h.armed hstate).mono hsub
      armedTopic := h.armedTopic.mono fun _ hm harmed => (hm harmed).mono hsub
      armedCopy := fun harmed => (h.armedCopy harmed).mono hsub
      calls := fun c hc hdrive => (h.calls c hc hdrive).mono hsub }

omit [OutputInterface D] in
/-- A run of `rc_update`. -/
theorem Grounded.runRcUpdate {r : Float32} {s : Robot D} (h : Grounded r s) (clock : UInt64) :
    Grounded r
      { s with
        rcUpdate := (s.rcUpdate.Run s.params clock s.bus).1
        bus := (s.rcUpdate.Run s.params clock s.bus).2
        processed := (taken s.params clock s.bus s.rcUpdate).toList ++ s.processed } := by
  obtain ⟨htaken, hpublishes⟩ := run_publishes s.params clock s.bus s.rcUpdate
  generalize (s.rcUpdate.Run s.params clock s.bus).1 = rcUpdate
  generalize taken s.params clock s.bus s.rcUpdate = taken at htaken hpublishes
  -- a good input is the one on the topic
  have hinput : ∀ p ∈ taken, RcUpdate.inputLost p.input = false → s.bus.inputRc.advertised = true ∧
      p.input = s.bus.inputRc.message ∧ p.input.rcLost = false ∧ p.input.rcFailsafe = false := by
    intro p hp hgood
    obtain ⟨hadvertised, hmessage⟩ := htaken p hp
    rw [RcUpdate.inputLost, Bool.or_eq_false_iff, Bool.or_eq_false_iff] at hgood
    exact ⟨hadvertised, hmessage, hgood.1.1, hgood.1.2⟩
  have hprocessed : Grounded r { s with processed := taken.toList ++ s.processed } := by
    refine h.process ?_
    intro p hp hgood
    obtain ⟨hadvertised, hmessage, hlost, hfailsafe⟩ := hinput p (Option.mem_toList.mp hp) hgood
    rw [hmessage] at hlost hfailsafe ⊢
    exact h.input hadvertised hlost hfailsafe
  rcases hpublishes with hquiet | ⟨channels, manual, switches, hbus, hvalid⟩
  · rw [hquiet]
    exact hprocessed.replaceRcUpdate rcUpdate
  · rw [hbus]
    refine (hprocessed.publish _ ?_ ?_ ?_).replaceRcUpdate rcUpdate
    · intro hv
      obtain ⟨p, hp, hgood, hmanual, -⟩ := hvalid (Or.inl hv)
      exact ⟨p, List.mem_append_left _ (Option.mem_toList.mpr hp), hgood, hmanual⟩
    · intro hv
      obtain ⟨p, hp, hgood, -, hswitches⟩ := hvalid (Or.inr hv)
      exact ⟨p, List.mem_append_left _ (Option.mem_toList.mpr hp), hgood, hswitches⟩
    · intro hv
      obtain ⟨p, hp, hgood, -, hswitches⟩ := hvalid (Or.inr hv)
      obtain ⟨hadvertised, hmessage, hlost, -⟩ := hinput p hp hgood
      have hstamp : switches.timestampSample = s.bus.inputRc.message.timestampLastSignal := by
        rw [hswitches, ← hmessage]
        rfl
      rw [hmessage] at hlost
      rw [hstamp]
      refine ⟨⟨h.inputPast hadvertised hlost, fun _ _ => Nat.le_refl _⟩, ?_⟩
      intro x hx
      exact hx.input hadvertised hlost

/-! ### The arming authority -/

/-- An observed position was shown by the frame behind the switch message. -/
theorem shows_of_observation {processed : List Processed} {c : Command} {now : UInt64} {position : UInt8}
    (hfrom : SwitchesFrom processed c.switches) (h : c.observation now = some position) :
    c.switches.valid = true ∧ 1 ≤ c.armSwitch.toInt ∧ c.armSwitch.toInt ≤ 12 ∧
      Shows processed c.armSwitch position c.switches.timestampSample.toNat := by
  obtain ⟨-, hvalid, -, -, hlow, hhigh, hposition, -⟩ := (c.observation_eq_some now position).mp h
  obtain ⟨p, hp, hgood, hswitches⟩ := hfrom hvalid
  refine ⟨hvalid, hlow, by omega, p, hp, hgood, ?_, ?_⟩
  · rw [hswitches]
    rfl
  · rw [← hswitches]
    exact hposition

/-- What the interlock knows before the observation of an update: as before, with the new copy of the
switches, or nothing if the mapped switch is another one. -/
theorem ready_of_readings {processed : List Processed} {params : ParamTable} {bus : Topics} {c : Command}
    {time : UInt64} {inputs : Topic InputRc}
    (h : c.armSafety.state ≠ .waitForOff → 1 ≤ c.armSwitch.toInt ∧ c.armSwitch.toInt ≤ 12 ∧
      ∃ off, Shows processed c.armSwitch POSITION_OFF off ∧
        Behind time inputs bus.manualControlSwitches c.switches off)
    (hstate : (c.readTopics params bus).armSafety.state ≠ .waitForOff) :
    c.armSafety = (c.readTopics params bus).armSafety ∧
      1 ≤ (c.readTopics params bus).armSwitch.toInt ∧ (c.readTopics params bus).armSwitch.toInt ≤ 12 ∧
      ∃ off, Shows processed (c.readTopics params bus).armSwitch POSITION_OFF off ∧
        Behind time inputs bus.manualControlSwitches (c.readTopics params bus).switches off := by
  have hsafety := Command.readTopics_armSafety params bus c
  by_cases hsame : (c.readTopics params bus).armSwitch = c.armSwitch
  · rw [hsame, bne_self_eq_false, if_neg Bool.false_ne_true] at hsafety
    rw [hsafety] at hstate ⊢
    obtain ⟨hlow, hhigh, off, hoff, hbehind⟩ := h hstate
    rw [hsame, readTopics_switches]
    refine ⟨rfl, hlow, hhigh, off, hoff, hbehind.toBehindTopic, ?_⟩
    exact Subscription.update_holds
      (P := fun m : ManualControlSwitches => m.valid = true → off ≤ m.timestampSample.toNat)
      hbehind.topic hbehind.copy
  · rw [if_pos (bne_iff_ne.mpr hsame)] at hsafety
    rw [hsafety] at hstate
    exact absurd rfl hstate

omit [OutputInterface D] in
theorem Grounded.updateCommand {r : Float32} {s : Robot D} (h : Grounded r s) (clock arg : UInt64) :
    Grounded r
      { s with
        command := (s.command.update s.params clock arg s.bus s.statics).1
        statics := (s.command.update s.params clock arg s.bus s.statics).2.1
        bus := (s.command.update s.params clock arg s.bus s.statics).2.2 } := by
  have hcopy : SwitchesFrom s.processed (s.command.readTopics s.params s.bus).switches := by
    rw [readTopics_switches]
    exact Subscription.update_holds h.switches h.copy
  have hcopyOrder : (s.command.readTopics s.params s.bus).switches.valid = true →
      BehindTopic s.time s.bus.inputRc s.bus.manualControlSwitches
        (s.command.readTopics s.params s.bus).switches.timestampSample.toNat := by
    rw [readTopics_switches]
    rcases s.command.switchSubscription.update_cases s.bus.manualControlSwitches s.command.switches with
      hquiet | ⟨hadvertised, hnews⟩
    · rw [hquiet]
      exact h.copyOrder
    · rw [hnews]
      exact fun hvalid => ⟨h.topicOrder hadvertised hvalid, fun _ _ => Nat.le_refl _⟩
  have hready := @ready_of_readings _ s.params s.bus s.command _ _ h.ready
  obtain ⟨hobserve, hpublished⟩ := Command.updateSafety_spec (effectiveNow clock arg) s.bus s.statics
    (s.command.readTopics s.params s.bus)
  generalize hfound : s.command.readTopics s.params s.bus = found at hcopy hcopyOrder hready hobserve hpublished
  have hupdate : s.command.update s.params clock arg s.bus s.statics =
      found.updateSafety (effectiveNow clock arg) s.bus s.statics := by rw [Command.update, hfound]
  rw [hupdate]
  generalize effectiveNow clock arg = now at hobserve hpublished
  -- the interlock has gone one step on
  have hready' : (found.armSafety.observe (found.observation now)).state ≠ .waitForOff →
      1 ≤ found.armSwitch.toInt ∧ found.armSwitch.toInt ≤ 12 ∧
        ∃ off, Shows s.processed found.armSwitch POSITION_OFF off ∧
          Behind s.time s.bus.inputRc s.bus.manualControlSwitches found.switches off := by
    intro hstate
    rw [Ne, ArmSafety.observe_waitForOff, not_and_or, not_not] at hstate
    rcases hstate with hstate | hoff
    · exact (hready hstate).2
    · obtain ⟨hvalid, hlow, hhigh, hshows⟩ := shows_of_observation hcopy hoff
      exact ⟨hlow, hhigh, _, hshows, hcopyOrder hvalid, fun _ => Nat.le_refl _⟩
  have harmed : (found.armSafety.observe (found.observation now)).state = .armed →
      ArmedBy s.processed := by
    intro hstate
    rcases (ArmSafety.observe_armed _ _).mp hstate with ⟨hon, hwaited⟩ | ⟨-, hbefore⟩
    · obtain ⟨hvalid, hlow, hhigh, hshows⟩ := shows_of_observation hcopy hon
      obtain ⟨-, -, -, off, hoff, hbehind⟩ := hready hwaited
      exact ⟨found.armSwitch, hlow, hhigh, off, _, hbehind.copy hvalid, hoff, hshows⟩
    · have hsame := (hready (by rw [hbefore]; exact ArmSafety.State.noConfusion)).1
      exact h.armed (by rw [hsame, hbefore])
  rw [← hobserve] at hready' harmed hpublished
  exact
    { h with
      safe := { h.safe with }
      copy := hcopy
      copyOrder := hcopyOrder
      ready := hready'
      armed := harmed
      armedTopic := fun _ hmessage => harmed (hpublished.mp hmessage).1 }

omit [OutputInterface D] in
theorem Grounded.startCommand {r : Float32} {s : Robot D} (h : Grounded r s) :
    Grounded r { s with command := .construct s.params } := by
  have hwaits : (Command.construct s.params).armSafety.state = .waitForOff := by
    rw [Command.construct_armSafety]
  have hempty : (Command.construct s.params).switches = {} := by
    unfold Command.construct
    exact (updateParameters_switches _).1
  refine { h with safe := { h.safe with }, copy := ?_, copyOrder := ?_, ready := ?_, armed := ?_ }
  · rw [hempty]
    intro hvalid
    cases hvalid
  · rw [hempty]
    intro hvalid
    cases hvalid
  · intro hstate
    exact absurd hwaits hstate
  · intro hstate
    rw [hwaits] at hstate
    cases hstate

/-! ### The chain -/

theorem Grounded.chain {r : Float32} {s : Robot D} (h : Grounded r s) {e : ChainEvent}
    (hforeign : ¬ Foreign e) (hadmits : Pipeline.Admits r s.toPipeline e)
    (htime : (s.toPipeline.next e).time = s.time) :
    Grounded r { s with toPipeline := s.toPipeline.next e } := by
  obtain ⟨hinput, hmanual, hswitches, harmed⟩ := chain_bus s.toPipeline hforeign
  obtain ⟨hcopy, hcalls⟩ := chain_armed s.toPipeline e (P := ArmedFrom s.processed) h.armedTopic
    h.armedCopy (fun hvalid => by cases hvalid)
  have hbehind : ∀ x, BehindInput s.time s.bus.inputRc x →
      BehindInput (s.toPipeline.next e).time (s.toPipeline.next e).bus.inputRc x := by
    intro x hx
    refine ⟨?_, ?_⟩
    · rw [htime]
      exact hx.time
    · rw [hinput]
      exact hx.input
  have htopic : ∀ x, BehindTopic s.time s.bus.inputRc s.bus.manualControlSwitches x →
      BehindTopic (s.toPipeline.next e).time (s.toPipeline.next e).bus.inputRc
        (s.toPipeline.next e).bus.manualControlSwitches x := by
    intro x hx
    refine ⟨hbehind x hx.toBehindInput, ?_⟩
    rw [hswitches]
    exact hx.topic
  refine
    { safe := h.safe.step hadmits
      heard := h.heard
      input := ?_
      onAir := h.onAir
      inputPast := ?_
      sticks := ?_
      received := ?_
      switches := ?_
      copy := h.copy
      topicOrder := ?_
      copyOrder := fun hvalid => htopic _ (h.copyOrder hvalid)
      ready := ?_
      armed := h.armed
      armedTopic := ?_
      armedCopy := hcopy
      calls := ?_ }
  · rw [hinput]
    exact h.input
  · rw [hinput, htime]
    exact h.inputPast
  · rw [hmanual]
    exact h.sticks
  · rcases chain_received s.toPipeline e with hsame | ⟨hadvertised, hnews⟩
    · rw [hsame]
      exact h.received
    · rw [hnews]
      exact List.forall_mem_cons.mpr ⟨h.sticks hadvertised, h.received⟩
  · rw [hswitches]
    exact h.switches
  · rw [hswitches]
    exact h.topicOrder.mono fun _ hm hvalid => hbehind _ (hm hvalid)
  · intro hstate
    obtain ⟨hlow, hhigh, off, hoff, hready⟩ := h.ready hstate
    exact ⟨hlow, hhigh, off, hoff, htopic _ hready.toBehindTopic, hready.copy⟩
  · rw [harmed]
    exact h.armedTopic
  · intro c hc hdrive
    rcases hcalls c hc with hold | hnew
    · exact h.calls c hold hdrive
    · obtain ⟨m, hm, harmed, -⟩ := hnew hdrive
      exact hm harmed

/-! ### Every run -/

/-- Modules read the clock of their event, not the time of the run. -/
theorem chain_time (p : Pipeline D) (time : UInt64) (e : ChainEvent) :
    Pipeline.next { p with time } e = { p.next e with time } := by
  cases e with
  | stop node clock => cases node <;> simp only [Pipeline.next]
  | start node => cases node <;> simp only [Pipeline.next, Pipeline.startModule]
  | _ => simp only [Pipeline.next]

theorem chain_keeps_time (p : Pipeline D) (e : ChainEvent) : (p.next e).time = p.time := by
  cases e with
  | stop node clock => cases node <;> simp only [Pipeline.next]
  | start node => cases node <;> simp only [Pipeline.next, Pipeline.startModule]
  | _ => simp only [Pipeline.next]

theorem tick_eq (s : Robot D) (e : RobotEvent) :
    s.tick e = next { s with time := e.now?.getD s.time } e := by
  cases e with
  | sbusTurn turn =>
      obtain ⟨chain, sessions, rcUpdate, command, statics⟩ := s
      cases sessions with
      | nil => rfl
      | cons session earlier => rfl
  | chain event =>
      exact congrArg (fun p : Pipeline D => ({ s with toPipeline := p } : Robot D))
        (chain_time s.toPipeline _ event).symm
  | _ => rfl

/-- Whatever happens next, at the present time. -/
theorem Grounded.step {r : Float32} {s : Robot D} (h : Grounded r s) {e : RobotEvent}
    (hadmits : Admits r s e) (htime : ∀ now, e.now? = some now → s.time = now) :
    Grounded r (s.next e) := by
  cases e with
  | openPort clock => exact h.openPort clock
  | sbusTurn turn =>
      cases hsessions : s.sessions with
      | nil =>
          simp only [next, hsessions]
          exact h
      | cons session earlier =>
          simp only [next, hsessions]
          exact h.turn hsessions (htime _ rfl)
  | runRcUpdate clock => exact h.runRcUpdate clock
  | stopRcUpdate clock =>
      have hmanual : SticksFrom s.processed { timestamp := clock } := fun hvalid => by cases hvalid
      have hswitches : SwitchesFrom s.processed { timestamp := clock } := fun hvalid => by cases hvalid
      exact h.publish _ hmanual hswitches fun hvalid => by cases hvalid
  | startRcUpdate clock => exact h.replaceRcUpdate _
  | updateCommand clock arg => exact h.updateCommand clock arg
  | stopCommand clock =>
      exact
        { h with
          safe := { h.safe with }
          armedTopic := Topic.holds_publish _ fun harmed => by cases harmed }
  | startCommand => exact h.startCommand
  | setOutputInhibited inhibited => exact { h with safe := { h.safe with } }
  | reportWarnings => exact { h with safe := { h.safe with } }
  | chain event =>
      obtain ⟨hclock, hforeign, hparams⟩ := hadmits
      refine h.chain (hforeign event rfl) ⟨hclock, ?_⟩ (chain_keeps_time s.toPipeline event)
      intro params heq
      exact hparams params (congrArg RobotEvent.chain heq)

omit [OutputInterface D] in
theorem Start.grounded {r : Float32} {s : Robot D} (h : Start r s) : Grounded r s := by
  obtain ⟨hchain, hsessions, hprocessed, -, hcommand⟩ := h
  have hsafe := Pipeline.Start.safe hchain
  obtain ⟨-, hbus, -, -, -, ⟨names, maxOutputs, hmixing⟩, hcalls, hreceived⟩ := hchain
  obtain ⟨_, _, _, _, hframe⟩ := MixingOutput.construct_frame s.params names maxOutputs
  have hwaits : s.command.armSafety.state = .waitForOff := by
    rw [hcommand, Command.construct_armSafety]
  have hempty : s.command.switches = {} := by
    rw [hcommand]
    unfold Command.construct
    exact (updateParameters_switches _).1
  refine
    { safe := hsafe
      heard := by rw [hsessions]; exact fun _ hmem => by cases hmem
      input := by rw [hbus]; exact fun hadvertised => by cases hadvertised
      onAir := by rw [hprocessed]; exact fun _ hmem => by cases hmem
      inputPast := by rw [hbus]; exact fun hadvertised => by cases hadvertised
      sticks := by rw [hbus]; exact fun hadvertised => by cases hadvertised
      received := by rw [hreceived]; exact fun _ hmem => by cases hmem
      switches := by rw [hbus]; exact fun hadvertised => by cases hadvertised
      copy := by rw [hempty]; exact fun hvalid => by cases hvalid
      topicOrder := by rw [hbus]; exact fun hadvertised => by cases hadvertised
      copyOrder := by rw [hempty]; exact fun hvalid => by cases hvalid
      ready := fun hstate => absurd hwaits hstate
      armed := fun hstate => by rw [hwaits] at hstate; cases hstate
      armedTopic := by rw [hbus]; exact fun hadvertised => by cases hadvertised
      armedCopy := by rw [hmixing, hframe]; exact fun harmed => by cases harmed
      calls := by rw [hcalls]; exact fun _ hmem => by cases hmem }

theorem grounded {r : Float32} {s : Robot D} (h : (system D r).Reachable s) : Grounded r s := by
  refine h.invariant (Grounded r) (fun s hs => Start.grounded hs) ?_
  rintro s e t - hs ⟨⟨hclock, hrest⟩, rfl⟩
  rw [tick_eq]
  cases hnow : e.now? with
  | none =>
      refine Grounded.step (s := { s with time := s.time }) hs ⟨hclock, hrest⟩ ?_
      intro now hsome
      rw [hnow] at hsome
      cases hsome
  | some now =>
      refine Grounded.step (hs.later (hclock now hnow)) ⟨?_, hrest⟩ ?_
      · intro now' hsome
        rw [hnow] at hsome
        cases hsome
        exact UInt64.le_refl _
      · intro now' hsome
        rw [hnow] at hsome
        cases hsome
        rfl

/-- Valid sticks and switches, whoever reads them from the topics, are the channels of a frame that the
scanner finds in the bytes, without the failsafe flag, calibrated as `rc_update` was configured then. -/
theorem sticks_from_stream {r : Float32} {s : Robot D} (h : (system D r).Reachable s) :
    (∀ m, s.bus.manualControl.copy = some m → m.valid = true →
        ∃ p ∈ s.processed, m = p.manual ∧ OnAir s.sessions p.input) ∧
      ∀ m, s.bus.manualControlSwitches.copy = some m → m.valid = true →
        ∃ p ∈ s.processed, m = p.switches ∧ OnAir s.sessions p.input := by
  have hs := grounded h
  refine ⟨?_, ?_⟩
  · intro m hcopy hvalid
    obtain ⟨p, hp, hgood, hmade⟩ := holds_copy hs.sticks hcopy hvalid
    exact ⟨p, hp, hmade, hs.onAir p hp hgood⟩
  · intro m hcopy hvalid
    obtain ⟨p, hp, hgood, hmade⟩ := holds_copy hs.switches hcopy hvalid
    exact ⟨p, hp, hmade, hs.onAir p hp hgood⟩

/-- Arming evidence in terms of the bytes: one frame with the arm switch off, and one that is not older
with the arm switch on. -/
def ArmedByFrames (sessions : List SbusRun) (processed : List Processed) : Prop :=
  ∃ armSwitch : Int32, 1 ≤ armSwitch.toInt ∧ armSwitch.toInt ≤ 12 ∧
    ∃ off ∈ processed, ∃ on ∈ processed, OnAir sessions off.input ∧ OnAir sessions on.input ∧
      off.input.timestampLastSignal ≤ on.input.timestampLastSignal ∧
      off.switches.positions.getD (armSwitch.toInt - 1).toNat 0 = POSITION_OFF ∧
      on.switches.positions.getD (armSwitch.toInt - 1).toNat 0 = POSITION_ON

omit [OutputInterface D] in
theorem Grounded.armedByFrames {r : Float32} {s : Robot D} (h : Grounded r s)
    (harmed : ArmedBy s.processed) : ArmedByFrames s.sessions s.processed := by
  obtain ⟨armSwitch, hlow, hhigh, _, _, hle, ⟨off, hoff, hoffGood, rfl, hoffShown⟩,
    on, hon, honGood, rfl, honShown⟩ := harmed
  exact ⟨armSwitch, hlow, hhigh, off, hoff, on, hon, h.onAir off hoff hoffGood, h.onAir on hon honGood,
    UInt64.le_iff_toNat_le.mpr hle, hoffShown, honShown⟩

/-- From the bytes to the wheels. A driver call that passes a non-zero value on a motor channel rests on a
frame without the failsafe flag that was complete at most the RC timeout and one and a half seconds before
the call, and on frames that have armed the robot. -/
theorem wheels_from_stream {r : Float32} {s : Robot D} (h : (system D r).Reachable s) :
    ∀ c ∈ s.driver.calls, c.stopOutputs = false → ∀ channel,
      outputFunctionIsMotor (c.functions.getD channel .Disabled) = true →
      ¬ IsZero (c.value channel) →
      ArmedByFrames s.sessions s.processed ∧ ∃ p ∈ s.processed, OnAir s.sessions p.input ∧
        c.now.toNat ≤
          p.input.timestampLastSignal.toNat + (Failsafe.policyTimeout r).toNat + 1500000 := by
  intro c hc hdrive channel hmotor hmove
  have hs := grounded h
  obtain ⟨x, ⟨m, hm, hvalid, rfl⟩, hage⟩ := hs.safe.calls c hc hdrive channel hmotor hmove
  obtain ⟨p, hp, hgood, hmade⟩ := hs.received m hm hvalid
  refine ⟨hs.armedByFrames (hs.calls c hc hdrive), p, hp, hs.onAir p hp hgood, ?_⟩
  have hsample : m.timestampSample = p.input.timestampLastSignal :=
    congrArg ManualControl.timestampSample hmade
  rw [← hsample]
  simpa only [Nat.add_assoc, Nat.reduceAdd] using hage

/-! ## A run in which the wheels turn -/

/-- The chain's table with calibration and mapping of the sticks and of one switch. -/
def demoParams : ParamTable :=
  Pipeline.demoParams ++ RcRun.stickParams ++
    [⟨cstr "RC5_MIN", .float, .ofReal 1000, .ofReal 1000⟩,
      ⟨cstr "RC5_MAX", .float, .ofReal 2000, .ofReal 2000⟩,
      ⟨cstr "RC5_TRIM", .float, .ofReal 1500, .ofReal 1500⟩,
      ⟨cstr "RC5_DZ", .float, .ofReal 20, .ofReal 20⟩,
      ⟨cstr "RC5_REV", .float, .ofReal 1, .ofReal 1⟩,
      ⟨cstr "RC_MAP_SW1", .int32, .ofInteger 5, .ofInteger 5⟩,
      ⟨cstr "CA_ARM_SW", .int32, .ofInteger 1, .ofInteger 1⟩]

/-- The robot after start-up with that table. -/
def demoStart : Robot ScriptedDriver where
  time := 0
  params := demoParams
  bus := {}
  failsafe := .construct demoParams
  robotControl := .construct demoParams
  controlAllocator := .construct demoParams 1 (.construct demoParams)
  mixingOutput := .construct demoParams (some [cstr "CAN_M0_FUNC"]) 1
  driver := ⟨{}, []⟩
  rcUpdate := (RcUpdate.construct demoParams).initWorkQueue 1
  command := .construct demoParams

/-- The value of a channel, in the eleven bits of the frame. -/
def stick (raw : Nat) : Fin 2048 := ⟨raw % 2048, Nat.mod_lt raw (Nat.succ_pos 2047)⟩

theorem validEndByte_zero : SbusDecoder.validEndByte 0 = true := rfl

/-- The bytes for full throttle and a position of the arm switch. -/
def demoFrame (armSwitch : Nat) : List UInt8 :=
  (SbusContents.encode
    { channels := (#v[1000, 1000, 1800, 1000, armSwitch, 1000, 1000, 1000, 1000, 1000, 1000, 1000,
        1000, 1000, 1000, 1000] : Vector Nat 16).map stick
      flags := 0, endByte := 0, accepted := validEndByte_zero }).toList

/-- Three frames with the switch off, one with the switch on, and the chain once. -/
def demoRun : List RobotEvent :=
  [.openPort 1000, .sbusTurn ⟨.data (demoFrame 300), 10000⟩, .runRcUpdate 10000,
    .sbusTurn ⟨.data (demoFrame 300), 20000⟩, .runRcUpdate 20000,
    .sbusTurn ⟨.data (demoFrame 300), 30000⟩, .runRcUpdate 30000, .updateCommand 30000 0,
    .sbusTurn ⟨.data (demoFrame 1800), 40000⟩, .runRcUpdate 40000, .updateCommand 40000 0,
    .chain (.updateFailsafe 40000 0), .chain (.updateRobotControl 40000 0),
    .chain (.runControlAllocator 40000), .chain (.updateMixingOutput 40000 0)]

theorem demoStart_start : Start 0.5 demoStart :=
  ⟨⟨⟨by decide +kernel, by decide +kernel⟩, rfl, rfl, rfl, ⟨1, rfl⟩, ⟨_, _, rfl⟩, rfl, rfl⟩,
    rfl, rfl, ⟨1, rfl⟩, rfl⟩

theorem demoRun_admitted : Transition.Along (Admits 0.5) tick demoStart demoRun := by
  simp only [demoRun, Transition.Along]
  repeat' apply And.intro
  all_goals
    first
    | (rintro now ⟨⟩; decide +kernel)
    | (rintro event ⟨⟩ hforeign; exact hforeign)
    | rintro params ⟨⟩
    | trivial

theorem demoRun_reachable :
    (system ScriptedDriver 0.5).Reachable (demoRun.foldl tick demoStart) := by
  have hstart : (system ScriptedDriver 0.5).Reachable demoStart := .start demoStart_start
  exact hstart.foldl_restrict demoRun_admitted

theorem sticks_from_stream_demo :
    ∃ p ∈ (demoRun.foldl tick demoStart).processed,
      (demoRun.foldl tick demoStart).bus.manualControl.message = p.manual ∧
        OnAir (demoRun.foldl tick demoStart).sessions p.input :=
  (sticks_from_stream demoRun_reachable).1 _ (if_pos (by decide +kernel)) (by decide +kernel)

theorem wheels_from_stream_demo :
    ∃ c ∈ (demoRun.foldl tick demoStart).driver.calls, ¬ IsZero (c.value 0) ∧
      ∃ p ∈ (demoRun.foldl tick demoStart).processed,
        OnAir (demoRun.foldl tick demoStart).sessions p.input ∧
          c.now.toNat ≤
            p.input.timestampLastSignal.toNat + (Failsafe.policyTimeout 0.5).toNat + 1500000 := by
  obtain ⟨c, hc, hdrive, hmotor, hmove⟩ : ∃ c ∈ (demoRun.foldl tick demoStart).driver.calls,
      c.stopOutputs = false ∧ outputFunctionIsMotor (c.functions.getD 0 .Disabled) = true ∧
        (c.value 0 == 0) = false := by
    decide +kernel
  have hmove' : ¬ IsZero (c.value 0) := by
    rw [isZero_iff_beq, hmove]
    exact Bool.false_ne_true
  exact ⟨c, hc, hmove', (wheels_from_stream demoRun_reachable c hc hdrive 0 hmotor hmove').2⟩

end Robot

end DualMagneticWheel
