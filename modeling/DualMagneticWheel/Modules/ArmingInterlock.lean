/-
# DualMagneticWheel.Modules.ArmingInterlock — when a run of Command may arm the robot

The runs of this module publish any stick and switch messages, change `CA_ARM_SW` and the operator's
inhibit at will, and update at any time. Each update leaves a record of what it had before it. `MayArm`
judges the records since the mapping last changed; `update_armed_iff` says that the published arming
state is that judgement, unless the operator inhibits outputs.

The bridge is one equation: the interlock of the module is the interlock run over the observations of
those records.
-/
import DualMagneticWheel.Modules.Command
import DualMagneticWheel.Foundation.Transition

namespace DualMagneticWheel

open Foundation ManualControlSwitches

/-- What an update found after its readings, and whether these changed the mapped switch. -/
structure UpdateRecord where
  command : Command
  now : UInt64
  remapped : Bool

namespace UpdateRecord

/-- The update observed the switch in that position. -/
def Observes (r : UpdateRecord) (position : UInt8) : Prop :=
  Command.Observes r.command.manual r.command.switches r.command.armSwitch r.now position

/-- What the interlock is shown. -/
def observation (r : UpdateRecord) : Option UInt8 := r.command.observation r.now

theorem observation_eq_some {r : UpdateRecord} {position : UInt8} :
    r.observation = some position ↔ r.Observes position :=
  r.command.observation_eq_some r.now position

theorem observation_eq_none {r : UpdateRecord} :
    r.observation = none ↔ ∀ position, ¬ r.Observes position := by
  rw [Option.eq_none_iff_forall_not_mem]
  exact forall_congr' fun position => not_congr observation_eq_some

end UpdateRecord

/-- The records since the last change of the mapping, that update included. Newest record first. -/
def segment : List UpdateRecord → List UpdateRecord
  | [] => []
  | r :: before => if r.remapped then [r] else r :: segment before

/-- In the current segment some update observed the switch off, a later one on, and every update after
that one observed it on or not at all. -/
def MayArm (history : List UpdateRecord) : Prop :=
  ∃ after on before, segment history = after ++ on :: before ∧ on.Observes POSITION_ON ∧
    (∃ off ∈ before, off.Observes POSITION_OFF) ∧
    ∀ r ∈ after, r.Observes POSITION_ON ∨ ∀ position, ¬ r.Observes position

/-- The judgement on records is the armed trace of their observations. -/
theorem armedTrace_iff_mayArm (history : List UpdateRecord) :
    ArmSafety.ArmedTrace ((segment history).map UpdateRecord.observation) ↔ MayArm history := by
  constructor
  · rintro ⟨after, before, heq, hoff, hafter⟩
    obtain ⟨after', rest, hseg, rfl, hrest⟩ := List.map_eq_append_iff.mp heq
    obtain ⟨on, before', rfl, hon, rfl⟩ := List.map_eq_cons_iff.mp hrest
    obtain ⟨off, hmem, hoff⟩ := List.mem_map.mp hoff
    refine ⟨after', on, before', hseg, UpdateRecord.observation_eq_some.mp hon,
      ⟨off, hmem, UpdateRecord.observation_eq_some.mp hoff⟩, ?_⟩
    intro r hr
    rcases hafter _ (List.mem_map_of_mem hr) with h | h
    · exact Or.inl (UpdateRecord.observation_eq_some.mp h)
    · exact Or.inr (UpdateRecord.observation_eq_none.mp h)
  · rintro ⟨after, on, before, hseg, hon, ⟨off, hmem, hoff⟩, hafter⟩
    refine ⟨after.map UpdateRecord.observation, before.map UpdateRecord.observation, ?_, ?_, ?_⟩
    · rw [hseg, List.map_append, List.map_cons, UpdateRecord.observation_eq_some.mpr hon]
    · rw [← UpdateRecord.observation_eq_some.mpr hoff]
      exact List.mem_map_of_mem hmem
    · intro o ho
      obtain ⟨r, hr, rfl⟩ := List.mem_map.mp ho
      rcases hafter r hr with h | h
      · exact Or.inl (UpdateRecord.observation_eq_some.mpr h)
      · exact Or.inr (UpdateRecord.observation_eq_none.mpr h)

/-! ## Runs -/

/-- The module with its topics, its static members and its records, newest first. -/
structure CommandRun where
  params : ParamTable
  bus : Topics
  statics : CommandStatics
  command : Command
  history : List UpdateRecord := []

/-- What can happen around the module. -/
inductive CommandEvent where
  | publishManual (message : ManualControl)
  | publishSwitches (message : ManualControlSwitches)
  | setParams (params : ParamTable)
  | notifyParams (notice : ParameterUpdate)
  | setOutputInhibited (inhibited : Bool)
  | reportWarnings
  | update (clock arg : UInt64)

namespace CommandRun

/-- One event. -/
def next (s : CommandRun) : CommandEvent → CommandRun
  | .publishManual message =>
      { s with bus := { s.bus with manualControl := s.bus.manualControl.publish message } }
  | .publishSwitches message =>
      { s with
        bus := { s.bus with manualControlSwitches := s.bus.manualControlSwitches.publish message } }
  | .setParams params => { s with params }
  | .notifyParams notice =>
      { s with bus := { s.bus with parameterUpdate := s.bus.parameterUpdate.publish notice } }
  | .setOutputInhibited inhibited =>
      { s with statics := { s.statics with outputInhibited := inhibited } }
  | .reportWarnings => { s with statics := (Command.reportWarnings s.statics).2 }
  | .update clock arg =>
      let found := s.command.readTopics s.params s.bus
      let (command, statics, bus) := s.command.update s.params clock arg s.bus s.statics
      { s with
        command, statics, bus
        history :=
          ⟨found, effectiveNow clock arg, found.armSwitch != s.command.armSwitch⟩ :: s.history }

/-- A newly constructed module without records, in any surroundings. -/
def Start (s : CommandRun) : Prop := s.command = .construct s.params ∧ s.history = []

/-- All runs of the module. -/
def system : Transition CommandRun CommandEvent := .ofFun Start next

end CommandRun

/-! ## The interlock follows the records -/

namespace Command

theorem updateParameters_armSafety (c : Command) :
    c.updateParameters.armSafety =
      if c.updateParameters.armSwitch != c.armSwitch then {} else c.armSafety := by
  unfold updateParameters
  by_cases h : c.armSwitch = c.paramArmSwitch.value
  · simp [h]
  · have hne : c.paramArmSwitch.value ≠ c.armSwitch := fun heq => h heq.symm
    simp [h, hne, ArmSafety.reset]

/-- The readings restart the interlock exactly when they change the mapped switch. -/
theorem readTopics_armSafety (params : ParamTable) (bus : Topics) (c : Command) :
    (c.readTopics params bus).armSafety =
      if (c.readTopics params bus).armSwitch != c.armSwitch then {} else c.armSafety := by
  unfold readTopics
  simp only
  split
  · exact updateParameters_armSafety _
  · simp

theorem construct_armSafety (params : ParamTable) : (construct params).armSafety = {} := by
  unfold construct
  rw [updateParameters_armSafety]
  split <;> rfl

end Command

theorem CommandRun.armSafety_eq {s : CommandRun} (h : CommandRun.system.Reachable s) :
    s.command.armSafety = ArmSafety.run ((segment s.history).map UpdateRecord.observation) := by
  refine h.invariant (fun s => s.command.armSafety =
    ArmSafety.run ((segment s.history).map UpdateRecord.observation)) ?_ ?_
  · rintro s ⟨hcommand, hhistory⟩
    rw [hcommand, hhistory]
    exact Command.construct_armSafety s.params
  · rintro s e t - hs rfl
    cases e with
    | update clock arg =>
        have hstep := (Command.updateSafety_spec (effectiveNow clock arg) s.bus s.statics
          (s.command.readTopics s.params s.bus)).1
        show (Command.updateSafety (effectiveNow clock arg) s.bus s.statics _).1.armSafety = _
        rw [hstep, Command.readTopics_armSafety]
        show _ = ArmSafety.run ((segment (_ :: s.history)).map UpdateRecord.observation)
        unfold segment
        simp only
        split
        · rfl
        · show ArmSafety.observe _ _ = ArmSafety.observe _ _
          rw [hs]
          rfl
    | _ => exact hs

/-! ## The records and the topics -/

namespace Command

/-- Each copy goes with the generation its subscription has seen. -/
structure Current (c : Command) (bus : Topics) : Prop where
  manual : c.manualSubscription.Current bus.manualControl {} c.manual
  switches : c.switchSubscription.Current bus.manualControlSwitches {} c.switches

/-- A change of the mapping is not about the copies. -/
theorem Current.updateParameters {c : Command} {bus : Topics} (h : c.Current bus) :
    c.updateParameters.Current bus := by
  unfold Command.updateParameters
  dsimp only
  split
  · exact ⟨h.manual, h.switches⟩
  · exact h

/-- After the readings each copy is the latest message of its topic, or the default before the first. -/
theorem Current.readTopics {c : Command} {bus : Topics} (h : c.Current bus) (params : ParamTable) :
    (c.readTopics params bus).Current bus ∧
      (c.readTopics params bus).manual = bus.manualControl.copy.getD {} ∧
      (c.readTopics params bus).switches = bus.manualControlSwitches.copy.getD {} := by
  unfold Command.readTopics
  dsimp only
  split
  · have hcurrent : (Command.updateParams params { c with
        parameterSubscription := (c.parameterSubscription.update bus.parameterUpdate {}).subscription }
          ).2.updateParameters.Current bus := Current.updateParameters ⟨h.manual, h.switches⟩
    exact ⟨⟨hcurrent.manual.update.1, hcurrent.switches.update.1⟩, hcurrent.manual.update.2,
      hcurrent.switches.update.2⟩
  · exact ⟨⟨h.manual.update.1, h.switches.update.1⟩, h.manual.update.2, h.switches.update.2⟩

end Command

namespace CommandRun

/-- The publication does not bring the counter of its topic round to what the module has seen: fewer than
2^32 messages have come since the last reading. -/
def Unwrapped (s : CommandRun) : CommandEvent → Prop
  | .publishManual _ => s.command.manualSubscription.generation ≠ s.bus.manualControl.generation + 1
  | .publishSwitches _ =>
      s.command.switchSubscription.generation ≠ s.bus.manualControlSwitches.generation + 1
  | _ => True

instance (s : CommandRun) (e : CommandEvent) : Decidable (s.Unwrapped e) :=
  match e with
  | .publishManual _ => inferInstanceAs (Decidable (_ ≠ _))
  | .publishSwitches _ => inferInstanceAs (Decidable (_ ≠ _))
  | .setParams _ => inferInstanceAs (Decidable True)
  | .notifyParams _ => inferInstanceAs (Decidable True)
  | .setOutputInhibited _ => inferInstanceAs (Decidable True)
  | .reportWarnings => inferInstanceAs (Decidable True)
  | .update _ _ => inferInstanceAs (Decidable True)

/-- The runs that begin with empty topics and read them in time. -/
def timely : Transition CommandRun CommandEvent :=
  (Transition.ofFun (fun s => s.Start ∧ s.bus = {}) next).restrict Unwrapped

theorem current {s : CommandRun} (h : timely.Reachable s) : s.command.Current s.bus := by
  refine h.invariant (fun s => s.command.Current s.bus) ?_ ?_
  · rintro s ⟨⟨hcommand, -⟩, hbus⟩
    rw [hcommand, hbus]
    exact Command.Current.updateParameters ⟨⟨nofun, fun _ => rfl⟩, ⟨nofun, fun _ => rfl⟩⟩
  · rintro s e t - hs ⟨hunwrapped, rfl⟩
    cases e with
    | publishManual message => exact ⟨Subscription.current_publish _ _ _ hunwrapped, hs.switches⟩
    | publishSwitches message => exact ⟨hs.manual, Subscription.current_publish _ _ _ hunwrapped⟩
    | update clock arg =>
        obtain ⟨hmanual, hswitches⟩ := (hs.readTopics s.params).1
        exact ⟨hmanual, hswitches⟩
    | _ => exact ⟨hs.manual, hs.switches⟩

end CommandRun

/-- The arming interlock over whole runs. An update publishes `armed` if and only if outputs are not
inhibited and the records, this update's included, allow it. Its own record has the clock of the update,
and the latest messages if no topic got 2^32 of them unread. -/
theorem CommandRun.update_armed_iff {s t : CommandRun} {clock arg : UInt64}
    (h : CommandRun.system.Reachable s) (hstep : CommandRun.system.step s (.update clock arg) t) :
    (t.bus.actuatorArmed.message.armed = true ↔
      s.statics.outputInhibited = false ∧ MayArm t.history) ∧
      ∃ r, t.history = r :: s.history ∧ r.now = effectiveNow clock arg ∧
        (CommandRun.timely.Reachable s → r.command.manual = s.bus.manualControl.copy.getD {} ∧
          r.command.switches = s.bus.manualControlSwitches.copy.getD {}) := by
  have hreach : CommandRun.system.Reachable t := h.next hstep
  have hrun := CommandRun.armSafety_eq hreach
  cases hstep
  obtain ⟨hobserve, harmed⟩ := Command.updateSafety_spec (effectiveNow clock arg) s.bus s.statics
    (s.command.readTopics s.params s.bus)
  refine ⟨?_, _, rfl, rfl, fun htimely => ((current htimely).readTopics s.params).2⟩
  show (Command.updateSafety _ s.bus s.statics _).2.2.actuatorArmed.message.armed = true ↔ _
  rw [harmed, ← hobserve, and_comm, ← armedTrace_iff_mayArm, ← ArmSafety.run_armed_iff, ← hrun]
  rfl

/-- A module whose safety switch is the first one. -/
def CommandRun.demoStart : CommandRun :=
  let params : ParamTable := [⟨cstr "CA_ARM_SW", .int32, .ofInteger 1, .ofInteger 1⟩]
  { params, bus := {}, statics := {}, command := .construct params }

/-- The switch is seen off and is then thrown; one more update will see it on. -/
def CommandRun.demoRun : CommandRun :=
  let switches (position : UInt8) : ManualControlSwitches :=
    { timestampSample := 100, positions := Vector.replicate 12 position, switchCount := 1,
      valid := true }
  [.publishManual { timestampSample := 100, valid := true }, .publishSwitches (switches POSITION_OFF),
    .update 200 0, .publishSwitches (switches POSITION_ON)].foldl next demoStart

theorem CommandRun.update_armed_demo :
    (CommandRun.demoRun.statics.outputInhibited = false ∧
      MayArm (CommandRun.demoRun.next (.update 300 0)).history) ∧
    ∃ r, (CommandRun.demoRun.next (.update 300 0)).history = r :: CommandRun.demoRun.history ∧
      r.command.manual = CommandRun.demoRun.bus.manualControl.copy.getD {} := by
  have hstart : CommandRun.timely.Reachable CommandRun.demoStart := .start ⟨⟨rfl, rfl⟩, rfl⟩
  have hrun : CommandRun.timely.Reachable CommandRun.demoRun := hstart.foldl_restrict (by decide +kernel)
  have hsystem : CommandRun.system.Reachable CommandRun.demoStart := .start ⟨rfl, rfl⟩
  have hstep : CommandRun.system.step CommandRun.demoRun (.update 300 0)
      (CommandRun.demoRun.next (.update 300 0)) := rfl
  obtain ⟨harmed, r, hhistory, -, hlatest⟩ := CommandRun.update_armed_iff (hsystem.foldl _) hstep
  exact ⟨harmed.mp (by decide +kernel), r, hhistory, (hlatest hrun).1⟩

end DualMagneticWheel
