/-
# DualMagneticWheel.Runtime.RobotModules — the five queued modules of the robot

`RcUpdate` and `Command` run on the safety queue, `Failsafe`, `RobotControl` and `ControlAllocator` on
the control queue. Each is wired as its constructor, `initWorkQueue`, `Run` and `onWorkQueueStopped` say;
the topics without an owner are those of the SBUS driver and of the parameter store.

The two results are about every interleaving: no publication is lost to a running module, and a module
that is stopped leaves no reference to its object and its safe messages as the last word.
-/
import DualMagneticWheel.Modules.Command
import DualMagneticWheel.Modules.ControlAllocator
import DualMagneticWheel.Modules.Failsafe
import DualMagneticWheel.Modules.RobotControl
import DualMagneticWheel.Rc.RcUpdate
import DualMagneticWheel.Runtime.Delivery
import DualMagneticWheel.Runtime.SignOff

namespace DualMagneticWheel

open Foundation

/-! ## The wiring -/

inductive RobotModule where
  | rcUpdate
  | failsafe
  | robotControl
  | controlAllocator
  | command
  deriving DecidableEq

/-- `SafetyQueue()` and `ControlQueue()`. -/
inductive RobotQueue where
  | safety
  | control
  deriving DecidableEq

/-- The topics that a queued module reads or publishes. -/
inductive RobotTopic where
  | inputRc
  | parameterUpdate
  | rcChannels
  | manualControl
  | manualControlSwitches
  | failsafeStatus
  | robotControlSetpoint
  | actuatorMotors
  | actuatorServos
  | actuatorArmed
  deriving DecidableEq

namespace RobotTopic

def Message : RobotTopic → Type
  | .inputRc => InputRc
  | .parameterUpdate => ParameterUpdate
  | .rcChannels => RcChannels
  | .manualControl => ManualControl
  | .manualControlSwitches => ManualControlSwitches
  | .failsafeStatus => FailsafeStatus
  | .robotControlSetpoint => RobotControlSetpoint
  | .actuatorMotors => ActuatorMotors
  | .actuatorServos => ActuatorServos
  | .actuatorArmed => ActuatorArmed

/-- The value-initialised message. -/
def blank : (τ : RobotTopic) → Message τ
  | .inputRc => ({} : InputRc)
  | .parameterUpdate => ({} : ParameterUpdate)
  | .rcChannels => ({} : RcChannels)
  | .manualControl => ({} : ManualControl)
  | .manualControlSwitches => ({} : ManualControlSwitches)
  | .failsafeStatus => ({} : FailsafeStatus)
  | .robotControlSetpoint => ({} : RobotControlSetpoint)
  | .actuatorMotors => ({} : ActuatorMotors)
  | .actuatorServos => ({} : ActuatorServos)
  | .actuatorArmed => ({} : ActuatorArmed)

/-- The module that publishes on the topic. -/
def owner : RobotTopic → Option RobotModule
  | .inputRc | .parameterUpdate => none
  | .rcChannels | .manualControl | .manualControlSwitches => some .rcUpdate
  | .failsafeStatus => some .failsafe
  | .robotControlSetpoint => some .robotControl
  | .actuatorMotors | .actuatorServos => some .controlAllocator
  | .actuatorArmed => some .command

/-- Disarmed, failsafe active, invalid setpoint, invalid motors and servos, or a lost link. -/
def Safe : (τ : RobotTopic) → Message τ → Prop
  | .inputRc, _ | .parameterUpdate, _ => True
  | .rcChannels, message => RcChannels.signalLost message = true
  | .manualControl, message => ManualControl.valid message = false
  | .manualControlSwitches, message => ManualControlSwitches.valid message = false
  | .failsafeStatus, message => FailsafeStatus.active message = true
  | .robotControlSetpoint, message => RobotControlSetpoint.valid message = false
  | .actuatorMotors, message => ActuatorControls.valid message = false
  | .actuatorServos, message => ActuatorControls.valid message = false
  | .actuatorArmed, message => ActuatorArmed.armed message = false

/-- Publish a message on its topic of the bus. -/
def publishTo (bus : Topics) : Sigma Message → Topics
  | ⟨.inputRc, message⟩ => { bus with inputRc := bus.inputRc.publish message }
  | ⟨.parameterUpdate, message⟩ => { bus with parameterUpdate := bus.parameterUpdate.publish message }
  | ⟨.rcChannels, message⟩ => { bus with rcChannels := bus.rcChannels.publish message }
  | ⟨.manualControl, message⟩ => { bus with manualControl := bus.manualControl.publish message }
  | ⟨.manualControlSwitches, message⟩ =>
      { bus with manualControlSwitches := bus.manualControlSwitches.publish message }
  | ⟨.failsafeStatus, message⟩ => { bus with failsafeStatus := bus.failsafeStatus.publish message }
  | ⟨.robotControlSetpoint, message⟩ =>
      { bus with robotControlSetpoint := bus.robotControlSetpoint.publish message }
  | ⟨.actuatorMotors, message⟩ => { bus with actuatorMotors := bus.actuatorMotors.publish message }
  | ⟨.actuatorServos, message⟩ => { bus with actuatorServos := bus.actuatorServos.publish message }
  | ⟨.actuatorArmed, message⟩ => { bus with actuatorArmed := bus.actuatorArmed.publish message }

end RobotTopic

namespace RobotModule

open RobotTopic (Message)

def queue : RobotModule → RobotQueue
  | .rcUpdate | .command => .safety
  | .failsafe | .robotControl | .controlAllocator => .control

def periodUs : RobotModule → UInt64
  | .rcUpdate => 10000
  | _ => 20000

/-- `initWorkQueue`. -/
def callbacks : RobotModule → List RobotTopic
  | .rcUpdate => [.inputRc, .parameterUpdate]
  | .failsafe => [.manualControl, .parameterUpdate]
  | .robotControl => [.manualControl, .failsafeStatus, .parameterUpdate]
  | .controlAllocator => [.robotControlSetpoint, .parameterUpdate]
  | .command => [.manualControl, .manualControlSwitches, .parameterUpdate]

/-- `Run`. `RcUpdate` does not publish in every `Run`. -/
def run : RobotModule → List (RunOp RobotTopic)
  | .rcUpdate => [.update .parameterUpdate, .update .inputRc, .publish .rcChannels,
      .publish .manualControl, .publish .manualControlSwitches]
  | .failsafe => [.update .manualControl, .update .parameterUpdate, .publish .failsafeStatus]
  | .robotControl => [.update .parameterUpdate, .update .manualControl, .update .failsafeStatus,
      .publish .robotControlSetpoint]
  | .controlAllocator => [.update .parameterUpdate, .update .robotControlSetpoint,
      .publish .actuatorMotors, .publish .actuatorServos]
  | .command => [.update .parameterUpdate, .update .manualControl, .update .manualControlSwitches,
      .publish .actuatorArmed]

/-- `onWorkQueueStopped`. -/
def onWorkQueueStopped (m : RobotModule) (now : UInt64) : List (Sigma Message) :=
  match m with
  | .rcUpdate =>
      [⟨.rcChannels,
          ({ timestamp := now, signalLost := true, function := Vector.replicate 16 (-1) } :
            RcChannels)⟩,
        ⟨.manualControl, ({ timestamp := now } : ManualControl)⟩,
        ⟨.manualControlSwitches, ({ timestamp := now } : ManualControlSwitches)⟩]
  | .failsafe => [⟨.failsafeStatus, ({ timestamp := now, active := true } : FailsafeStatus)⟩]
  | .robotControl =>
      [⟨.robotControlSetpoint, ({ timestamp := now, failsafe := true } : RobotControlSetpoint)⟩]
  | .controlAllocator =>
      [⟨.actuatorMotors, ({ timestamp := now } : ActuatorMotors)⟩,
        ⟨.actuatorServos, ({ timestamp := now } : ActuatorServos)⟩]
  | .command => [⟨.actuatorArmed, ({ timestamp := now } : ActuatorArmed)⟩]

/-- Published in order, these messages are what the modules publish when they stop. -/
theorem onWorkQueueStopped_bus (m : RobotModule) (now : UInt64) (bus : Topics) :
    (m.onWorkQueueStopped now).foldl RobotTopic.publishTo bus =
      match m with
      | .rcUpdate => RcUpdate.onWorkQueueStopped now bus
      | .failsafe => Failsafe.onWorkQueueStopped now bus
      | .robotControl => RobotControl.onWorkQueueStopped now bus
      | .controlAllocator => ControlAllocator.onWorkQueueStopped now bus
      | .command => Command.onWorkQueueStopped now bus := by
  cases m <;> rfl

/-- The messages of a module that stops are safe. -/
theorem onWorkQueueStopped_safe (m : RobotModule) (now : UInt64) :
    ∀ p ∈ m.onWorkQueueStopped now, RobotTopic.Safe p.1 p.2 := by
  intro p hp
  cases m with
  | rcUpdate =>
      rcases List.mem_cons.mp hp with rfl | hp
      · rfl
      · rcases List.mem_cons.mp hp with rfl | hp
        · rfl
        · rw [List.mem_singleton.mp hp]
          rfl
  | controlAllocator =>
      rcases List.mem_cons.mp hp with rfl | hp
      · rfl
      · rw [List.mem_singleton.mp hp]
        rfl
  | failsafe | robotControl | command =>
      rw [List.mem_singleton.mp hp]
      rfl

end RobotModule

/-- The wiring of the robot. -/
def robotWiring : Wiring RobotModule RobotQueue RobotTopic.Message where
  queue := RobotModule.queue
  periodUs := RobotModule.periodUs
  callbacks := RobotModule.callbacks
  run := RobotModule.run
  onWorkQueueStopped := RobotModule.onWorkQueueStopped
  owner := RobotTopic.owner
  blank := RobotTopic.blank
  callbacks_nodup m := by cases m <;> decide
  update_callbacks m := by cases m <;> decide
  publish_owner m τ := by cases m <;> cases τ <;> decide
  stopped_owner m now p hp := by
    cases m <;> simp only [RobotModule.onWorkQueueStopped, List.mem_cons, List.not_mem_nil,
      or_false] at hp
    · rcases hp with rfl | rfl | rfl <;> rfl
    · rw [hp]
      rfl
    · rw [hp]
      rfl
    · rcases hp with rfl | rfl <;> rfl
    · rw [hp]
      rfl
  stopped_nodup m now := by
    have hnodup : ∀ topics : List RobotTopic,
        (m.onWorkQueueStopped now).map Sigma.fst = topics → topics.Nodup →
          ((m.onWorkQueueStopped now).map Sigma.fst).Nodup := by
      rintro topics rfl h
      exact h
    cases m
    · exact hnodup [.rcChannels, .manualControl, .manualControlSwitches] rfl (by decide)
    · exact hnodup [.failsafeStatus] rfl (by decide)
    · exact hnodup [.robotControlSetpoint] rfl (by decide)
    · exact hnodup [.actuatorMotors, .actuatorServos] rfl (by decide)
    · exact hnodup [.actuatorArmed] rfl (by decide)
  stopped_covers m now τ hτ := by
    cases τ <;> cases hτ <;> simp [RobotModule.onWorkQueueStopped]

/-! ## No publication is lost -/

/-- The topic of a publisher between the store and the end of its loop. -/
def PublishStage.topic {Node TopicId : Type} : PublishStage Node TopicId → Option TopicId
  | .idle => none
  | .stored τ | .looping τ _ | .calling τ _ _ => some τ

namespace RobotRuntime

open DualMagneticWheel.Runtime

variable {Thread : Type} [DecidableEq Thread]

omit [DecidableEq Thread] in
theorem not_inFlight {s : Runtime RobotModule RobotQueue Thread RobotTopic.Message} {τ : RobotTopic}
    (h : ∀ p, (s.publisher p).topic ≠ some τ) (m : RobotModule) : ¬ s.InFlight m τ := by
  rintro ⟨p, slot, -, hbefore⟩
  refine h p ?_
  generalize s.publisher p = stage at hbefore ⊢
  cases stage with
  | idle => exact hbefore.elim
  | stored τ' =>
      have heq : τ' = τ := hbefore
      rw [heq]
      rfl
  | looping τ' k | calling τ' k o =>
      rw [hbefore.1]
      rfl

/-- A running module whose item neither has a request nor runs has read each of its topics up to the
latest publication, once nobody is publishing on the topic; and what it has not read yet is ahead of it,
by a request or by a read in the `Run` that goes on. -/
theorem no_lost_update {s : Runtime RobotModule RobotQueue Thread RobotTopic.Message}
    (h : ((system Thread robotWiring).restrict ReadsInTime).Reachable s) {m : RobotModule}
    (hrunning : (s.life m).stage = .running) {τ : RobotTopic} (hτ : τ ∈ m.callbacks)
    (hquiet : ∀ p, (s.publisher p).topic ≠ some τ) :
    ((s.item robotWiring m).pending = false → (s.item robotWiring m).running = false →
      ((s.life m).subscription τ).generation = (s.channel τ).topic.generation ∧
        ((s.channel τ).topic.advertised = true →
          (s.life m).received τ = (s.channel τ).topic.message)) ∧
      ((s.life m).seen τ ≠ (s.channel τ).published → (s.item robotWiring m).pending = true ∨
        (s.queue m.queue).worker = .running (s.object m) ∧
          RunOp.update τ ∈ s.remaining m.queue) := by
  have hreachable := Transition.restrict_reachable h
  have hcounts := reachable_counts h
  have hsound := reachable_sound hreachable
  have hahead : (s.life m).seen τ ≠ (s.channel τ).published →
      (s.item robotWiring m).pending = true ∨ s.Ahead robotWiring m τ := by
    intro hunread
    rcases reachable_covered hreachable m τ hrunning hτ with hread | hpending | hflight | hahead
    · exact absurd hread hunread
    · exact Or.inl hpending
    · exact absurd hflight (not_inFlight hquiet m)
    · exact Or.inr hahead
  refine ⟨?_, hahead⟩
  intro hpending hidle
  have hread : (s.life m).seen τ = (s.channel τ).published := by
    refine Decidable.byContradiction fun hunread => ?_
    rcases hahead hunread with hrequest | ⟨hworker, -⟩
    · rw [hpending] at hrequest
      cases hrequest
    · have hflags := (hsound.queues (robotWiring.queue m)).flags (s.object m)
      have hrun : (s.item robotWiring m).running = true := hflags.running.mpr hworker
      rw [hidle] at hrun
      cases hrun
  refine ⟨?_, ?_⟩
  · rw [hcounts.subscription, hcounts.generation, hread]
  · intro hadvertised
    exact hcounts.received m τ hread ((hcounts.advertised τ).mp hadvertised)

/-- The loop of a publisher over slots without callbacks. -/
def emptyLoop (p : Publisher RobotModule RobotQueue Unit) (τ : RobotTopic) :
    List (RuntimeAction RobotModule RobotQueue Unit RobotTopic.Message) :=
  .lockCallbacks p τ :: (List.range 8).map (.visit p τ) ++ [.unlockCallbacks p τ 8]

/-- A start of `Failsafe`. -/
def startFailsafe : List (RuntimeAction RobotModule RobotQueue Unit RobotTopic.Message) :=
  [.start .failsafe true, .startQueue .failsafe true, .attach .failsafe,
    .register .failsafe .manualControl [.parameterUpdate], .register .failsafe .parameterUpdate [],
    .publishObject .failsafe, .scheduleOnInterval .failsafe 1000, .scheduleNow .failsafe 1010]

/-- A parameter change before the start of `Failsafe`, its start and its first `Run`. -/
def firstRun : List (RuntimeAction RobotModule RobotQueue Unit RobotTopic.Message) :=
  .publish () .parameterUpdate ({ timestamp := 1 } : ParameterUpdate) ::
    emptyLoop (.thread ()) .parameterUpdate ++ startFailsafe ++
  [.scan .control 1020,
    .update .control ⟨.failsafe, 1⟩ .manualControl
      [.update .parameterUpdate, .publish .failsafeStatus],
    .update .control ⟨.failsafe, 1⟩ .parameterUpdate [.publish .failsafeStatus],
    .runPublish .control ⟨.failsafe, 1⟩ .failsafeStatus []
      ({ timestamp := 1020, active := true } : FailsafeStatus)] ++
  emptyLoop (.worker .control) .failsafeStatus ++ [.finish .control ⟨.failsafe, 1⟩]

/-- After its first `Run` the module has the parameter change. -/
theorem no_lost_update_first_run :
    let s := firstRun.foldl (next robotWiring) (initial robotWiring)
    ((s.life .failsafe).subscription .parameterUpdate).generation =
      (s.channel .parameterUpdate).topic.generation := by
  have hreachable : ((system Unit robotWiring).restrict ReadsInTime).Reachable
      (firstRun.foldl (next robotWiring) (initial robotWiring)) := reachable_run firstRun (by decide +kernel)
  refine ((no_lost_update hreachable (m := .failsafe) (τ := .parameterUpdate) (by decide +kernel)
    (by decide) ?_).1 (by decide +kernel) (by decide +kernel)).1
  rintro (thread | q | m)
  · cases thread
    decide +kernel
  · cases q <;> decide +kernel
  · cases m <;> decide +kernel

end RobotRuntime

/-! ## A stop leaves nothing behind but safe messages -/

namespace Runtime

variable {Node QueueId Thread TopicId : Type} {Message : TopicId → Type}

/-- The object exists: it is the current one of its module. -/
def Live (s : Runtime Node QueueId Thread Message) (o : ModuleObject Node) : Prop :=
  (s.life o.node).stage ≠ .absent ∧ o.serial = (s.life o.node).serial

variable {w : Wiring Node QueueId Message} {s : Runtime Node QueueId Thread Message}

/-- A linked object exists. -/
theorem live_of_linked (hs : RuntimeSound w s) {q : QueueId} {o : ModuleObject Node}
    (h : o ∈ (s.queue q).items) : s.Live o := by
  obtain ⟨hlinked, -, hserial⟩ := ((hs.lives o.node).linked q o.serial).mp h
  refine ⟨?_, hserial⟩
  intro habsent
  rw [habsent] at hlinked
  cases hlinked

/-- An object with a callback in a slot exists. -/
theorem live_of_slot (hs : RuntimeSound w s) {τ : TopicId} {slot : Nat} {o : ModuleObject Node}
    (h : (s.channel τ).callbacks.At slot o) : s.Live o := by
  obtain ⟨hserial, hregistered⟩ := ((hs.lives o.node).slots τ o.serial).mp ⟨slot, h⟩
  refine ⟨?_, hserial⟩
  intro habsent
  have hregisters := (hs.lives o.node).registers
  rw [habsent] at hregisters
  rw [hregisters τ] at hregistered
  cases hregistered

end Runtime

namespace QueuedStage

variable {TopicId : Type} {stage : QueuedStage TopicId}

/-- A start or a stop of the module is in progress. -/
def inProgress (stage : QueuedStage TopicId) : Bool := stage.isStarting || stage.stopInProgress

theorem settled (h : stage.inProgress = false) :
    stage = .absent ∨ stage = .running ∨ stage = .retained := by
  obtain ⟨hstarting, hstop⟩ := Bool.or_eq_false_iff.mp h
  cases hrunning : stage.isRunning with
  | false => exact Or.inl (eq_absent hstarting hrunning)
  | true => exact Or.inr (running_or_retained hstarting hstop hrunning)

end QueuedStage

namespace Runtime

variable {Node QueueId Thread TopicId : Type} {Message : TopicId → Type}
variable {w : Wiring Node QueueId Message} {s : Runtime Node QueueId Thread Message}

/-- Between the commands the slots hold the callbacks of the modules that run. -/
theorem slots_settled (hs : RuntimeSound w s) {o : ModuleObject Node}
    (h : (s.life o.node).stage.inProgress = false) (τ : TopicId) :
    (∃ slot, (s.channel τ).callbacks.At slot o) ↔
      s.Live o ∧ (s.life o.node).stage ≠ .retained ∧ τ ∈ w.callbacks o.node := by
  have hregisters := (hs.lives o.node).registers
  refine ((hs.lives o.node).slots τ o.serial).trans ?_
  unfold Live
  rcases QueuedStage.settled h with hstage | hstage | hstage
  · rw [hstage] at hregisters ⊢
    rw [hregisters τ]
    exact ⟨nofun, fun hlive => absurd rfl hlive.1.1⟩
  · rw [hstage] at hregisters ⊢
    rw [hregisters τ]
    exact ⟨fun hmem => ⟨⟨nofun, hmem.1⟩, nofun, hmem.2⟩, fun hlive => ⟨hlive.1.2, hlive.2.2⟩⟩
  · rw [hstage] at hregisters ⊢
    rw [hregisters τ]
    exact ⟨nofun, fun hlive => absurd rfl hlive.2.1⟩

/-- Between the commands each queue links the objects that exist. -/
theorem items_settled (hs : RuntimeSound w s) {o : ModuleObject Node}
    (h : (s.life o.node).stage.inProgress = false) (q : QueueId) :
    o ∈ (s.queue q).items ↔ s.Live o ∧ q = w.queue o.node := by
  refine ((hs.lives o.node).linked q o.serial).trans ?_
  unfold Live
  rcases QueuedStage.settled h with hstage | hstage | hstage
  · rw [hstage]
    exact ⟨nofun, fun hlive => absurd rfl hlive.1.1⟩
  · rw [hstage]
    exact ⟨fun hmem => ⟨⟨nofun, hmem.2.2⟩, hmem.2.1⟩, fun hlive => ⟨rfl, hlive.2, hlive.1.2⟩⟩
  · rw [hstage]
    exact ⟨fun hmem => ⟨⟨nofun, hmem.2.2⟩, hmem.2.1⟩, fun hlive => ⟨rfl, hlive.2, hlive.1.2⟩⟩

end Runtime

namespace RobotRuntime

open DualMagneticWheel.Runtime

variable {Thread : Type} [DecidableEq Thread]

/-- What holds of a module that is started and stopped, in every state of every run: pointers to its
object are good, the slots and queues hold exactly what exists, and from the return of a stop to the next
start its topics hold the messages of one `onWorkQueueStopped`, or nothing if no stop has deleted an
object of it yet. -/
theorem safe_stop {s : Runtime RobotModule RobotQueue Thread RobotTopic.Message}
    (h : (system Thread robotWiring).Reachable s) :
    ((∀ p τ slot o, s.publisher p = .calling τ slot o → s.Live o) ∧
      ∀ q o, (s.queue q).worker = .running o → s.Live o) ∧
    ((∀ o, (s.life o.node).stage.inProgress = false →
        (∀ τ, (∃ slot, (s.channel τ).callbacks.At slot o) ↔
          s.Live o ∧ (s.life o.node).stage ≠ .retained ∧ τ ∈ o.node.callbacks) ∧
        ∀ q, o ∈ (s.queue q).items ↔ s.Live o ∧ q = o.node.queue) ∧
      (∀ τ, (s.channel τ).callbacks.Once) ∧ ∀ q, (s.queue q).items.Nodup) ∧
    ∀ m, (s.life m).stopReturned = true →
      if (s.life m).stopped then
        ∃ now, ∀ τ, τ.owner = some m → ∃ message, (s.channel τ).topic.copy = some message ∧
          ⟨τ, message⟩ ∈ m.onWorkQueueStopped now ∧ RobotTopic.Safe τ message
      else ∀ τ, τ.owner = some m → (s.channel τ).topic.copy = none := by
  have hs := reachable_sound h
  refine ⟨⟨?_, ?_⟩, ⟨?_, reachable_once h, fun q => (hs.queues q).nodup⟩, ?_⟩
  · intro p τ slot o hcalling
    exact live_of_slot hs (hs.locks.target p τ slot o hcalling)
  · intro q o hworker
    have hflags := (hs.queues q).flags o
    exact live_of_linked hs (hflags.attached.mpr (hflags.kept (hflags.running.mpr hworker)))
  · intro o hsettled
    exact ⟨slots_settled hs hsettled, items_settled hs hsettled⟩
  · intro m hreturned
    have hsign := reachable_signOff h m
    have hquiet := hsign.quiet (by rw [hsign.returned hreturned]; rfl)
    split
    · rename_i hstopped
      rw [if_pos hstopped] at hquiet
      obtain ⟨now, hmessages⟩ := hquiet
      refine ⟨now, ?_⟩
      intro τ hτ
      obtain ⟨hadvertised, hmem⟩ := hmessages τ hτ
      refine ⟨(s.channel τ).topic.message, if_pos hadvertised, hmem, ?_⟩
      exact RobotModule.onWorkQueueStopped_safe m now _ hmem
    · rename_i hnever
      rw [if_neg hnever] at hquiet
      intro τ hτ
      unfold Topic.copy
      rw [hquiet τ hτ]
      rfl

/-- A module that was never started: its `stop` returns 0, and nothing is on its topic. -/
theorem stop_never_started :
    ¬ ∀ s : Runtime RobotModule RobotQueue Unit RobotTopic.Message,
      (system Unit robotWiring).Reachable s → ∀ m, (s.life m).stopReturned = true →
        ∃ now, ∀ τ, τ.owner = some m → ∃ message, (s.channel τ).topic.copy = some message ∧
          ⟨τ, message⟩ ∈ m.onWorkQueueStopped now := by
  intro h
  have hreachable : ((system Unit robotWiring).restrict ReadsInTime).Reachable
      (next robotWiring (initial robotWiring) (.stop RobotModule.failsafe)) :=
    reachable_run [.stop RobotModule.failsafe] (by decide +kernel)
  obtain ⟨now, hmessages⟩ :=
    h _ (Transition.restrict_reachable hreachable) .failsafe (by decide +kernel)
  obtain ⟨message, hcopy, -⟩ := hmessages .failsafeStatus rfl
  cases hcopy

/-- A start of `Failsafe` and a stop that returns 0. -/
def startAndStop : List (RuntimeAction RobotModule RobotQueue Unit RobotTopic.Message) :=
  startFailsafe ++ [.stop .failsafe, .unregister .failsafe false .manualControl [.parameterUpdate],
    .unregister .failsafe false .parameterUpdate [], .detach .failsafe false 2000 2010,
    .halt .failsafe 2020, .signOff .failsafe 2020 0] ++
  emptyLoop (.shell .failsafe) .failsafeStatus ++ [.delete .failsafe 2020 1]

/-- After it the failsafe is active. -/
theorem safe_stop_failsafe :
    let s := startAndStop.foldl (next robotWiring) (initial robotWiring)
    ∃ message : FailsafeStatus,
      (s.channel .failsafeStatus).topic.copy = some message ∧ message.active = true := by
  have hreachable : ((system Unit robotWiring).restrict ReadsInTime).Reachable
      (startAndStop.foldl (next robotWiring) (initial robotWiring)) :=
    reachable_run startAndStop (by decide +kernel)
  have hstop := (safe_stop (Transition.restrict_reachable hreachable)).2.2 .failsafe
    (by decide +kernel)
  rw [if_pos (by decide +kernel)] at hstop
  obtain ⟨now, hmessages⟩ := hstop
  obtain ⟨message, hcopy, -, hsafe⟩ := hmessages .failsafeStatus rfl
  exact ⟨message, hcopy, hsafe⟩

end RobotRuntime

end DualMagneticWheel
