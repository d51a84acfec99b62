/-
# DualMagneticWheel.Output.CanRuns — the discipline over whole runs

The object between two inputs: an update of the mixing stage, a turn of the task's own loop with its two
chances to reload, or a management command. The invariant of the driver is carried through each of them,
and from the start through every run.
-/
import DualMagneticWheel.Output.MotorDiscipline
import DualMagneticWheel.Foundation.Transition
import DualMagneticWheel.Params.Definitions

namespace DualMagneticWheel

open Foundation

/-! ## The task -/

namespace CanTask

variable {M : Type} [DecidableEq M] (motorOf : UInt32 → M)

/-- The invariant between two inputs. -/
structure Inv (pass : List CanFrame) (t : CanTask) : Prop where
  discipline : Discipline motorOf pass t.driver
  ready : Ready motorOf t.mixingOutput.isFunctionSet t.driver

/-- What the log says about the configuration: it stays as it is unless a reload is entered. -/
def Keeps (t t' : CanTask) : Prop :=
  ∃ new, t'.driver.log = new ++ t.driver.log ∧ ((∀ armed, CanEvent.reload armed ∉ new) →
    t'.driver.output.channels = t.driver.output.channels ∧
      t'.mixingOutput.functions = t.mixingOutput.functions)

theorem Keeps.refl (t : CanTask) : Keeps t t := ⟨[], rfl, fun _ => ⟨rfl, rfl⟩⟩

theorem Keeps.trans {t t' t'' : CanTask} (h : Keeps t t') (h' : Keeps t' t'') : Keeps t t'' := by
  obtain ⟨new, hlog, hkeep⟩ := h
  obtain ⟨newer, hlog', hkeep'⟩ := h'
  refine ⟨newer ++ new, by rw [hlog', hlog, List.append_assoc], ?_⟩
  intro hnone
  obtain ⟨hc', hf'⟩ := hkeep' fun armed ha => hnone armed (List.mem_append_left _ ha)
  obtain ⟨hc, hf⟩ := hkeep fun armed ha => hnone armed (List.mem_append_right _ ha)
  exact ⟨hc'.trans hc, hf'.trans hf⟩

variable {motorOf} {pass : List CanFrame}

/-- A stop asked for by `run`. -/
theorem stop_inv {t : CanTask} (h : Inv motorOf pass t) (now : UInt64) :
    Inv motorOf pass (t.stop now).2 ∧
      ((t.stop now).1 = true → (t.stop now).2.driver.output.protocolArmed = false ∧
        (t.stop now).2.driver.output.disablePending = false) := by
  rcases hcall : OutputInterface.updateOutputs t.mixingOutput true none 0 now t.driver with
    ⟨stopped, d'⟩
  obtain ⟨hd, hready, hok⟩ := updateOutputs_stop h.discipline hcall
  unfold stop
  rw [hcall]
  exact ⟨⟨hd, hready _⟩, hok⟩

/-- A reload of a stopped driver. -/
theorem reload_inv {t : CanTask} (h : Discipline motorOf pass t.driver)
    (hdisarmed : t.driver.output.protocolArmed = false)
    (hpending : t.driver.output.disablePending = false) (params : ParamTable) :
    Inv motorOf pass (t.reload params) ∧ (t.reload params).driver.output.protocolArmed = false := by
  obtain ⟨hout, hd, -⟩ := admitCommands_keeps h
  rw [← hout] at hdisarmed hpending
  have hnone := noneEnabled_of_disarmed hd hdisarmed
  have hpassed := hd.passed hpending
  have hflags : ∀ (params : ParamReader Float32) (o : CanOutput),
      (o.refreshParameters params).2.protocolArmed = o.protocolArmed := by
    intro params o
    unfold CanOutput.refreshParameters
    split <;> rfl
  have harmed : (t.reload params).driver.output.protocolArmed = false :=
    (hflags _ _).trans hdisarmed
  have hlog : (t.reload params).driver.log =
      .reload t.driver.admitCommands.output.protocolArmed :: t.driver.admitCommands.log := rfl
  have hnone' : NoneEnabled motorOf (t.reload params).driver.log := by
    intro motor
    rw [hlog, lastSwitch, latest_cons_of_none rfl]
    exact hnone motor
  have hpassed' : Passed pass (t.reload params).driver.log := by
    rw [hlog]
    exact hpassed.append [_]
  refine ⟨⟨⟨?_, ?_, ?_, fun _ => hpassed', Or.inl hpassed'⟩, ?_⟩, harmed⟩
  · rw [hlog]
    exact ⟨⟨hdisarmed, hnone⟩, hd.lawful⟩
  · exact fun motor hmotor => absurd hmotor (hnone' motor)
  · exact fun motor hmotor => absurd hmotor (hnone' motor)
  · intro harmed'
    rw [harmed] at harmed'
    cases harmed'

/-- An update moves nothing that decides which channels are assigned. -/
theorem isFunctionSet_update (t : CanTask) (clock arg : UInt64) (bus : Topics) :
    (t.update clock arg bus).mixingOutput.functions = t.mixingOutput.functions ∧
      (t.update clock arg bus).mixingOutput.isFunctionSet = t.mixingOutput.isFunctionSet := by
  obtain ⟨since, stopped, lastOutput, hframe⟩ :=
    (MixingOutput.update_effect clock arg bus t.mixingOutput t.driver).frame
  replace hframe : (t.update clock arg bus).mixingOutput = _ := hframe
  rw [hframe]
  exact ⟨rfl, rfl⟩

theorem update_inv {t : CanTask} (h : Inv motorOf pass t) (clock arg : UInt64) (bus : Topics) :
    Inv motorOf pass (t.update clock arg bus) := by
  obtain ⟨hd, hr⟩ := effect_discipline
    (MixingOutput.update_effect clock arg bus t.mixingOutput t.driver) h.discipline h.ready
  refine ⟨hd, ?_⟩
  rw [(isFunctionSet_update t clock arg bus).2]
  exact hr

/-- The invariant reads the flags and the channels of the object only. -/
theorem Inv.congr {t t' : CanTask} (h : Inv motorOf pass t) (hlog : t'.driver.log = t.driver.log)
    (hmixing : t'.mixingOutput = t.mixingOutput)
    (hchannels : t'.driver.output.channels = t.driver.output.channels)
    (harmed : t'.driver.output.protocolArmed = t.driver.output.protocolArmed)
    (hpending : t'.driver.output.disablePending = t.driver.output.disablePending) :
    Inv motorOf pass t' := by
  have hpass : t'.driver.output.disablePass = t.driver.output.disablePass := by
    unfold CanOutput.disablePass CanOutput.passFrames CanOutput.channel
    rw [hchannels]
  obtain ⟨⟨lawful, armed, known, passed, first⟩, ready⟩ := h
  refine ⟨⟨?_, ?_, ?_, ?_, ?_⟩, ?_⟩
  · rwa [hlog]
  · rwa [hlog, harmed]
  · rwa [hlog, hpass]
  · rwa [hlog, hpending]
  · rwa [hlog, hpass]
  · unfold Ready CanOutput.channel at ready ⊢
    rwa [hlog, harmed, hpending, hmixing, hchannels]

theorem pollParameters_inv {t : CanTask} (h : Inv motorOf pass t) (turn : Turn) :
    Inv motorOf pass (t.pollParameters turn) := by
  unfold pollParameters
  dsimp only
  generalize hpolled : CanTask.mk t.mixingOutput { t.driver with
    output := { t.driver.output with
      parameterSubscription := (t.driver.output.parameterSubscription.update turn.parameterUpdate
        {}).subscription } } = polled
  have hpolled' : Inv motorOf pass polled := by
    rw [← hpolled]
    exact h.congr rfl rfl rfl rfl rfl
  split
  · obtain ⟨hinv, hok⟩ := stop_inv hpolled' turn.now
    rcases hstop : polled.stop turn.now with ⟨stopped, t'⟩
    rw [hstop] at hinv hok
    cases stopped with
    | true => exact (reload_inv hinv.discipline (hok rfl).1 (hok rfl).2 turn.params).1
    | false => exact hinv.congr rfl rfl rfl rfl rfl
  · exact hpolled'

theorem retryReload_inv {t : CanTask} (h : Inv motorOf pass t) (turn : Turn) :
    Inv motorOf pass (t.retryReload turn) := by
  unfold retryReload
  split
  · exact h
  · obtain ⟨hinv, hok⟩ := stop_inv h turn.now
    rcases hstop : t.stop turn.now with ⟨stopped, t'⟩
    rw [hstop] at hinv hok
    cases stopped with
    | true =>
        have hreload := reload_inv hinv.discipline (hok rfl).1 (hok rfl).2 turn.retryParams
        exact hreload.1.congr rfl rfl rfl rfl rfl
    | false => exact hinv

/-- The invariant is preserved by every input. -/
theorem next_inv {t : CanTask} (h : Inv motorOf pass t) (e : Event) :
    Inv motorOf pass (t.next e) := by
  have h' : Inv motorOf pass
      { t with driver := { t.driver with writes := e.writes, commands := e.commands } } :=
    ⟨h.discipline.congr rfl rfl, h.ready⟩
  unfold next
  dsimp only
  split
  · exact update_inv h' _ _ _
  · exact update_inv (retryReload_inv (pollParameters_inv h' _) _) _ _ _
  · obtain ⟨-, hd, hr⟩ := customCommand_keeps _ h'.discipline
    exact ⟨hd, hr _ h'.ready⟩

/-! ## What a step does to the configuration -/

theorem keeps_of_framesOnly {t t' : CanTask} (h : CanDriver.FramesOnly t.driver t'.driver)
    (hfunctions : t'.mixingOutput.functions = t.mixingOutput.functions) : Keeps t t' := by
  obtain ⟨⟨new, hlog⟩, hchannels⟩ := h
  exact ⟨_, hlog, fun _ => ⟨hchannels, hfunctions⟩⟩

/-- What no function of the driver touches, an update of the mixing stage leaves alone. -/
theorem effect_neutral {R : CanDriver → CanDriver → Prop} (hR : CanDriver.Neutral R) {m : MixingOutput}
    {now : UInt64} {d : CanDriver} {out : MixingOutput × CanDriver} (heffect : m.Effect now d out) :
    R d out.2 := by
  have hcalled : ∀ {caller : MixingOutput} {stopOutputs reply : Bool} {outputs count d d'},
      OutputInterface.updateOutputs caller stopOutputs outputs count now d = (reply, d') →
        R d d' := by
    intro caller stopOutputs reply outputs count d d' hcall
    have hkept := hR.updateOutputs caller stopOutputs outputs count now d
    rwa [hcall] at hkept
  have hstop : ∀ (m : MixingOutput) d, R d (m.stopOutputs now d).2.2 :=
    fun m d => hR.updateOutputs m true none 0 now d
  cases heffect with
  | quiet since _ _ => exact hR.wrote (CanDriver.Wrote.refl d)
  | stop since => exact hstop _ d
  | drive since _ _ hcall => exact hcalled hcall
  | refused since _ _ hcall => exact hR.trans (hcalled hcall) (hstop _ _)

theorem update_keeps (t : CanTask) (clock arg : UInt64) (bus : Topics) :
    Keeps t (t.update clock arg bus) :=
  keeps_of_framesOnly
    (effect_neutral CanDriver.neutral_framesOnly
      (MixingOutput.update_effect clock arg bus t.mixingOutput t.driver))
    (isFunctionSet_update t clock arg bus).1

theorem stop_keeps (t : CanTask) (now : UInt64) : Keeps t (t.stop now).2 :=
  keeps_of_framesOnly
    (CanDriver.neutral_framesOnly.updateOutputs t.mixingOutput true none 0 now t.driver) rfl

/-- A reload leaves its mark, so that nothing is promised about the configuration. -/
theorem reload_keeps (t : CanTask) (params : ParamTable) : Keeps t (t.reload params) := by
  obtain ⟨⟨new, hlog⟩, -⟩ := CanDriver.neutral_framesOnly.admitCommands t.driver
  refine ⟨.reload t.driver.admitCommands.output.protocolArmed :: new.map CanEvent.frame, ?_, ?_⟩
  · rw [List.cons_append, ← hlog]
    rfl
  · intro hnone
    exact absurd List.mem_cons_self (hnone _)

/-- Flags that change on the way do not matter. -/
theorem Keeps.of_same {t t' t'' : CanTask} (h : Keeps t t') (hlog : t''.driver.log = t'.driver.log)
    (hchannels : t''.driver.output.channels = t'.driver.output.channels)
    (hmixing : t''.mixingOutput = t'.mixingOutput) : Keeps t t'' := by
  refine h.trans (keeps_of_framesOnly ⟨⟨[], hlog⟩, hchannels⟩ ?_)
  rw [hmixing]

theorem pollParameters_keeps (t : CanTask) (turn : Turn) : Keeps t (t.pollParameters turn) := by
  unfold pollParameters
  dsimp only
  generalize hpolled : CanTask.mk t.mixingOutput { t.driver with
    output := { t.driver.output with
      parameterSubscription := (t.driver.output.parameterSubscription.update turn.parameterUpdate
        {}).subscription } } = polled
  have hkeep : Keeps t polled := by
    rw [← hpolled]
    exact (Keeps.refl t).of_same rfl rfl rfl
  split
  · have hstop := hkeep.trans (stop_keeps polled turn.now)
    rcases hresult : polled.stop turn.now with ⟨stopped, t'⟩
    rw [hresult] at hstop
    cases stopped with
    | true => exact hstop.trans (reload_keeps t' turn.params)
    | false => exact hstop.of_same rfl rfl rfl
  · exact hkeep

theorem retryReload_keeps (t : CanTask) (turn : Turn) : Keeps t (t.retryReload turn) := by
  unfold retryReload
  split
  · exact Keeps.refl t
  · have hstop := stop_keeps t turn.now
    rcases hresult : t.stop turn.now with ⟨stopped, t'⟩
    rw [hresult] at hstop
    cases stopped with
    | true => exact (hstop.trans (reload_keeps t' turn.retryParams)).of_same rfl rfl rfl
    | false => exact hstop

theorem next_keeps (t : CanTask) (e : Event) : Keeps t (t.next e) := by
  have hgiven : Keeps t
      { t with driver := { t.driver with writes := e.writes, commands := e.commands } } :=
    (Keeps.refl t).of_same rfl rfl rfl
  unfold next
  refine hgiven.trans ?_
  dsimp only
  split
  · exact update_keeps _ _ _ _
  · exact ((pollParameters_keeps _ _).trans (retryReload_keeps _ _)).trans (update_keeps _ _ _ _)
  · exact keeps_of_framesOnly (CanDriver.neutral_framesOnly.customCommand _ _) rfl

/-! ## What a step does to the failures on record -/

theorem reload_failures (t : CanTask) (params : ParamTable) :
    CanDriver.FailuresKept t.driver (t.reload params).driver :=
  CanDriver.neutral_failures.admitCommands t.driver

theorem stop_failures (t : CanTask) (now : UInt64) :
    CanDriver.FailuresKept t.driver (t.stop now).2.driver :=
  CanDriver.neutral_failures.updateOutputs t.mixingOutput true none 0 now t.driver

theorem pollParameters_failures (t : CanTask) (turn : Turn) :
    CanDriver.FailuresKept t.driver (t.pollParameters turn).driver := by
  unfold pollParameters
  dsimp only
  generalize hpolled : CanTask.mk t.mixingOutput { t.driver with
    output := { t.driver.output with
      parameterSubscription := (t.driver.output.parameterSubscription.update turn.parameterUpdate
        {}).subscription } } = polled
  have hkept : CanDriver.FailuresKept t.driver polled.driver := by
    rw [← hpolled]
    exact ⟨[], rfl⟩
  split
  · have hstop := hkept.trans (stop_failures polled turn.now)
    rcases hresult : polled.stop turn.now with ⟨stopped, t'⟩
    rw [hresult] at hstop
    cases stopped with
    | true => exact hstop.trans (reload_failures t' turn.params)
    | false => exact hstop
  · exact hkept

theorem retryReload_failures (t : CanTask) (turn : Turn) :
    CanDriver.FailuresKept t.driver (t.retryReload turn).driver := by
  unfold retryReload
  split
  · exact ⟨[], rfl⟩
  · have hstop := stop_failures t turn.now
    rcases hresult : t.stop turn.now with ⟨stopped, t'⟩
    rw [hresult] at hstop
    cases stopped with
    | true => exact hstop.trans (reload_failures t' turn.retryParams)
    | false => exact hstop

theorem update_failures (t : CanTask) (clock arg : UInt64) (bus : Topics) :
    CanDriver.FailuresKept t.driver (t.update clock arg bus).driver :=
  effect_neutral CanDriver.neutral_failures
    (MixingOutput.update_effect clock arg bus t.mixingOutput t.driver)

theorem next_failures (t : CanTask) (e : Event) :
    CanDriver.FailuresKept t.driver (t.next e).driver := by
  unfold next
  dsimp only
  generalize hgiven : CanTask.mk t.mixingOutput
    { t.driver with writes := e.writes, commands := e.commands } = given
  have hkept : CanDriver.FailuresKept t.driver given.driver := by
    rw [← hgiven]
    exact ⟨[], rfl⟩
  refine hkept.trans ?_
  split
  · exact update_failures given _ _ _
  · rename_i turn _
    exact ((pollParameters_failures given turn).trans (retryReload_failures _ turn)).trans
      (update_failures _ _ _ _)
  · subst hgiven
    exact CanDriver.neutral_failures.customCommand _ _

/-! ## Runs -/

/-- All runs from a start: every input, every pattern of write failures, every command schedule. -/
def system (t₀ : CanTask) : Transition CanTask Event := Transition.ofFun (· = t₀) next

/-- The object has written nothing when the task starts. -/
theorem start_inv {params₀ params₁ : ParamTable} {canFd : Int} {t₀ : CanTask}
    (h : start params₀ params₁ canFd = some t₀) :
    Inv motorOf t₀.driver.output.disablePass t₀ := by
  unfold start at h
  dsimp only at h
  split at h
  · cases h
  · rw [Option.some_inj] at h
    subst h
    generalize hfresh : CanTask.mk (.construct params₀ (some CanOutput.CanFunctionParams)
      CanOutput.ChannelCount) { output := {} } = t
    -- a refresh of the parameters touches neither flag
    have hflags : ∀ (params : ParamReader Float32) (o : CanOutput),
        (o.refreshParameters params).2.protocolArmed = o.protocolArmed ∧
          (o.refreshParameters params).2.disablePending = o.disablePending := by
      intro params o
      unfold CanOutput.refreshParameters
      split <;> exact ⟨rfl, rfl⟩
    have hcommands : t.driver.admitCommands = { output := {} } := by
      rw [← hfresh]
      rfl
    have hlog : (t.reload params₁).driver.log = .reload t.driver.admitCommands.output.protocolArmed ::
        t.driver.admitCommands.log := rfl
    rw [hcommands] at hlog
    have harmed : (t.reload params₁).driver.output.protocolArmed =
        t.driver.admitCommands.output.protocolArmed := (hflags _ _).1
    rw [hcommands] at harmed
    have hpending : (t.reload params₁).driver.output.disablePending =
        t.driver.admitCommands.output.disablePending := (hflags _ _).2
    rw [hcommands] at hpending
    have hnone : ∀ motor, lastSwitch motorOf (t.reload params₁).driver.log motor = none := by
      intro motor
      rw [hlog]
      rfl
    refine ⟨⟨?_, ?_, ?_, ?_, Or.inr rfl⟩, ?_⟩
    · show Lawful _ (t.reload params₁).driver.log
      rw [hlog]
      refine ⟨⟨rfl, ?_⟩, trivial⟩
      intro motor hmotor
      cases hmotor
    · intro motor hmotor
      rw [hnone motor] at hmotor
      cases hmotor
    · intro motor hmotor
      rw [hnone motor] at hmotor
      cases hmotor
    · intro hready
      rw [hpending] at hready
      cases hready
    · intro harmed'
      rw [harmed] at harmed'
      cases harmed'

/-- The run lemma. -/
theorem reachable_inv {params₀ params₁ : ParamTable} {canFd : Int} {t₀ t : CanTask}
    (h : start params₀ params₁ canFd = some t₀) (ht : (system t₀).Reachable t) :
    Inv motorOf t₀.driver.output.disablePass t := by
  refine ht.invariant (Inv motorOf t₀.driver.output.disablePass) ?_ ?_
  · rintro t rfl
    exact start_inv h
  · rintro t e t' - hinv rfl
    exact next_inv hinv e

/-- The management discipline, for every run and every pattern of write failures. Motors are told apart
by any function of the frame id. -/
theorem management_discipline (motorOf : UInt32 → M) {params₀ params₁ : ParamTable} {canFd : Int}
    {t₀ t : CanTask} (h : start params₀ params₁ canFd = some t₀) (ht : (system t₀).Reachable t) :
    -- an enabled motor arms the protocol
    (∀ motor, lastSwitch motorOf t.driver.log motor = some 0xfc →
      t.driver.output.protocolArmed = true) ∧
    -- the configuration changes by reloads only, and reloads meet no enabled motor
    (∀ e, Keeps t (t.next e)) ∧
    (∀ later armed earlier, t.driver.log = later ++ .reload armed :: earlier →
      armed = false ∧ NoneEnabled motorOf earlier) ∧
    ∀ later f earlier, t.driver.log = later ++ .frame f :: earlier →
      -- a velocity or position frame goes to an enabled motor
      (f.management = none → lastSwitch motorOf earlier (motorOf f.id) = some 0xfc) ∧
      -- an enable frame comes after a whole disable pass over the start-up configuration
      (f.management = some 0xfc → Passed t₀.driver.output.disablePass earlier) ∧
      -- set-zero and clear-error frames meet no enabled motor
      (f.management = some 0xfe ∨ f.management = some 0xfb → NoneEnabled motorOf earlier) := by
  obtain ⟨hd, -⟩ : Inv motorOf t₀.driver.output.disablePass t := reachable_inv h ht
  have hlawful := lawful_iff_forall_split.mp hd.lawful
  refine ⟨hd.armed, next_keeps t, ?_, ?_⟩
  · intro later armed earlier hsplit
    exact hlawful later _ earlier hsplit
  · intro later f earlier hsplit
    exact hlawful later _ earlier hsplit

/-! A start with the parameters as shipped: four Damiao motors. One write of the first disable pass
fails, the second pass is whole, then the gate opens. -/

/-- The parameters that the driver reads, as shipped. -/
def shippedParams : ParamTable :=
  ((List.range 2).foldl ParamManager.addSteering
    ((List.range 2).foldl ParamManager.addMotor
      (({} : ParamManager).addInt (cstr "OUT_FAIL_ACT") 2))).table

theorem start_shipped_isSome : (start shippedParams shippedParams 3).isSome = true := by
  decide +kernel

def shippedTask : CanTask := (start shippedParams shippedParams 3).get start_shipped_isSome

def shippedControls : ActuatorControls := { timestamp := 40000, count := 2, valid := true }

def openBus : Topics where
  actuatorArmed := ⟨{ timestamp := 40000, armed := true, valid := true }, 1, true⟩
  actuatorMotors := ⟨shippedControls, 1, true⟩
  actuatorServos := ⟨shippedControls, 1, true⟩

/-- The task after its first set-points. -/
def drivingTask : CanTask :=
  [{ input := .update 1000 0 {}, writes := [true, false] }, { input := .update 2000 0 {} },
    { input := .update 40000 0 openBus }].foldl next shippedTask

theorem drivingTask_reachable : (system shippedTask).Reachable drivingTask := by
  have hstart : (system shippedTask).Reachable shippedTask := .start rfl
  exact Transition.Reachable.foldl hstart _

/-- The first motor is enabled in the end, so the flag is set. -/
theorem management_discipline_driving :
    lastSwitch id drivingTask.driver.log 0x201 = some 0xfc ∧
      drivingTask.driver.output.protocolArmed = true := by
  have henabled : lastSwitch id drivingTask.driver.log 0x201 = some 0xfc := by decide +kernel
  exact ⟨henabled, (management_discipline id (Option.some_get start_shipped_isSome).symm
    drivingTask_reachable).1 0x201 henabled⟩

end CanTask

end DualMagneticWheel
