/-
# DualMagneticWheel.Output.CooperativeStop — what the driver leaves behind when its task ends

A stop command sets a flag that the loop of `run` reads before each turn. The turn that is under way is
finished, `run` returns, and the object is deleted: the destructor makes one disable pass if the protocol
is armed, does not look at its result, and closes the device. Nobody repeats that pass, so a write that
fails in it is lost.

`cooperative_stop` says what that costs. A run ends without an enabled motor when every motor that is
still enabled at the deletion has a frame of the pass whose write succeeds, and not otherwise. Failures
before the deletion are harmless: the flags of the driver remember them (`CanTask.Inv`).
-/
import DualMagneticWheel.Output.CanRuns
import DualMagneticWheel.Output.Drivable

namespace DualMagneticWheel

open Foundation

/-! ## The frames of a pass that get through -/

/-- What of a pass reaches the bus when its writes go in order with these outcomes. -/
def delivered : List CanFrame → List Bool → List CanFrame
  | [], _ => []
  | f :: pass, writes =>
      if writes.headD true then f :: delivered pass writes.tail else delivered pass writes.tail

theorem delivered_append (pass rest : List CanFrame) (writes : List Bool) :
    delivered (pass ++ rest) writes = delivered pass writes ++ delivered rest (writes.drop pass.length) := by
  induction pass generalizing writes with
  | nil => rfl
  | cons f pass ih =>
      have hdrop : writes.tail.drop pass.length = writes.drop (pass.length + 1) := by
        rw [List.drop_tail]
      rw [List.cons_append, delivered, delivered, ih, List.length_cons, hdrop]
      split <;> rfl

/-- A frame gets through exactly when the write at its place in the pass succeeds. -/
theorem mem_delivered {pass : List CanFrame} {writes : List Bool} {f : CanFrame} :
    f ∈ delivered pass writes ↔ ∃ k, pass[k]? = some f ∧ writes.getD k true = true := by
  induction pass generalizing writes with
  | nil => simp [delivered]
  | cons g pass ih =>
      have hrest : (∃ k, (g :: pass)[k]? = some f ∧ writes.getD k true = true) ↔
          (g = f ∧ writes.headD true = true) ∨ f ∈ delivered pass writes.tail := by
        rw [ih]
        constructor
        · rintro ⟨k, hk, hwrite⟩
          cases k with
          | zero =>
              refine Or.inl ⟨Option.some_inj.mp hk, ?_⟩
              cases writes <;> exact hwrite
          | succ k =>
              refine Or.inr ⟨k, hk, ?_⟩
              cases writes <;> exact hwrite
        · rintro (⟨rfl, hwrite⟩ | ⟨k, hk, hwrite⟩)
          · refine ⟨0, rfl, ?_⟩
            cases writes <;> exact hwrite
          · refine ⟨k + 1, hk, ?_⟩
            cases writes <;> exact hwrite
      rw [hrest, delivered]
      by_cases hhead : writes.headD true = true
      · rw [if_pos hhead, List.mem_cons]
        simp only [hhead, and_true, eq_comm]
      · rw [if_neg hhead]
        exact (or_iff_right fun hboth => hhead hboth.2).symm

namespace CanDriver

/-! ## The destructor -/

/-- `CanOutput::~CanOutput`. -/
def destroy (caller : MixingOutput) (d : CanDriver) : CanDriver :=
  if d.output.canFd < 0 then d
  else
    let d := if d.output.protocolArmed then (d.sendSpecialAll caller 0xfd).2 else d
    { d with output := { d.output with canFd := -1 } }

end CanDriver

/-- The device is open and every channel has passed the validator. -/
structure CanOutput.Configured (o : CanOutput) : Prop where
  device : 0 ≤ o.canFd
  accepted : ∀ c < ChannelCount, (o.channel c).accepted = true

theorem CanOutput.Configured.congr {o o' : CanOutput} (h : o.Configured) (hdevice : o'.canFd = o.canFd)
    (hchannels : o'.channels = o.channels) : o'.Configured := by
  refine ⟨hdevice ▸ h.device, fun c hc => ?_⟩
  rw [CanOutput.channel, hchannels]
  exact h.accepted c hc

/-- An accepted channel has a disable frame, and its id is a standard one. -/
theorem CanChannelConfig.encodeManagement_disable {config : CanChannelConfig Float32}
    (h : config.accepted = true) :
    config.encodeManagement 0xfd {} = (true, config.managementFrame 0xfd) ∧
      (config.managementFrame 0xfd).id ≤ 0x7ff := by
  simp only [accepted, Bool.and_eq_true] at h
  have hid := h.1.1.1.1.1.1.2
  cases hoffset : DamiaoProtocol.modeOffset config.mode with
  | none =>
      rw [hoffset] at hid
      cases hid
  | some offset =>
      rw [hoffset] at hid
      have hbound : config.motorId.toNat + offset.toNat ≤ 0x7ff := of_decide_eq_true hid
      refine ⟨?_, ?_⟩
      · rw [encodeManagement, if_neg (by decide), if_pos rfl, DamiaoProtocol.encodeDisable,
          DamiaoProtocol.encodeSpecial, hoffset]
        simp only [managementFrame, hoffset, Option.getD_some]
        apply if_neg
        omega
      · simp only [managementFrame, hoffset, Option.getD_some]
        exact ofNat_le_standard hbound

namespace CanDriver

/-- The state of a disable pass after `n` channels, to the letter. -/
structure PassedOver (d : CanDriver) (n : Nat) (d' : CanDriver) : Prop where
  wrote : Wrote d d' (delivered (d.output.passFrames (fun _ => true) 0xfd n) d.writes).reverse
  left : d'.writes = d.writes.drop (d.output.passFrames (fun _ => true) 0xfd n).length

/-- One more channel. -/
theorem PassedOver.turn {caller : MixingOutput} {type : ActuatorType} {index c : Nat} {d : CanDriver}
    {s : Bool × CanDriver} (hd : d.output.Configured) (hc : type.channel index = c)
    (hlt : c < CanOutput.ChannelCount) (h : PassedOver d c s.2) :
    PassedOver d (c + 1) (sendSpecialTurn caller 0xfd type s index).2 := by
  obtain ⟨hwrote, hleft⟩ := h
  have hout : s.2.output = d.output := hwrote.output
  have hsucc := d.output.passFrames_succ (fun _ => true) 0xfd c
  rw [sendSpecialTurn, if_pos (Or.inl (by decide))]
  show PassedOver d (c + 1) (s.2.sendSpecial type index 0xfd).2
  rw [sendSpecial, hc, if_neg (by omega), hout]
  dsimp only
  by_cases hdamiao : (d.output.channel c).protocol = .Damiao
  · obtain ⟨hencode, hid⟩ := CanChannelConfig.encodeManagement_disable (hd.accepted c hlt)
    rw [if_pos ⟨rfl, hdamiao⟩] at hsucc
    -- an accepted channel has a frame that the device takes
    have hframe : ¬ (s.2.output.canFd < 0 ∨ 8 < ((d.output.channel c).managementFrame 0xfd).length ∨
        0x7ff < ((d.output.channel c).managementFrame 0xfd).id) := by
      rintro (hclosed | hlong | hlarge)
      · rw [hout] at hclosed
        exact absurd hd.device (by omega)
      · exact absurd hlong (by decide : ¬ (8 : UInt8) < 8)
      · exact absurd hid (UInt32.not_le.mpr hlarge)
    rw [if_neg (by rw [hdamiao]; decide), if_neg (not_not.mpr hdamiao), hencode, if_pos rfl, writeFrame,
      if_neg hframe, write]
    have hnext : delivered (d.output.passFrames (fun _ => true) 0xfd (c + 1)) d.writes =
        delivered (d.output.passFrames (fun _ => true) 0xfd c) d.writes ++
          if s.2.writes.headD true then [(d.output.channel c).managementFrame 0xfd] else [] := by
      rw [hsucc, delivered_append, ← hleft]
      rfl
    have hdrop : s.2.writes.tail =
        d.writes.drop (d.output.passFrames (fun _ => true) 0xfd (c + 1)).length := by
      rw [hsucc, List.length_append, List.length_singleton, hleft, List.tail_drop]
    by_cases hhead : s.2.writes.headD true = true
    · rw [if_pos hhead] at hnext ⊢
      refine ⟨⟨hout, ?_, hwrote.failures⟩, hdrop⟩
      rw [hnext, List.reverse_append]
      show _ :: s.2.log = _
      rw [hwrote.log]
      rfl
    · rw [if_neg hhead] at hnext ⊢
      obtain ⟨failed, hfailed⟩ := hwrote.failures
      refine ⟨⟨hout, ?_, _ :: failed, congrArg _ hfailed⟩, hdrop⟩
      rw [hnext, List.append_nil]
      exact hwrote.log
  · rw [if_neg fun hboth => hdamiao hboth.2, List.append_nil] at hsucc
    -- no frame for a channel of another protocol
    have hskip : PassedOver d (c + 1) s.2 := by
      refine ⟨?_, ?_⟩
      · rw [hsucc]
        exact hwrote
      · rw [hsucc]
        exact hleft
    split
    · exact hskip
    · exact hskip

/-- The whole pass writes its frames in order, as far as the writes succeed. -/
theorem disablePass_wrote (caller : MixingOutput) {d : CanDriver} (hd : d.output.Configured) :
    Wrote d (d.sendSpecialAll caller 0xfd).2 (delivered d.output.disablePass d.writes).reverse := by
  have hmotors : PassedOver d CanOutput.MotorCount
      (forRange CanOutput.MotorCount (sendSpecialTurn caller 0xfd .Motor) (true, d)).2 := by
    refine forRange_invariant (fun i (s : Bool × CanDriver) => PassedOver d i s.2) ?_ ?_
    · exact ⟨Wrote.refl d, rfl⟩
    · intro i s hi hs
      exact hs.turn hd rfl (Nat.lt_trans hi (by decide))
  have hall : PassedOver d (CanOutput.MotorCount + CanOutput.ServoCount)
      (d.sendSpecialAll caller 0xfd).2 := by
    refine forRange_invariant (fun i (s : Bool × CanDriver) => PassedOver d (CanOutput.MotorCount + i) s.2)
      hmotors ?_
    intro i s hi hs
    exact hs.turn hd rfl (Nat.add_lt_add_left hi CanOutput.MotorCount)
  exact hall.wrote

/-- What the destructor adds to the log. -/
theorem destroy_log (caller : MixingOutput) {d : CanDriver} (hd : d.output.Configured) :
    (d.output.protocolArmed = false → (d.destroy caller).log = d.log) ∧
      (d.output.protocolArmed = true → (d.destroy caller).log =
        (delivered d.output.disablePass d.writes).reverse.map CanEvent.frame ++ d.log) := by
  have hopen : ¬ d.output.canFd < 0 := not_lt.mpr hd.device
  have hwrote := disablePass_wrote caller hd
  rw [destroy, if_neg hopen]
  generalize (d.sendSpecialAll caller 0xfd).2 = d' at hwrote ⊢
  refine ⟨fun hdisarmed => ?_, fun harmed => ?_⟩
  · rw [hdisarmed]
    rfl
  · rw [harmed]
    exact hwrote.log

/-! ## The configuration stays accepted, and the device open -/

theorem admitCommands_output (d : CanDriver) : d.admitCommands.output = d.output := by
  have hfold : ∀ (cs : List ManagementCommand) (d₀ : CanDriver),
      (cs.foldl (fun d c => (d.customCommand c).2) d₀).output = d₀.output := by
    intro cs
    induction cs with
    | nil => exact fun _ => rfl
    | cons c cs ih =>
        intro d₀
        refine (ih _).trans ?_
        rcases customCommand_cases c d₀ with hw | ⟨-, _, _, -, hw⟩
        · exact hw.output
        · exact hw.output
  exact hfold _ { d with commands := d.commands.tail }

/-- Device and channels are neutral, so an accepted configuration stays one. -/
theorem neutral_configured : Neutral fun d d' => d.output.Configured → d'.output.Configured where
  wrote := fun hw h => h.congr (neutral_canFd.wrote hw) (neutral_framesOnly.wrote hw).2
  flags := fun _ _ _ h => h.congr rfl rfl
  trans := fun h h' hd => h' (h hd)

end CanDriver

namespace CanTask

/-- A refresh keeps the channels or takes accepted ones. -/
theorem refreshParameters_configured {o : CanOutput} (params : ParamReader Float32) :
    ((o.refreshParameters params).1 = true → ∀ c < CanOutput.ChannelCount,
        ((o.refreshParameters params).2.channel c).accepted = true) ∧
      ((o.refreshParameters params).1 = false → (o.refreshParameters params).2 = o) ∧
      (o.refreshParameters params).2.canFd = o.canFd := by
  unfold CanOutput.refreshParameters
  split
  · rename_i channels hchannels
    refine ⟨fun _ c hc => ?_, nofun, rfl⟩
    obtain ⟨type, index, hindex, rfl⟩ := ActuatorType.exists_channel hc
    exact (CanChannelConfig.loadChannels_loaded hchannels hindex).accepted
  · exact ⟨nofun, fun _ => rfl, rfl⟩

theorem reload_configured {t : CanTask} (h : t.driver.output.Configured) (params : ParamTable) :
    (t.reload params).driver.output.Configured := by
  obtain ⟨hnew, hold, hdevice⟩ :=
    refreshParameters_configured (o := t.driver.admitCommands.output) (.ofTable params)
  rw [t.driver.admitCommands_output] at hnew hold hdevice
  have hrefreshed : (t.driver.output.refreshParameters (.ofTable params)).2.Configured := by
    refine ⟨hdevice ▸ h.device, ?_⟩
    cases hresult : (t.driver.output.refreshParameters (.ofTable params)).1 with
    | true => exact hnew hresult
    | false =>
        rw [hold hresult]
        exact h.accepted
  refine hrefreshed.congr ?_ ?_
  · show (t.driver.admitCommands.output.refreshParameters (.ofTable params)).2.canFd = _
    rw [t.driver.admitCommands_output]
  · show (t.driver.admitCommands.output.refreshParameters (.ofTable params)).2.channels = _
    rw [t.driver.admitCommands_output]

theorem pollParameters_configured {t : CanTask} (h : t.driver.output.Configured) (turn : Turn) :
    (t.pollParameters turn).driver.output.Configured := by
  unfold pollParameters
  dsimp only
  generalize hpolled : CanTask.mk t.mixingOutput { t.driver with
    output := { t.driver.output with
      parameterSubscription := (t.driver.output.parameterSubscription.update turn.parameterUpdate
        {}).subscription } } = polled
  have hpolled' : polled.driver.output.Configured := by
    rw [← hpolled]
    exact h.congr rfl rfl
  split
  · have hstopped : (polled.stop turn.now).2.driver.output.Configured :=
      CanDriver.neutral_configured.updateOutputs polled.mixingOutput true none 0 turn.now _ hpolled'
    rcases hstop : polled.stop turn.now with ⟨stopped, t'⟩
    rw [hstop] at hstopped
    cases stopped with
    | true => exact reload_configured hstopped turn.params
    | false => exact hstopped.congr rfl rfl
  · exact hpolled'

theorem retryReload_configured {t : CanTask} (h : t.driver.output.Configured) (turn : Turn) :
    (t.retryReload turn).driver.output.Configured := by
  unfold retryReload
  split
  · exact h
  · have hstopped : (t.stop turn.now).2.driver.output.Configured :=
      CanDriver.neutral_configured.updateOutputs t.mixingOutput true none 0 turn.now _ h
    rcases hstop : t.stop turn.now with ⟨stopped, t'⟩
    rw [hstop] at hstopped
    cases stopped with
    | true => exact (reload_configured hstopped turn.retryParams).congr rfl rfl
    | false => exact hstopped

theorem update_configured {t : CanTask} (h : t.driver.output.Configured) (clock arg : UInt64)
    (bus : Topics) : (t.update clock arg bus).driver.output.Configured :=
  effect_neutral CanDriver.neutral_configured
    (MixingOutput.update_effect clock arg bus t.mixingOutput t.driver) h

theorem runOnce_configured {t : CanTask} (h : t.driver.output.Configured) (turn : Turn) :
    (t.runOnce turn).driver.output.Configured := by
  have hloaded := retryReload_configured (pollParameters_configured h turn) turn
  exact update_configured hloaded turn.clock 0 turn.bus

theorem next_configured {t : CanTask} (h : t.driver.output.Configured) (e : Event) :
    (t.next e).driver.output.Configured := by
  have h' : ({ t with driver := { t.driver with writes := e.writes, commands := e.commands } } :
      CanTask).driver.output.Configured := h
  unfold next
  dsimp only
  generalize ({ t with driver := { t.driver with writes := e.writes, commands := e.commands } } :
    CanTask) = given at h' ⊢
  split
  · exact update_configured h' _ _ _
  · exact runOnce_configured h' _
  · exact CanDriver.neutral_configured.customCommand _ _ h

/-- A task starts with an open device and accepted channels. -/
theorem start_configured {params₀ params₁ : ParamTable} {canFd : Int} {t₀ : CanTask}
    (h : start params₀ params₁ canFd = some t₀) : t₀.driver.output.Configured := by
  unfold start at h
  dsimp only at h
  split at h
  · cases h
  · rename_i hvalid
    rw [Option.some_inj] at h
    subst h
    generalize CanTask.mk (.construct params₀ (some CanOutput.CanFunctionParams)
      CanOutput.ChannelCount) { output := {} } = t at hvalid ⊢
    simp only [Bool.or_eq_true, Bool.not_eq_true', decide_eq_true_eq, not_or, Bool.not_eq_false]
      at hvalid
    obtain ⟨hparams, hopen⟩ := hvalid
    have hown : (t.driver.admitCommands.output.refreshParameters (.ofTable params₁)).1 = true :=
      (Bool.and_eq_true_iff.mp hparams).2
    refine ⟨?_, (refreshParameters_configured _).1 hown⟩
    show 0 ≤ canFd
    omega

/-! ## The end of the task -/

/-- The task from its start to the deletion of the object. `inTurn` says that the loop of `run` has read
the flag and entered its body. -/
structure Life where
  task : CanTask
  taskShouldExit : Bool := false
  inTurn : Bool := false
  deleted : Bool := false

/-- What the task and the stop command do. A turn is one pass through the loop body; `delete` is the exit
path of `run_trampoline`, with the outcomes of the writes that fall into it. -/
inductive Act where
  | command (command : ManagementCommand) (writes : List Bool)
  | enterTurn
  | turn (turn : Turn) (writes : List Bool) (commands : List (List ManagementCommand))
  | requestStop
  | delete (writes : List Bool)

/-- `exit_and_cleanup` on this object. -/
def exitAndCleanup (writes : List Bool) (t : CanTask) : CanTask :=
  { t with driver := { t.driver with writes }.destroy t.mixingOutput }

namespace Life

/-- When an act can happen: the loop enters a turn only if the flag is down, and leaves if it is up. -/
def enabled (s : Life) : Act → Bool
  | .command _ _ => !s.deleted
  | .enterTurn => !s.deleted && !s.inTurn && !s.taskShouldExit
  | .turn _ _ _ => !s.deleted && s.inTurn
  | .requestStop => !s.deleted
  | .delete _ => !s.deleted && !s.inTurn && s.taskShouldExit

def next (s : Life) : Act → Life
  | .command command writes => { s with task := s.task.next { input := .command command, writes } }
  | .enterTurn => { s with inTurn := true }
  | .turn turn writes commands =>
      { s with task := s.task.next { input := .turn turn, writes, commands }, inTurn := false }
  | .requestStop => { s with taskShouldExit := true }
  | .delete writes => { s with task := s.task.exitAndCleanup writes, deleted := true }

/-- All runs of the task of `t₀`. -/
def system (t₀ : CanTask) : Transition Life Act :=
  (Transition.ofFun (· = { task := t₀ }) next).restrict fun s a => s.enabled a = true

end Life

variable {M : Type} [DecidableEq M] (motorOf : UInt32 → M)

/-- Every motor that is still enabled has a frame in the disable pass whose write will succeed. -/
def PassReaches (t : CanTask) (writes : List Bool) : Prop :=
  ∀ motor, lastSwitch motorOf t.driver.log motor = some 0xfc →
    ∃ (k : Nat) (f : CanFrame), t.driver.output.disablePass[k]? = some f ∧ motorOf f.id = motor ∧
      writes.getD k true = true

variable {motorOf} {pass : List CanFrame}

/-- The destructor leaves no motor enabled exactly when its one pass reaches them. -/
theorem exitAndCleanup_noneEnabled {t : CanTask} (hinv : Inv motorOf pass t)
    (hconfigured : t.driver.output.Configured) (writes : List Bool) :
    NoneEnabled motorOf (t.exitAndCleanup writes).driver.log ↔ t.PassReaches motorOf writes := by
  obtain ⟨hidle, hwrote⟩ :=
    CanDriver.destroy_log t.mixingOutput (d := { t.driver with writes }) hconfigured
  cases harmed : t.driver.output.protocolArmed with
  | false =>
      -- no motor is enabled, and nothing is written
      have hnone := noneEnabled_of_disarmed hinv.discipline harmed
      have hlog : (t.exitAndCleanup writes).driver.log = t.driver.log := hidle harmed
      rw [hlog]
      exact ⟨fun _ motor henabled => absurd henabled (hnone motor), fun _ => hnone⟩
  | true =>
      have hlog : (t.exitAndCleanup writes).driver.log =
          (delivered t.driver.output.disablePass writes).reverse.map CanEvent.frame ++ t.driver.log :=
        hwrote harmed
      have hpass : ∀ f ∈ (delivered t.driver.output.disablePass writes).reverse,
          f ∈ t.driver.output.passFrames (fun _ => true) 0xfd CanOutput.ChannelCount := by
        intro f hf
        obtain ⟨k, hk, -⟩ := mem_delivered.mp (List.mem_reverse.mp hf)
        exact List.mem_of_getElem? hk
      have hblock := switches_block motorOf (Or.inr rfl) hpass
      rw [hlog]
      constructor
      · intro hnone motor henabled
        rcases latest_append_of_value hblock t.driver.log motor with ⟨⟨e, he, hswitch⟩, -⟩ | ⟨-, hsame⟩
        · obtain ⟨f, hf, rfl⟩ := List.mem_map.mp he
          obtain ⟨k, hk, hwrite⟩ := mem_delivered.mp (List.mem_reverse.mp hf)
          refine ⟨k, f, hk, ?_, hwrite⟩
          rw [switches_of_mem_passFrames (Or.inr rfl) (List.mem_of_getElem? hk)] at hswitch
          exact congrArg Prod.fst (Option.some_inj.mp hswitch)
        · exact absurd (hsame.trans henabled) (hnone motor)
      · intro hreaches motor henabled
        rcases latest_append_of_value hblock t.driver.log motor with ⟨-, hdisabled⟩ | ⟨hnone, hsame⟩
        · rw [lastSwitch, hdisabled] at henabled
          exact absurd henabled (by decide)
        · obtain ⟨k, f, hk, hmotor, hwrite⟩ := hreaches motor (hsame.symm.trans henabled)
          refine hnone (.frame f) ?_ ?_
          · apply List.mem_map_of_mem
            rw [List.mem_reverse]
            exact mem_delivered.mpr ⟨k, hk, hwrite⟩
          · rw [switches_of_mem_passFrames (Or.inr rfl) (List.mem_of_getElem? hk), hmotor]

/-- A pass without a failed write reaches every motor. -/
theorem passReaches_of_writes {t : CanTask} (hinv : Inv motorOf pass t) {writes : List Bool}
    (h : ∀ k, writes.getD k true = true) : t.PassReaches motorOf writes := by
  intro motor henabled
  obtain ⟨f, hf, hmotor⟩ := hinv.discipline.known motor henabled
  obtain ⟨k, hk⟩ := List.mem_iff_getElem?.mp hf
  exact ⟨k, f, hk, hmotor, h k⟩

namespace Life

/-- Nothing happens to a deleted object. -/
theorem live_of_enabled {s : Life} {a : Act} (h : s.enabled a = true) : s.deleted = false := by
  cases a <;> simp_all [enabled]

/-- Until the deletion the object is in the hands of its invariants. -/
theorem reachable_inv {params₀ params₁ : ParamTable} {canFd : Int} {t₀ : CanTask} {s : Life}
    (h : start params₀ params₁ canFd = some t₀) (hs : (system t₀).Reachable s) :
    s.deleted = false →
      Inv motorOf t₀.driver.output.disablePass s.task ∧ s.task.driver.output.Configured := by
  refine hs.invariant (fun s => s.deleted = false →
    Inv motorOf t₀.driver.output.disablePass s.task ∧ s.task.driver.output.Configured) ?_ ?_
  · rintro s rfl -
    exact ⟨start_inv h, start_configured h⟩
  · rintro s a s' - hinv ⟨-, rfl⟩ hdeleted
    cases a with
    | command command writes =>
        obtain ⟨htask, hconfigured⟩ := hinv hdeleted
        exact ⟨next_inv htask { input := .command command, writes },
          next_configured hconfigured { input := .command command, writes }⟩
    | enterTurn => exact hinv hdeleted
    | turn turn writes commands =>
        obtain ⟨htask, hconfigured⟩ := hinv hdeleted
        exact ⟨next_inv htask { input := .turn turn, writes, commands },
          next_configured hconfigured { input := .turn turn, writes, commands }⟩
    | requestStop => exact hinv hdeleted
    | delete writes => cases hdeleted

/-- One deletion, from any state of any run. -/
theorem delete_noneEnabled {params₀ params₁ : ParamTable} {canFd : Int} {t₀ : CanTask} {s s' : Life}
    {writes : List Bool} (h : start params₀ params₁ canFd = some t₀) (hs : (system t₀).Reachable s)
    (hstep : (system t₀).step s (.delete writes) s') :
    NoneEnabled motorOf s'.task.driver.log ↔ s.task.PassReaches motorOf writes := by
  obtain ⟨henabled, rfl⟩ := hstep
  obtain ⟨htask, hconfigured⟩ :=
    reachable_inv (M := M) h hs (live_of_enabled henabled)
  exact exitAndCleanup_noneEnabled htask hconfigured writes

end Life

/-- The cooperative stop. In every run whose deletion, if it comes to one, reaches every motor that is
still enabled, the object leaves no motor enabled behind; and a deletion that does not reach them all
leaves one enabled. -/
theorem cooperative_stop (motorOf : UInt32 → M) {params₀ params₁ : ParamTable} {canFd : Int}
    {t₀ : CanTask} (h : start params₀ params₁ canFd = some t₀) :
    (∀ s, ((Life.system t₀).restrict fun s a =>
        ∀ writes, a = .delete writes → s.task.PassReaches motorOf writes).Reachable s →
      s.deleted = true → NoneEnabled motorOf s.task.driver.log) ∧
    ∀ s writes s', (Life.system t₀).Reachable s → (Life.system t₀).step s (.delete writes) s' →
      (NoneEnabled motorOf s'.task.driver.log ↔ s.task.PassReaches motorOf writes) := by
  refine ⟨fun s hs => ?_, fun s writes s' hs hstep => Life.delete_noneEnabled h hs hstep⟩
  refine hs.invariant (fun s => s.deleted = true → NoneEnabled motorOf s.task.driver.log) ?_ ?_
  · rintro s rfl hdeleted
    cases hdeleted
  · rintro s a s' hs - ⟨hreaches, hstep⟩ hdeleted
    have hlive := Life.live_of_enabled hstep.1
    cases a with
    | delete writes =>
        exact (Life.delete_noneEnabled h (Transition.restrict_reachable hs) hstep).mpr
          (hreaches writes rfl)
    | _ =>
        -- nothing else deletes the object
        obtain ⟨-, rfl⟩ := hstep
        exact absurd (hlive.symm.trans hdeleted) (by decide)

/-! The task with the parameters as shipped: two turns of disable passes, one that enables and drives the
motors, then a stop. -/

/-- A turn without a parameter change. -/
def plainTurn (clock : UInt64) (bus : Topics) : Turn where
  now := clock
  parameterUpdate := ⟨{}, 0, false⟩
  params := shippedParams
  retryParams := shippedParams
  clock := clock
  bus := bus

/-- A run that enables the motors and asks for a stop while the last turn is under way. -/
def stopRun : List Act :=
  [.enterTurn, .turn (plainTurn 1000 {}) [] [], .enterTurn, .turn (plainTurn 2000 {}) [] [],
    .enterTurn, .requestStop, .turn (plainTurn 40000 openBus) [] []]

def stoppingLife : Life := stopRun.foldl Life.next { task := shippedTask }

theorem stoppingLife_reachable : (Life.system shippedTask).Reachable stoppingLife := by
  have hstart : (Life.system shippedTask).Reachable { task := shippedTask } := .start rfl
  have henabled : Transition.Along (fun s a => s.enabled a = true) Life.next { task := shippedTask }
      stopRun := by decide +kernel
  exact Transition.Reachable.foldl_restrict hstart henabled

theorem stoppingLife_delete (writes : List Bool) :
    (Life.system shippedTask).step stoppingLife (.delete writes) (stoppingLife.next (.delete writes)) := by
  have henabled : stoppingLife.enabled (.delete []) = true := by decide +kernel
  exact ⟨henabled, rfl⟩

/-- A whole pass at the end. -/
theorem cooperative_stop_whole :
    lastSwitch id stoppingLife.task.driver.log 0x201 = some 0xfc ∧
      NoneEnabled id (stoppingLife.next (.delete [])).task.driver.log := by
  refine ⟨by decide +kernel, ?_⟩
  have hstart : start shippedParams shippedParams 3 = some shippedTask :=
    (Option.some_get start_shipped_isSome).symm
  have hlive : stoppingLife.deleted = false := by decide +kernel
  refine ((cooperative_stop id hstart).2 stoppingLife [] _ stoppingLife_reachable
    (stoppingLife_delete [])).mpr ?_
  exact passReaches_of_writes (Life.reachable_inv hstart stoppingLife_reachable hlive).1 fun _ => rfl

/-- One failed write after the stop request, and a motor stays enabled on a closed device. -/
theorem last_pass_not_repeated : ∃ t₀ s, start shippedParams shippedParams 3 = some t₀ ∧
    (Life.system t₀).Reachable s ∧ s.deleted = true ∧ s.task.driver.output.canFd = -1 ∧
    (∃ before, (Life.system t₀).Reachable before ∧
      s = [.requestStop, .turn (plainTurn 40000 openBus) [] [], .delete [false]].foldl Life.next before) ∧
    lastSwitch id s.task.driver.log 0x201 = some 0xfc := by
  refine ⟨shippedTask, stoppingLife.next (.delete [false]), (Option.some_get start_shipped_isSome).symm,
    .next stoppingLife_reachable (stoppingLife_delete [false]), rfl, by decide +kernel, ?_,
    by decide +kernel⟩
  refine ⟨(stopRun.take 5).foldl Life.next { task := shippedTask }, ?_, rfl⟩
  have hstart : (Life.system shippedTask).Reachable { task := shippedTask } := .start rfl
  have henabled : Transition.Along (fun s a => s.enabled a = true) Life.next { task := shippedTask }
      (stopRun.take 5) := by decide +kernel
  exact Transition.Reachable.foldl_restrict hstart henabled

end CanTask

end DualMagneticWheel
