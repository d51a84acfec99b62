/-
# DualMagneticWheel.Output.MotorDiscipline — enable, drive and disable in the right order

The frames that reached the bus decide which motors are enabled, and a write can fail at any point of a
pass. `Permits` is what the log may be extended by: a set-point only for an enabled motor, an enable only
after a whole disable pass over the start-up configuration, set-zero, clear-error and reloads only while
no motor is enabled. `Discipline` is the invariant that carries it through the flags of the driver.

`Ready`, that an armed driver without a pending disable has enabled every motor it drives, holds between
the updates of the mixing stage only: a half-finished enable pass breaks it, the driver refuses the call,
and the mixing stage answers a refusal with a stop (`effect_discipline`).
-/
import DualMagneticWheel.Output.CanPasses
import DualMagneticWheel.Foundation.EventLog

namespace DualMagneticWheel

open Foundation

/-! ## What the log says about the motors -/

section Log

variable {M : Type} [DecidableEq M] (motorOf : UInt32 → M)

/-- The motor that an event enables or disables, with the command. A motor is known by its frame id. -/
def CanEvent.switches : CanEvent → Option (M × UInt8)
  | .frame f =>
      match f.management with
      | some command =>
          if command = 0xfc ∨ command = 0xfd then some (motorOf f.id, command) else none
      | none => none
  | .reload _ => none

/-- The command of the last enable or disable frame that reached a motor. -/
def lastSwitch (log : List CanEvent) (motor : M) : Option UInt8 :=
  latest (CanEvent.switches motorOf) log motor

/-- No motor's last enable or disable frame is an enable. -/
def NoneEnabled (log : List CanEvent) : Prop := ∀ motor, lastSwitch motorOf log motor ≠ some 0xfc

/-- The frames of a pass stand in the log, one right after the other. -/
def Passed (pass : List CanFrame) (log : List CanEvent) : Prop :=
  (pass.map CanEvent.frame).reverse <:+: log

/-- What may come next. -/
def Permits (pass : List CanFrame) (earlier : List CanEvent) : CanEvent → Prop
  | .reload armed => armed = false ∧ NoneEnabled motorOf earlier
  | .frame f =>
      (f.management = none → lastSwitch motorOf earlier (motorOf f.id) = some 0xfc) ∧
      (f.management = some 0xfc → Passed pass earlier) ∧
      (f.management = some 0xfe ∨ f.management = some 0xfb → NoneEnabled motorOf earlier)

variable {motorOf}

omit [DecidableEq M]

theorem Passed.append {pass : List CanFrame} {log : List CanEvent} (h : Passed pass log)
    (newer : List CanEvent) : Passed pass (newer ++ log) :=
  h.trans (List.suffix_append newer log).isInfix

theorem switches_setpoint {f : CanFrame} (h : f.management = none) :
    CanEvent.switches motorOf (.frame f) = none := by
  simp only [CanEvent.switches, h]

theorem switches_special (id : Nat) (command : UInt8) :
    CanEvent.switches motorOf (.frame (DamiaoProtocol.specialFrame id command)) =
      if command = 0xfc ∨ command = 0xfd then some (motorOf (UInt32.ofNat id), command) else none := by
  simp only [CanEvent.switches, DamiaoProtocol.specialFrame_management]
  rfl

end Log

/-! ## The invariant -/

section Invariant

variable {M : Type} [DecidableEq M] (motorOf : UInt32 → M)

/-- The log was permitted, and the flags tell the truth about it. -/
structure Discipline (pass : List CanFrame) (d : CanDriver) : Prop where
  lawful : Lawful (Permits motorOf pass) d.log
  /-- An enabled motor arms the protocol. -/
  armed : ∀ motor, lastSwitch motorOf d.log motor = some 0xfc → d.output.protocolArmed = true
  /-- Every enabled motor belongs to a channel of the present configuration. -/
  known : ∀ motor, lastSwitch motorOf d.log motor = some 0xfc →
    ∃ f ∈ d.output.disablePass, motorOf f.id = motor
  /-- The pending flag is cleared by a pass only, -/
  passed : d.output.disablePending = false → Passed pass d.log
  /-- and until then the configuration is the one of the start. -/
  first : Passed pass d.log ∨ d.output.disablePass = pass

/-- An armed driver without a pending disable has enabled every motor that it drives. -/
def Ready (assigned : Nat → Bool) (d : CanDriver) : Prop :=
  d.output.protocolArmed = true → d.output.disablePending = false →
    ∀ c < CanOutput.ChannelCount, assigned c = true → (d.output.channel c).protocol = .Damiao →
      lastSwitch motorOf d.log (motorOf ((d.output.channel c).managementFrame 0xfc).id) = some 0xfc

variable {motorOf} {pass : List CanFrame}

theorem noneEnabled_of_disarmed {d : CanDriver} (h : Discipline motorOf pass d)
    (hdisarmed : d.output.protocolArmed = false) : NoneEnabled motorOf d.log := by
  intro motor hmotor
  have := h.armed motor hmotor
  rw [hdisarmed] at this
  cases this

/-- The invariant reads the log and the fields of the object. -/
theorem Discipline.congr {d d' : CanDriver} (h : Discipline motorOf pass d) (hlog : d'.log = d.log)
    (hout : d'.output = d.output) : Discipline motorOf pass d' := by
  obtain ⟨lawful, armed, known, passed, first⟩ := h
  rw [← hlog] at lawful armed known passed first
  rw [← hout] at armed known passed first
  exact ⟨lawful, armed, known, passed, first⟩

/-- Permitted frames that switch no motor. -/
theorem Discipline.extend {d d' : CanDriver} (h : Discipline motorOf pass d) {new : List CanFrame}
    (hw : CanDriver.Wrote d d' new)
    (hquiet : ∀ f ∈ new, CanEvent.switches motorOf (.frame f) = none)
    (hpermits : ∀ f ∈ new, ∀ quiet : List CanEvent,
      (∀ e ∈ quiet, CanEvent.switches motorOf e = none) →
        Permits motorOf pass (quiet ++ d.log) (.frame f)) :
    Discipline motorOf pass d' := by
  have hevents : ∀ e ∈ new.map CanEvent.frame, CanEvent.switches motorOf e = none := by
    intro e he
    obtain ⟨f, hf, rfl⟩ := List.mem_map.mp he
    exact hquiet f hf
  have hlast : ∀ motor, lastSwitch motorOf d'.log motor = lastSwitch motorOf d.log motor := by
    intro motor
    rw [hw.log]
    exact latest_append_of_none hevents d.log motor
  refine ⟨?_, ?_, ?_, ?_, ?_⟩
  · rw [hw.log]
    refine h.lawful.append ?_
    intro later e earlier hsplit
    have hmem : ∀ e' ∈ e :: earlier, e' ∈ new.map CanEvent.frame := by
      intro e' he'
      rw [hsplit]
      exact List.mem_append_right _ he'
    obtain ⟨f, hf, rfl⟩ := List.mem_map.mp (hmem e List.mem_cons_self)
    exact hpermits f hf earlier fun e' he' => hevents e' (hmem e' (List.mem_cons_of_mem _ he'))
  · intro motor hmotor
    rw [hw.output]
    exact h.armed motor (by rwa [hlast] at hmotor)
  · intro motor hmotor
    rw [hw.output]
    exact h.known motor (by rwa [hlast] at hmotor)
  · intro hpending
    rw [hw.output] at hpending
    rw [hw.log]
    exact (h.passed hpending).append _
  · rw [hw.log, hw.output]
    exact h.first.imp_left fun hp => hp.append _

theorem Ready.extend {assigned : Nat → Bool} {d d' : CanDriver} (h : Ready motorOf assigned d)
    {new : List CanFrame} (hw : CanDriver.Wrote d d' new)
    (hquiet : ∀ f ∈ new, CanEvent.switches motorOf (.frame f) = none) :
    Ready motorOf assigned d' := by
  intro harmed hpending c hc hassigned hdamiao
  rw [hw.output] at harmed hpending hdamiao ⊢
  rw [hw.log, lastSwitch, latest_append_of_none]
  · exact h harmed hpending c hc hassigned hdamiao
  · intro e he
    obtain ⟨f, hf, rfl⟩ := List.mem_map.mp he
    exact hquiet f hf

/-! ## Commands of other tasks -/

/-- A management command leaves the object alone and the invariant intact. -/
theorem customCommand_keeps (c : ManagementCommand) {d : CanDriver} (h : Discipline motorOf pass d) :
    (d.customCommand c).2.output = d.output ∧ Discipline motorOf pass (d.customCommand c).2 ∧
      ∀ assigned, Ready motorOf assigned d → Ready motorOf assigned (d.customCommand c).2 := by
  rcases CanDriver.customCommand_cases c d with hw | ⟨hdisarmed, config, command, hkind, hw⟩
  · exact ⟨hw.output, h.congr hw.log hw.output, fun _ hr => hr.extend hw (by simp)⟩
  · have hmanagement : (config.managementFrame command).management = some command :=
      DamiaoProtocol.specialFrame_management _ command
    have hquiet : ∀ f ∈ [config.managementFrame command],
        CanEvent.switches motorOf (.frame f) = none := by
      intro f hf
      rw [List.mem_singleton] at hf
      rw [hf, CanChannelConfig.managementFrame, switches_special, if_neg]
      rcases hkind with rfl | rfl <;> decide
    refine ⟨hw.output, h.extend hw hquiet ?_, fun _ hr => hr.extend hw hquiet⟩
    intro f hf quiet hq
    rw [List.mem_singleton] at hf
    subst hf
    refine ⟨?_, ?_, ?_⟩
    · intro hset
      rw [hmanagement] at hset
      cases hset
    · intro henable
      rw [hmanagement, Option.some_inj] at henable
      rcases hkind with hk | hk <;> rw [hk] at henable <;> exact absurd henable (by decide)
    · intro _ motor
      rw [lastSwitch, latest_append_of_none hq]
      exact noneEnabled_of_disarmed h hdisarmed motor

theorem admitCommands_keeps {d : CanDriver} (h : Discipline motorOf pass d) :
    d.admitCommands.output = d.output ∧ Discipline motorOf pass d.admitCommands ∧
      ∀ assigned, Ready motorOf assigned d → Ready motorOf assigned d.admitCommands := by
  have hfold : ∀ (cs : List ManagementCommand) (d₀ : CanDriver), Discipline motorOf pass d₀ →
      (cs.foldl (fun d c => (d.customCommand c).2) d₀).output = d₀.output ∧
        Discipline motorOf pass (cs.foldl (fun d c => (d.customCommand c).2) d₀) ∧
        ∀ assigned, Ready motorOf assigned d₀ →
          Ready motorOf assigned (cs.foldl (fun d c => (d.customCommand c).2) d₀) := by
    intro cs
    induction cs with
    | nil => exact fun d₀ h₀ => ⟨rfl, h₀, fun _ hr => hr⟩
    | cons c cs ih =>
        intro d₀ h₀
        obtain ⟨hout, hd, hr⟩ := customCommand_keeps c h₀
        obtain ⟨hout', hd', hr'⟩ := ih _ hd
        exact ⟨hout'.trans hout, hd', fun assigned h => hr' assigned (hr assigned h)⟩
  exact hfold _ _ (h.congr rfl rfl)

/-! ## Passes -/

omit [DecidableEq M] in
theorem switches_of_mem_passFrames {o : CanOutput} {addressed : Nat → Bool} {command : UInt8} {n : Nat}
    (hcommand : command = 0xfc ∨ command = 0xfd) {f : CanFrame}
    (hf : f ∈ o.passFrames addressed command n) :
    CanEvent.switches motorOf (.frame f) = some (motorOf f.id, command) := by
  obtain ⟨c, -, -, -, rfl⟩ := CanOutput.mem_passFrames.mp hf
  rw [CanChannelConfig.managementFrame, switches_special, if_pos hcommand]
  rfl

omit [DecidableEq M] in
/-- Frames of a pass, as events that all write one value. -/
theorem switches_block (motorOf : UInt32 → M) {o : CanOutput} {addressed : Nat → Bool} {command : UInt8} {n : Nat}
    (hcommand : command = 0xfc ∨ command = 0xfd) {new : List CanFrame}
    (hnew : ∀ f ∈ new, f ∈ o.passFrames addressed command n) :
    ∀ e ∈ new.map CanEvent.frame,
      ∃ motor, CanEvent.switches motorOf e = some (motor, command) := by
  intro e he
  obtain ⟨f, hf, rfl⟩ := List.mem_map.mp he
  exact ⟨_, switches_of_mem_passFrames hcommand (hnew f hf)⟩

theorem management_of_mem_passFrames {o : CanOutput} {addressed : Nat → Bool} {command : UInt8}
    {n : Nat} {f : CanFrame} (hf : f ∈ o.passFrames addressed command n) :
    f.management = some command := by
  obtain ⟨c, -, -, -, rfl⟩ := CanOutput.mem_passFrames.mp hf
  exact DamiaoProtocol.specialFrame_management _ command

/-- Every frame of any pass has the id of a frame of the disable pass. -/
theorem disablePass_of_mem_passFrames {o : CanOutput} {addressed : Nat → Bool} {command : UInt8}
    {f : CanFrame} (hf : f ∈ o.passFrames addressed command CanOutput.ChannelCount) :
    ∃ g ∈ o.disablePass, g.id = f.id := by
  obtain ⟨c, hc, -, hdamiao, rfl⟩ := CanOutput.mem_passFrames.mp hf
  exact ⟨(o.channel c).managementFrame 0xfd, CanOutput.mem_passFrames.mpr ⟨c, hc, rfl, hdamiao, rfl⟩,
    rfl⟩

/-- A disable pass, finished or not, keeps the invariant; a finished one has disabled every motor. -/
theorem disable_discipline {d d' : CanDriver} (h : Discipline motorOf pass d) {new : List CanFrame}
    (hw : CanDriver.Wrote d d' new) (hnew : ∀ f ∈ new, f ∈ d.output.disablePass) :
    Discipline motorOf pass d' ∧
      (new = d.output.disablePass.reverse → NoneEnabled motorOf d'.log ∧ Passed pass d'.log) := by
  have hblock := switches_block motorOf (Or.inr rfl) hnew
  -- a motor that is enabled afterwards was so before, and the pass had no frame for it
  have hold : ∀ motor, lastSwitch motorOf d'.log motor = some 0xfc →
      lastSwitch motorOf d.log motor = some 0xfc ∧
        ∀ e ∈ new.map CanEvent.frame, CanEvent.switches motorOf e ≠ some (motor, 0xfd) := by
    intro motor hmotor
    rw [hw.log, lastSwitch] at hmotor
    rcases latest_append_of_value hblock d.log motor with ⟨-, hdisabled⟩ | ⟨hnone, hsame⟩
    · rw [hdisabled] at hmotor
      exact absurd hmotor (by decide)
    · rw [hsame] at hmotor
      exact ⟨hmotor, hnone⟩
  refine ⟨⟨?_, ?_, ?_, ?_, ?_⟩, ?_⟩
  · rw [hw.log]
    refine h.lawful.append ?_
    intro later e earlier hsplit
    obtain ⟨f, hf, rfl⟩ := List.mem_map.mp
      (show e ∈ new.map CanEvent.frame by rw [hsplit]; exact List.mem_append_right _ List.mem_cons_self)
    have hmanagement := management_of_mem_passFrames (hnew f hf)
    simp [Permits, hmanagement]
  · intro motor hmotor
    rw [hw.output]
    exact h.armed motor (hold motor hmotor).1
  · intro motor hmotor
    rw [hw.output]
    exact h.known motor (hold motor hmotor).1
  · intro hpending
    rw [hw.output] at hpending
    rw [hw.log]
    exact (h.passed hpending).append _
  · rw [hw.log, hw.output]
    exact h.first.imp_left fun hp => hp.append _
  · intro hall
    refine ⟨?_, ?_⟩
    · intro motor hmotor
      obtain ⟨henabled, hnone⟩ := hold motor hmotor
      obtain ⟨f, hf, hid⟩ := h.known motor henabled
      refine hnone (.frame f) (List.mem_map_of_mem (hall ▸ List.mem_reverse.mpr hf)) ?_
      rw [switches_of_mem_passFrames (Or.inr rfl) hf, hid]
    · rw [hw.log]
      rcases h.first with hpassed | hfirst
      · exact hpassed.append _
      · rw [hall, hfirst, List.map_reverse]
        exact (List.prefix_append _ _).isInfix

/-- What a stop leaves behind. -/
theorem stop_discipline {d : CanDriver} (h : Discipline motorOf pass d) (caller : MixingOutput) :
    Discipline motorOf pass (d.stop caller).2 ∧
      (d.stop caller).2.output.channels = d.output.channels ∧
      ((d.stop caller).1 = true → (d.stop caller).2.output.protocolArmed = false ∧
        (d.stop caller).2.output.disablePending = false) ∧
      ((d.stop caller).1 = false → (d.stop caller).2.output.disablePending = true) := by
  unfold CanDriver.stop
  split
  · rename_i hidle
    simp only [Bool.and_eq_true, Bool.not_eq_true'] at hidle
    exact ⟨h, rfl, fun _ => hidle, fun hfalse => absurd hfalse (by simp)⟩
  · obtain ⟨new, hw, hnew, hall⟩ := CanDriver.sendSpecialAll_passState caller 0xfd d
    have haddressed : CanDriver.addressed caller 0xfd = fun _ => true := by
      funext c
      simp [CanDriver.addressed]
    rw [haddressed] at hnew hall
    obtain ⟨hd, hdone⟩ := disable_discipline h hw hnew
    rcases hsent : d.sendSpecialAll caller 0xfd with ⟨ok, d'⟩
    rw [hsent] at hw hall hd hdone
    have hchannels : d'.output.channels = d.output.channels := congrArg _ hw.output
    cases ok with
    | false =>
        refine ⟨⟨hd.lawful, hd.armed, hd.known, ?_, hd.first⟩, hchannels, ?_, fun _ => rfl⟩
        · intro hpending
          cases hpending
        · intro hok
          cases hok
    | true =>
        obtain ⟨hnone, hpassed⟩ := hdone (hall rfl)
        refine ⟨⟨hd.lawful, ?_, ?_, fun _ => hpassed, Or.inl hpassed⟩, hchannels,
          fun _ => ⟨rfl, rfl⟩, ?_⟩
        · exact fun motor hmotor => absurd hmotor (hnone motor)
        · exact fun motor hmotor => absurd hmotor (hnone motor)
        · intro hok
          cases hok

/-- After a stop nothing is driven without a new enable pass. -/
theorem stop_ready {d : CanDriver} (h : Discipline motorOf pass d) (caller : MixingOutput)
    (assigned : Nat → Bool) : Ready motorOf assigned (d.stop caller).2 := by
  obtain ⟨-, -, hok, hfail⟩ := stop_discipline h caller
  intro harmed hpending
  cases hresult : (d.stop caller).1 with
  | true =>
      rw [(hok hresult).1] at harmed
      cases harmed
  | false =>
      rw [hfail hresult] at hpending
      cases hpending

/-- An enable pass, finished or not, keeps the invariant; a finished one makes the driver ready. -/
theorem enable_discipline {d d' : CanDriver} {caller : MixingOutput} (h : Discipline motorOf pass d)
    (harmed : d.output.protocolArmed = true) (hpending : d.output.disablePending = false)
    {new : List CanFrame} (hw : CanDriver.Wrote d d' new)
    (hnew : ∀ f ∈ new, f ∈ d.output.passFrames (CanDriver.addressed caller 0xfc) 0xfc
      CanOutput.ChannelCount) :
    Discipline motorOf pass d' ∧
      (new = (d.output.passFrames (CanDriver.addressed caller 0xfc) 0xfc
        CanOutput.ChannelCount).reverse → Ready motorOf caller.isFunctionSet d') := by
  have hblock := switches_block motorOf (Or.inl rfl) hnew
  refine ⟨⟨?_, ?_, ?_, ?_, ?_⟩, ?_⟩
  · rw [hw.log]
    refine h.lawful.append ?_
    intro later e earlier hsplit
    obtain ⟨f, hf, rfl⟩ := List.mem_map.mp
      (show e ∈ new.map CanEvent.frame by rw [hsplit]; exact List.mem_append_right _ List.mem_cons_self)
    have hmanagement := management_of_mem_passFrames (hnew f hf)
    refine ⟨?_, fun _ => (h.passed hpending).append _, ?_⟩
    · intro hset
      rw [hmanagement] at hset
      cases hset
    · intro hother
      rw [hmanagement] at hother
      exact absurd hother (by decide)
  · intro _ _
    rw [hw.output]
    exact harmed
  · intro motor hmotor
    rw [hw.output]
    rw [hw.log, lastSwitch] at hmotor
    rcases latest_append_of_value hblock d.log motor with ⟨⟨e, he, hwritten⟩, -⟩ | ⟨-, hsame⟩
    · obtain ⟨f, hf, rfl⟩ := List.mem_map.mp he
      rw [switches_of_mem_passFrames (Or.inl rfl) (hnew f hf)] at hwritten
      cases hwritten
      -- a newly enabled motor is one that the disable pass reaches
      obtain ⟨g, hg, hid⟩ := disablePass_of_mem_passFrames (hnew f hf)
      exact ⟨g, hg, by rw [hid]⟩
    · rw [hsame] at hmotor
      exact h.known motor hmotor
  · intro hpending'
    rw [hw.log]
    exact (h.passed hpending).append _
  · exact Or.inl (by rw [hw.log]; exact (h.passed hpending).append _)
  · intro hall _ _ c hc hassigned hdamiao
    rw [hw.output] at hdamiao ⊢
    have hmem : (d.output.channel c).managementFrame 0xfc ∈ d.output.passFrames
        (CanDriver.addressed caller 0xfc) 0xfc CanOutput.ChannelCount :=
      CanOutput.mem_passFrames.mpr ⟨c, hc, by simp [CanDriver.addressed, hassigned], hdamiao, rfl⟩
    rw [hw.log]
    exact latest_append_of_mem hblock
      (List.mem_map_of_mem (hall ▸ List.mem_reverse.mpr hmem))
      (switches_of_mem_passFrames (Or.inl rfl) hmem) d.log

/-! ## Set-points -/

theorem sendOutputs_discipline {d : CanDriver} {caller : MixingOutput} (h : Discipline motorOf pass d)
    (hr : Ready motorOf caller.isFunctionSet d) (harmed : d.output.protocolArmed = true)
    (hpending : d.output.disablePending = false) (outputs : Vector Float32 8) (count : UInt8) :
    Discipline motorOf pass (d.sendOutputs caller outputs count).2 ∧
      Ready motorOf caller.isFunctionSet (d.sendOutputs caller outputs count).2 ∧
      (d.sendOutputs caller outputs count).2.output = d.output := by
  obtain ⟨new, hw, hnew⟩ := CanDriver.sendOutputs_wrote caller outputs count d
  have hquiet : ∀ f ∈ new, CanEvent.switches motorOf (.frame f) = none :=
    fun f hf => switches_setpoint (hnew f hf).1
  refine ⟨h.extend hw hquiet ?_, hr.extend hw hquiet, hw.output⟩
  intro f hf quiet hq
  obtain ⟨hkind, c, hc, hassigned, hdamiao, hid⟩ := hnew f hf
  refine ⟨fun _ => ?_, ?_, ?_⟩
  · rw [lastSwitch, latest_append_of_none hq, hid]
    exact hr harmed hpending c hc hassigned hdamiao
  · intro henable
    rw [hkind] at henable
    cases henable
  · intro hother
    rw [hkind] at hother
    rcases hother with hother | hother <;> cases hother

/-- A refused output array may leave an enable pass half finished; an accepted one does not. -/
theorem drive_discipline {d : CanDriver} {caller : MixingOutput} (h : Discipline motorOf pass d)
    (hr : Ready motorOf caller.isFunctionSet d) (outputs : Option (Vector Float32 8)) (count : UInt8) :
    Discipline motorOf pass (d.drive caller outputs count).2 ∧
      ((d.drive caller outputs count).1 = true →
        Ready motorOf caller.isFunctionSet (d.drive caller outputs count).2) ∧
      (d.drive caller outputs count).2.output.channels = d.output.channels := by
  unfold CanDriver.drive
  cases outputs with
  | none => exact ⟨h, fun _ => hr, rfl⟩
  | some outputs =>
      dsimp only
      split
      · exact ⟨h, fun _ => hr, rfl⟩
      · rename_i hopen
        simp only [Bool.or_eq_true, not_or, Bool.not_eq_true] at hopen
        split
        · -- the flag is set before the pass, so that a failed pass is followed by a disable pass
          generalize hd₀ : { d with output := { d.output with protocolArmed := true } } = d₀
          have harmed : d₀.output.protocolArmed = true := by rw [← hd₀]
          have hpending : d₀.output.disablePending = false := by
            rw [← hd₀]
            exact hopen.2
          have hchannels : d₀.output.channels = d.output.channels := by rw [← hd₀]
          have h₀ : Discipline motorOf pass d₀ := by
            rw [← hd₀]
            exact ⟨h.lawful, fun _ _ => rfl, h.known, h.passed, h.first⟩
          obtain ⟨new, hw, hnew, hall⟩ := CanDriver.sendSpecialAll_passState caller 0xfc d₀
          obtain ⟨hd, hready⟩ := enable_discipline h₀ harmed hpending hw hnew
          rcases hsent : d₀.sendSpecialAll caller 0xfc with ⟨ok, d₁⟩
          rw [hsent] at hw hall hd hready
          have hout : d₁.output = d₀.output := hw.output
          have hsame : d₁.output.channels = d.output.channels := by rw [hout, hchannels]
          cases ok with
          | false =>
              refine ⟨hd, ?_, hsame⟩
              intro hok
              cases hok
          | true =>
              obtain ⟨hd', hr', hout'⟩ := sendOutputs_discipline hd (hready (hall rfl))
                (hout ▸ harmed) (hout ▸ hpending) outputs count
              exact ⟨hd', fun _ => hr', (congrArg _ hout').trans hsame⟩
        · rename_i harmed
          obtain ⟨hd, hr', hout⟩ :=
            sendOutputs_discipline h hr (by simpa using harmed) hopen.2 outputs count
          exact ⟨hd, fun _ => hr', congrArg _ hout⟩

/-! ## The virtual function -/

theorem updateOutputs_stop {d d' : CanDriver} (h : Discipline motorOf pass d) {caller : MixingOutput}
    {outputs : Option (Vector Float32 8)} {count : UInt8} {now : UInt64} {stopped : Bool}
    (hcall : OutputInterface.updateOutputs caller true outputs count now d = (stopped, d')) :
    Discipline motorOf pass d' ∧ (∀ assigned, Ready motorOf assigned d') ∧
      (stopped = true → d'.output.protocolArmed = false ∧ d'.output.disablePending = false) := by
  obtain ⟨-, hd, -⟩ := admitCommands_keeps h
  obtain ⟨hstop, -, hok, -⟩ := stop_discipline hd caller
  have hready := stop_ready hd caller
  replace hcall : d.admitCommands.stop caller = (stopped, d') := hcall
  rw [hcall] at hstop hok hready
  exact ⟨hstop, hready, hok⟩

theorem updateOutputs_drive {d d' : CanDriver} {caller : MixingOutput}
    (h : Discipline motorOf pass d) (hr : Ready motorOf caller.isFunctionSet d)
    {outputs : Option (Vector Float32 8)} {count : UInt8} {now : UInt64} {accepted : Bool}
    (hcall : OutputInterface.updateOutputs caller false outputs count now d = (accepted, d')) :
    Discipline motorOf pass d' ∧ (accepted = true → Ready motorOf caller.isFunctionSet d') := by
  obtain ⟨-, hd, hready⟩ := admitCommands_keeps h
  obtain ⟨hdrive, hok, -⟩ := drive_discipline hd (hready _ hr) outputs count
  replace hcall : d.admitCommands.drive caller outputs count = (accepted, d') := hcall
  rw [hcall] at hdrive hok
  exact ⟨hdrive, hok⟩

theorem stopOutputs_discipline {d : CanDriver} (h : Discipline motorOf pass d) (m : MixingOutput)
    (now : UInt64) : Discipline motorOf pass (m.stopOutputs now d).2.2 ∧
      ∀ assigned, Ready motorOf assigned (m.stopOutputs now d).2.2 := by
  rcases hcall : OutputInterface.updateOutputs m true none 0 now d with ⟨stopped, d'⟩
  obtain ⟨hd, hready, -⟩ := updateOutputs_stop h hcall
  unfold MixingOutput.stopOutputs
  rw [hcall]
  exact ⟨hd, hready⟩

/-- One update of the mixing stage. A refused output array is answered with a stop. -/
theorem effect_discipline {m : MixingOutput} {now : UInt64} {d : CanDriver}
    {out : MixingOutput × CanDriver} (heffect : m.Effect now d out) (h : Discipline motorOf pass d)
    (hr : Ready motorOf m.isFunctionSet d) :
    Discipline motorOf pass out.2 ∧ Ready motorOf m.isFunctionSet out.2 := by
  cases heffect with
  | quiet since _ _ => exact ⟨h, hr⟩
  | stop since =>
      obtain ⟨hd, hready⟩ := stopOutputs_discipline h (m.withFaultSince since) now
      exact ⟨hd, hready _⟩
  | drive since _ _ hcall =>
      have hr' : Ready motorOf (m.withFaultSince since).isFunctionSet d := hr
      obtain ⟨hd, hready⟩ := updateOutputs_drive h hr' hcall
      exact ⟨hd, hready rfl⟩
  | refused since _ _ hcall =>
      have hr' : Ready motorOf (m.withFaultSince since).isFunctionSet d := hr
      obtain ⟨hd, -⟩ := updateOutputs_drive h hr' hcall
      obtain ⟨hd', hready⟩ := stopOutputs_discipline hd (m.withFaultSince since) now
      exact ⟨hd', hready _⟩

end Invariant

end DualMagneticWheel
