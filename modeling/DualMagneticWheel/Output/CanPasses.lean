/-
# DualMagneticWheel.Output.CanPasses — what each function of the driver writes

One spec lemma for every function of the CAN driver that writes frames: which frames may enter the log,
and which must when the call succeeds. `sendSpecialAll_passState` is the one about a whole pass: whatever
fails, only frames of the pass are written, and a pass that reports success has written all of them in
order. `FramesOnly` is the frame condition: no function of the driver touches the configuration.
-/
import DualMagneticWheel.Output.CanOutput

namespace DualMagneticWheel

open Foundation

/-! ## What the driver writes -/

/-- The management frame of a channel; an unknown mode has no id of its own. -/
def CanChannelConfig.managementFrame {K : Type} (config : CanChannelConfig K) (command : UInt8) :
    CanFrame :=
  DamiaoProtocol.specialFrame
    (config.motorId.toNat + ((DamiaoProtocol.modeOffset config.mode).getD 0).toNat) command

namespace CanOutput

/-- The frames of a pass over the first `n` channels, as far as they are addressed. -/
def passFrames (o : CanOutput) (addressed : Nat → Bool) (command : UInt8) (n : Nat) : List CanFrame :=
  ((List.range n).filter fun c => addressed c && (o.channel c).protocol == .Damiao).map fun c =>
    (o.channel c).managementFrame command

/-- The disable pass of a configuration: one frame for every Damiao channel. -/
def disablePass (o : CanOutput) : List CanFrame := o.passFrames (fun _ => true) 0xfd ChannelCount

theorem mem_passFrames {o : CanOutput} {addressed : Nat → Bool} {command : UInt8} {n : Nat}
    {f : CanFrame} : f ∈ o.passFrames addressed command n ↔ ∃ c < n, addressed c = true ∧
      (o.channel c).protocol = .Damiao ∧ (o.channel c).managementFrame command = f := by
  simp [passFrames, and_assoc]

theorem passFrames_succ (o : CanOutput) (addressed : Nat → Bool) (command : UInt8) (n : Nat) :
    o.passFrames addressed command (n + 1) = o.passFrames addressed command n ++
      if addressed n = true ∧ (o.channel n).protocol = .Damiao then
        [(o.channel n).managementFrame command] else [] := by
  rw [passFrames, List.range_succ, List.filter_append, List.map_append, passFrames]
  congr 1
  by_cases h : addressed n = true ∧ (o.channel n).protocol = .Damiao
  · rw [if_pos h, List.filter_cons_of_pos (by simp [h])]
    rfl
  · rw [if_neg h, List.filter_cons_of_neg (by simpa using h)]
    rfl

end CanOutput

namespace CanDriver

/-- No failure is taken off the record. -/
def FailuresKept (d d' : CanDriver) : Prop := ∃ failed, d'.failures = failed ++ d.failures

theorem FailuresKept.trans {d d' d'' : CanDriver} (h : FailuresKept d d') (h' : FailuresKept d' d'') :
    FailuresKept d d'' := by
  obtain ⟨failed, hfailed⟩ := h
  obtain ⟨failed', hfailed'⟩ := h'
  exact ⟨failed' ++ failed, by rw [hfailed', hfailed, List.append_assoc]⟩

theorem FailuresKept.length_le {d d' : CanDriver} (h : FailuresKept d d') :
    d.failures.length ≤ d'.failures.length := by
  obtain ⟨failed, hfailed⟩ := h
  rw [hfailed, List.length_append]
  exact Nat.le_add_left _ _

/-- The driver has written these frames, newest first, and is otherwise as before. -/
structure Wrote (d d' : CanDriver) (new : List CanFrame) : Prop where
  output : d'.output = d.output
  log : d'.log = new.map CanEvent.frame ++ d.log
  failures : FailuresKept d d'

theorem Wrote.refl (d : CanDriver) : Wrote d d [] := ⟨rfl, rfl, [], rfl⟩

theorem Wrote.trans {d d' d'' : CanDriver} {new newer : List CanFrame} (h : Wrote d d' new)
    (h' : Wrote d' d'' newer) : Wrote d d'' (newer ++ new) where
  output := h'.output.trans h.output
  log := by rw [h'.log, h.log, List.map_append, List.append_assoc]
  failures := h.failures.trans h'.failures

theorem refuse_wrote (output : Float32) (d : CanDriver) : Wrote d (d.refuse output) [] :=
  ⟨rfl, rfl, [_], rfl⟩

theorem writeFrame_cases (f : CanFrame) (d : CanDriver) :
    ((d.writeFrame f).1 = true ∧ Wrote d (d.writeFrame f).2 [f]) ∨
      ((d.writeFrame f).1 = false ∧ Wrote d (d.writeFrame f).2 []) := by
  unfold writeFrame
  split
  · exact Or.inr ⟨rfl, Wrote.refl d⟩
  · unfold write
    dsimp only
    split
    · exact Or.inl ⟨rfl, rfl, rfl, [], rfl⟩
    · exact Or.inr ⟨rfl, rfl, rfl, [_], rfl⟩

end CanDriver

/-- An accepted management command gives the management frame of the channel. -/
theorem CanChannelConfig.encodeManagement_accepted {K : Type} {config : CanChannelConfig K}
    {command : UInt8} {frame encoded : CanFrame}
    (h : config.encodeManagement command frame = (true, encoded)) :
    encoded = config.managementFrame command := by
  have hspecial : ∀ c, DamiaoProtocol.encodeSpecial config.motorId config.mode c frame =
      (true, encoded) → encoded = config.managementFrame c := by
    intro c hc
    obtain ⟨offset, hoffset, rfl⟩ := DamiaoProtocol.encodeSpecial_accepted hc
    simp only [managementFrame, hoffset, Option.getD_some]
  unfold encodeManagement at h
  split at h
  · subst command
    exact hspecial _ h
  · split at h
    · subst command
      exact hspecial _ h
    · split at h
      · subst command
        exact hspecial _ h
      · split at h
        · subst command
          exact hspecial _ h
        · cases h

namespace CanDriver

/-- A management frame for one channel: written, not needed, or failed. -/
theorem sendSpecial_cases (type : ActuatorType) (index : Nat) (command : UInt8) (d : CanDriver) {c : Nat}
    (hc : type.channel index = c) :
    ((d.sendSpecial type index command).1 = true ∧ (d.output.channel c).protocol = .Damiao ∧
        Wrote d (d.sendSpecial type index command).2 [(d.output.channel c).managementFrame command]) ∨
      ((d.sendSpecial type index command).1 = true ∧ (d.output.channel c).protocol ≠ .Damiao ∧
        Wrote d (d.sendSpecial type index command).2 []) ∨
      ((d.sendSpecial type index command).1 = false ∧
        Wrote d (d.sendSpecial type index command).2 []) := by
  subst hc
  unfold sendSpecial
  generalize type.channel index = c
  split
  · exact Or.inr (Or.inr ⟨rfl, Wrote.refl d⟩)
  · dsimp only
    split
    · rename_i hdisabled
      refine Or.inr (Or.inl ⟨rfl, ?_, Wrote.refl d⟩)
      rw [hdisabled]
      decide
    · split
      · exact Or.inr (Or.inr ⟨rfl, Wrote.refl d⟩)
      · rename_i hdamiao
        rcases hencode : (d.output.channel c).encodeManagement command {} with ⟨ok, frame⟩
        cases ok with
        | false => exact Or.inr (Or.inr ⟨rfl, Wrote.refl d⟩)
        | true =>
            obtain rfl := CanChannelConfig.encodeManagement_accepted hencode
            rcases writeFrame_cases ((d.output.channel c).managementFrame command) d with hw | hw
            · exact Or.inl ⟨hw.1, not_not.mp hdamiao, hw.2⟩
            · exact Or.inr (Or.inr hw)

/-- The state of a pass after `n` channels: only frames of the pass were written, and all of them as
long as nothing failed. -/
def PassState (d : CanDriver) (addressed : Nat → Bool) (command : UInt8) (n : Nat)
    (s : Bool × CanDriver) : Prop :=
  ∃ new, Wrote d s.2 new ∧ (∀ f ∈ new, f ∈ d.output.passFrames addressed command n) ∧
    (s.1 = true → new = (d.output.passFrames addressed command n).reverse)

/-- The channels that a pass addresses. -/
def addressed (caller : MixingOutput) (command : UInt8) (channel : Nat) : Bool :=
  decide (command ≠ 0xfc) || caller.isFunctionSet channel

theorem sendSpecialTurn_passState {caller : MixingOutput} {command : UInt8} {type : ActuatorType}
    {index c : Nat} {d : CanDriver} {s : Bool × CanDriver} (hc : type.channel index = c)
    (h : PassState d (addressed caller command) command c s) :
    PassState d (addressed caller command) command (c + 1)
      (sendSpecialTurn caller command type s index) := by
  obtain ⟨new, hw, hmem, hall⟩ := h
  have hsucc := d.output.passFrames_succ (addressed caller command) command c
  have hmono : ∀ f ∈ new, f ∈ d.output.passFrames (addressed caller command) command (c + 1) := by
    intro f hf
    rw [hsucc]
    exact List.mem_append_left _ (hmem f hf)
  have haddressed : addressed caller command c = true ↔
      (command ≠ 0xfc ∨ caller.isFunctionSet (type.channel index) = true) := by
    rw [hc, addressed, Bool.or_eq_true, decide_eq_true_iff]
  unfold sendSpecialTurn
  split
  · rename_i haddr
    rw [← haddressed] at haddr
    rcases sendSpecial_cases type index command s.2 hc with
      ⟨hok, hdamiao, hw'⟩ | ⟨hok, hdamiao, hw'⟩ | ⟨hok, hw'⟩
    · -- the frame is written
      rw [hw.output] at hdamiao hw'
      rw [if_pos ⟨haddr, hdamiao⟩] at hsucc
      refine ⟨_, hw.trans hw', ?_, ?_⟩
      · intro f hf
        rcases List.mem_append.mp hf with hf | hf
        · rw [hsucc]
          exact List.mem_append_right _ hf
        · exact hmono f hf
      · intro hs
        rw [hall (Bool.and_eq_true_iff.mp hs).2, hsucc, List.reverse_append]
        rfl
    · refine ⟨_, hw.trans hw', hmono, ?_⟩
      intro hs
      rw [hw.output] at hdamiao
      rw [List.nil_append, hall (Bool.and_eq_true_iff.mp hs).2, hsucc,
        if_neg (fun hn => hdamiao hn.2), List.append_nil]
    · refine ⟨_, hw.trans hw', hmono, ?_⟩
      intro hs
      have hsent := (Bool.and_eq_true_iff.mp hs).1
      rw [hok] at hsent
      cases hsent
  · rename_i haddr
    rw [← haddressed] at haddr
    refine ⟨new, hw, hmono, ?_⟩
    intro hs
    rw [hall hs, hsucc, if_neg (fun hn => haddr hn.1), List.append_nil]

/-- A pass writes frames of the pass only, and the whole pass when it succeeds. -/
theorem sendSpecialAll_passState (caller : MixingOutput) (command : UInt8) (d : CanDriver) :
    PassState d (addressed caller command) command CanOutput.ChannelCount
      (d.sendSpecialAll caller command) := by
  have hmotors : PassState d (addressed caller command) command CanOutput.MotorCount
      (forRange CanOutput.MotorCount (sendSpecialTurn caller command .Motor) (true, d)) := by
    refine forRange_invariant (PassState d (addressed caller command) command) ?_ ?_
    · exact ⟨[], Wrote.refl d, by simp, fun _ => rfl⟩
    · intro i s _ hs
      exact sendSpecialTurn_passState rfl hs
  refine forRange_invariant (fun i => PassState d (addressed caller command) command
    (CanOutput.MotorCount + i)) hmotors ?_
  intro i s _ hs
  exact sendSpecialTurn_passState rfl hs

/-- A management command writes at most one frame, and none while the protocol is armed. -/
theorem customCommand_cases (c : ManagementCommand) (d : CanDriver) :
    Wrote d (d.customCommand c).2 [] ∨ (d.output.protocolArmed = false ∧
      ∃ (config : CanChannelConfig Float32) (command : UInt8), (command = 0xfe ∨ command = 0xfb) ∧
        Wrote d (d.customCommand c).2 [config.managementFrame command]) := by
  unfold customCommand
  split
  · exact Or.inl (Wrote.refl d)
  · split
    · exact Or.inl (Wrote.refl d)
    · rename_i hrefused
      simp only [Bool.or_eq_true, not_or, Bool.not_eq_true] at hrefused
      have hkind : (if c.zero = true then (0xfe : UInt8) else 0xfb) = 0xfe ∨
          (if c.zero = true then (0xfe : UInt8) else 0xfb) = 0xfb := by
        cases c.zero
        · exact Or.inr rfl
        · exact Or.inl rfl
      rcases sendSpecial_cases c.type c.index.toNat (if c.zero then 0xfe else 0xfb) d rfl with
        ⟨-, -, hw⟩ | ⟨-, -, hw⟩ | ⟨-, hw⟩
      · exact Or.inr ⟨hrefused.2, _, _, hkind, hw⟩
      · exact Or.inl hw
      · exact Or.inl hw

/-- A set-point for one channel: a frame to the id that also carries the channel's management frames,
or nothing. -/
theorem sendOne_cases (config : CanChannelConfig Float32) (output : Float32) (d : CanDriver) :
    Wrote d (d.sendOne config output).2 [] ∨
      ∃ f, Wrote d (d.sendOne config output).2 [f] ∧ f.management = none ∧
        config.protocol = .Damiao ∧ f.id = (config.managementFrame 0xfc).id := by
  have hencode : ∀ command, config.damiaoCommand output = some command → ∀ f,
      command.encode {} = (true, f) →
      f.management = none ∧ f.id = (config.managementFrame 0xfc).id := by
    intro command hcommand f hf
    unfold CanChannelConfig.damiaoCommand at hcommand
    dsimp only at hcommand
    split at hcommand
    · rename_i hmode
      cases hcommand
      obtain ⟨hkind, hid⟩ := DamiaoProtocol.encodeVelocity_accepted hf
      refine ⟨hkind, ?_⟩
      rw [hid, CanChannelConfig.managementFrame, hmode.2]
      rfl
    · split at hcommand
      · rename_i hmode
        cases hcommand
        obtain ⟨hkind, hid⟩ := DamiaoProtocol.encodePositionVelocity_accepted hf
        refine ⟨hkind, ?_⟩
        rw [hid, CanChannelConfig.managementFrame, hmode.2]
        rfl
      · cases hcommand
  unfold sendOne
  split
  · exact Or.inl (Wrote.refl d)
  · split
    · rename_i hdamiao
      unfold sendDamiao
      split
      · exact Or.inl (refuse_wrote output d)
      · rename_i command hcommand
        rcases hf : command.encode {} with ⟨ok, f⟩
        cases ok with
        | false => exact Or.inl (refuse_wrote output d)
        | true =>
            obtain ⟨hkind, hid⟩ := hencode command hcommand f hf
            rcases writeFrame_cases f d with ⟨-, hw⟩ | ⟨-, hw⟩
            · exact Or.inr ⟨f, hw, hkind, hdamiao, hid⟩
            · exact Or.inl hw
    · exact Or.inl (Wrote.refl d)

/-- The channel loop writes set-points only, for Damiao channels with a function. -/
theorem sendOutputs_wrote (caller : MixingOutput) (outputs : Vector Float32 8) (count : UInt8)
    (d : CanDriver) : ∃ new, Wrote d (d.sendOutputs caller outputs count).2 new ∧
      ∀ f ∈ new, f.management = none ∧ ∃ c < CanOutput.ChannelCount, caller.isFunctionSet c = true ∧
        (d.output.channel c).protocol = .Damiao ∧
        f.id = ((d.output.channel c).managementFrame 0xfc).id := by
  refine forRange_invariant (fun _ (s : Bool × CanDriver) => ∃ new, Wrote d s.2 new ∧
    ∀ f ∈ new, f.management = none ∧ ∃ c < CanOutput.ChannelCount, caller.isFunctionSet c = true ∧
      (d.output.channel c).protocol = .Damiao ∧
      f.id = ((d.output.channel c).managementFrame 0xfc).id) ⟨[], Wrote.refl d, by simp⟩ ?_
  rintro c s hc ⟨new, hw, hnew⟩
  unfold sendOutputTurn
  split
  · exact ⟨new, hw, hnew⟩
  · rename_i hassigned
    rcases sendOne_cases (s.2.output.channel c) (outputs.getD c 0) s.2 with
      hw' | ⟨f, hw', hkind, hdamiao, hid⟩
    · exact ⟨_, hw.trans hw', hnew⟩
    · refine ⟨_, hw.trans hw', ?_⟩
      intro g hg
      rcases List.mem_append.mp hg with hg | hg
      · rw [List.mem_singleton] at hg
        subst hg
        rw [hw.output] at hdamiao hid
        exact ⟨hkind, c, by omega, by simpa using hassigned, hdamiao, hid⟩
      · exact hnew g hg

/-! ## What no function of the driver touches -/

/-- A relation that written frames and the two flags of the protocol do not break. -/
structure Neutral (R : CanDriver → CanDriver → Prop) : Prop where
  wrote : ∀ {d d' new}, Wrote d d' new → R d d'
  flags : ∀ (d : CanDriver) (protocolArmed disablePending : Bool),
    R d { d with output := { d.output with protocolArmed, disablePending } }
  trans : ∀ {d d' d''}, R d d' → R d' d'' → R d d''

section Neutral

variable {R : CanDriver → CanDriver → Prop}

theorem Neutral.customCommand (h : Neutral R) (c : ManagementCommand) (d : CanDriver) :
    R d (d.customCommand c).2 := by
  rcases customCommand_cases c d with hw | ⟨-, _, _, -, hw⟩
  · exact h.wrote hw
  · exact h.wrote hw

theorem Neutral.admitCommands (h : Neutral R) (d : CanDriver) : R d d.admitCommands := by
  have hfold : ∀ (cs : List ManagementCommand) (d₀ : CanDriver),
      R d₀ (cs.foldl (fun d c => (d.customCommand c).2) d₀) := by
    intro cs
    induction cs with
    | nil => exact fun d₀ => h.wrote (Wrote.refl d₀)
    | cons c cs ih => exact fun d₀ => h.trans (h.customCommand c d₀) (ih _)
  have htaken : Wrote d { d with commands := d.commands.tail } [] := ⟨rfl, rfl, [], rfl⟩
  exact h.trans (h.wrote htaken) (hfold (d.commands.headD []) _)

theorem Neutral.stop (h : Neutral R) (caller : MixingOutput) (d : CanDriver) :
    R d (d.stop caller).2 := by
  unfold CanDriver.stop
  split
  · exact h.wrote (Wrote.refl d)
  · obtain ⟨new, hw, -, -⟩ := sendSpecialAll_passState caller 0xfd d
    have hsent := h.wrote hw
    generalize d.sendSpecialAll caller 0xfd = s at hsent ⊢
    obtain ⟨ok, d'⟩ := s
    cases ok with
    | true => exact h.trans hsent (h.flags d' false false)
    | false => exact h.trans hsent (h.flags d' d'.output.protocolArmed true)

theorem Neutral.drive (h : Neutral R) (caller : MixingOutput) (outputs : Option (Vector Float32 8))
    (count : UInt8) (d : CanDriver) : R d (d.drive caller outputs count).2 := by
  have hsend : ∀ outputs d, R d (d.sendOutputs caller outputs count).2 := by
    intro outputs d
    obtain ⟨new, hw, -⟩ := sendOutputs_wrote caller outputs count d
    exact h.wrote hw
  unfold CanDriver.drive
  cases outputs with
  | none => exact h.wrote (Wrote.refl d)
  | some outputs =>
      dsimp only
      split
      · exact h.wrote (Wrote.refl d)
      · split
        · obtain ⟨new, hw, -, -⟩ := sendSpecialAll_passState caller 0xfc
            { d with output := { d.output with protocolArmed := true } }
          have henabled := h.trans (h.flags d true d.output.disablePending) (h.wrote hw)
          generalize sendSpecialAll caller 0xfc
            { d with output := { d.output with protocolArmed := true } } = s at henabled ⊢
          obtain ⟨ok, d'⟩ := s
          cases ok with
          | true => exact h.trans henabled (hsend outputs d')
          | false => exact henabled
        · exact hsend outputs d

theorem Neutral.updateOutputs (h : Neutral R) (caller : MixingOutput) (stopOutputs : Bool)
    (outputs : Option (Vector Float32 8)) (count : UInt8) (now : UInt64) (d : CanDriver) :
    R d (OutputInterface.updateOutputs caller stopOutputs outputs count now d).2 := by
  refine h.trans (h.admitCommands d) ?_
  cases stopOutputs with
  | true => exact h.stop caller _
  | false => exact h.drive caller outputs count _

end Neutral

/-- Nothing but frames enters the log, and the configuration stays. -/
def FramesOnly (d d' : CanDriver) : Prop :=
  (∃ new : List CanFrame, d'.log = new.map CanEvent.frame ++ d.log) ∧
    d'.output.channels = d.output.channels

theorem neutral_framesOnly : Neutral FramesOnly where
  wrote := fun {_ _ new} hw => ⟨⟨new, hw.log⟩, congrArg _ hw.output⟩
  flags := fun _ _ _ => ⟨⟨[], rfl⟩, rfl⟩
  trans := by
    rintro d d' d'' ⟨⟨new, hlog⟩, hsame⟩ ⟨⟨newer, hlog'⟩, hsame'⟩
    refine ⟨⟨newer ++ new, ?_⟩, hsame'.trans hsame⟩
    rw [hlog', hlog, List.map_append, List.append_assoc]

theorem neutral_failures : Neutral FailuresKept where
  wrote := fun hw => hw.failures
  flags := fun _ _ _ => ⟨[], rfl⟩
  trans := FailuresKept.trans

/-- The device stays as it is as well. -/
theorem neutral_canFd : Neutral fun d d' => d'.output.canFd = d.output.canFd where
  wrote := fun hw => congrArg CanOutput.canFd hw.output
  flags := fun _ _ _ => rfl
  trans := fun h h' => h'.trans h

end CanDriver

end DualMagneticWheel
