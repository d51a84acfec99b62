/-
# DualMagneticWheel.Output.Drivable — what the validator of the CAN channels promises the encoder

`loadChannel` accepts a channel whose mode is one of the four modes of a Damiao motor. `sendDamiao` has a
set-point for one mode of each actuator type: velocity for the drive motors, position and velocity for
the steering motors. Id, limits and direction agree between the two, in exact arithmetic. The mode is the
one thing on which they differ, and `drivable_iff` says so: an accepted configuration is drivable exactly
when every Damiao channel is set to the mode its type is driven in.
-/
import DualMagneticWheel.Output.CanOutput

namespace DualMagneticWheel

open Foundation

/-- The test of the encoder that a set-point goes to, over any number type. -/
def DamiaoCommand.accepted {K : Type} [Scalar K] : DamiaoCommand K → Bool
  | .velocity motorId v => DamiaoProtocol.velocityAccepted motorId v
  | .positionVelocity motorId p v => DamiaoProtocol.positionVelocityAccepted motorId p v

/-- A standard id that was tested as a number. -/
theorem ofNat_le_standard {id : Nat} (h : id ≤ 0x7ff) : UInt32.ofNat id ≤ 0x7ff := by
  have hsize : id < UInt32.size := Nat.lt_of_le_of_lt h (by decide)
  rw [UInt32.le_iff_toNat_le, UInt32.toNat_ofNat_of_lt' hsize]
  exact h

/-- An encoder answers by its test, and its frame is one that `writeFrame` passes on. -/
theorem DamiaoCommand.encode_spec (c : DamiaoCommand Float32) (frame : CanFrame) :
    (c.encode frame).1 = c.accepted ∧
      (c.accepted = true → (c.encode frame).2.length ≤ 8 ∧ (c.encode frame).2.id ≤ 0x7ff) := by
  cases c with
  | velocity motorId v =>
      simp only [encode, accepted, DamiaoProtocol.encodeVelocity]
      cases haccepted : DamiaoProtocol.velocityAccepted motorId v with
      | false => exact ⟨rfl, nofun⟩
      | true =>
          rw [DamiaoProtocol.velocityAccepted, Bool.and_eq_true, decide_eq_true_iff] at haccepted
          refine ⟨rfl, fun _ => ⟨?_, ofNat_le_standard haccepted.1⟩⟩
          show (4 : UInt8) ≤ 8
          decide
  | positionVelocity motorId p v =>
      simp only [encode, accepted, DamiaoProtocol.encodePositionVelocity]
      cases haccepted : DamiaoProtocol.positionVelocityAccepted motorId p v with
      | false => exact ⟨rfl, nofun⟩
      | true =>
          rw [DamiaoProtocol.positionVelocityAccepted, Bool.and_eq_true, Bool.and_eq_true,
            decide_eq_true_iff] at haccepted
          refine ⟨rfl, fun _ => ⟨?_, ofNat_le_standard haccepted.1.1⟩⟩
          show (8 : UInt8) ≤ 8
          decide

/-- The mode `sendDamiao` has a set-point for. -/
def ActuatorType.driveMode : ActuatorType → DamiaoMode
  | .Motor => .Velocity
  | .Servo => .PositionVelocity

/-- Each of the four channels belongs to an actuator. -/
theorem ActuatorType.exists_channel {i : Nat} (h : i < CanOutput.ChannelCount) :
    ∃ (type : ActuatorType) (index : Nat), index < type.count ∧ type.channel index = i := by
  rw [CanOutput.ChannelCount] at h
  by_cases hmotor : i < 2
  · exact ⟨.Motor, i, hmotor, rfl⟩
  · refine ⟨.Servo, i - 2, ?_, ?_⟩
    · show i - 2 < 2
      omega
    · show 2 + (i - 2) = i
      omega

theorem ActuatorType.channel_lt {type : ActuatorType} {index : Nat} (h : index < type.count) :
    type.channel index < CanOutput.ChannelCount := by
  cases type with
  | Motor => exact Nat.lt_trans h (by decide)
  | Servo =>
      have hservo : index < 2 := h
      show 2 + index < 4
      omega

namespace CanChannelConfig

variable {K : Type} [Scalar K] [OfScientific K] [Add K] [Sub K] [Mul K] [Neg K] [BEq K]

/-! ## What an accepted channel has been loaded with -/

omit [Scalar K] [OfScientific K] [Add K] [Sub K] [Mul K] [Neg K] [BEq K] in
/-- A reading that is still valid has found its parameter. -/
theorem readInt_valid {params : ParamReader K} {name : CString} {valid : Bool} {integer : Int32}
    (h : (readInt params name valid integer).1 = true) :
    valid = true ∧ params.integer name = some (readInt params name valid integer).2 := by
  unfold readInt at h ⊢
  split at h
  · rename_i value hvalue
    rw [hvalue]
    exact ⟨h, rfl⟩
  · cases h

omit [Scalar K] [OfScientific K] [Add K] [Sub K] [Mul K] [Neg K] [BEq K] in
theorem readFloat_valid {params : ParamReader K} {name : CString} {valid : Bool} {target : K}
    (h : (readFloat params name valid target).1 = true) :
    valid = true ∧ params.real name = some (readFloat params name valid target).2 := by
  unfold readFloat at h ⊢
  split at h
  · rename_i value hvalue
    rw [hvalue]
    exact ⟨h, rfl⟩
  · cases h

omit [Scalar K] [OfScientific K] [Add K] [Sub K] [Mul K] [Neg K] [BEq K] in
/-- The integer parameters, read in order; the two the sender branches on come from the table. -/
theorem loadIntegers_spec (params : ParamReader K) (type : ActuatorType) (index : Nat)
    (config : CanChannelConfig K) :
    (loadIntegers params type index config).2.actuatorType = type ∧
      ((loadIntegers params type index config).1 = true →
        params.integer (paramName type index "PROTO") =
            some (loadIntegers params type index config).2.protocol.value ∧
          params.integer (paramName type index "MODE") =
            some (loadIntegers params type index config).2.mode.value) := by
  refine ⟨rfl, fun h => ?_⟩
  obtain ⟨h, hmode⟩ := readInt_valid h
  obtain ⟨h, -⟩ := readInt_valid h
  obtain ⟨h, -⟩ := readInt_valid h
  obtain ⟨h, -⟩ := readInt_valid h
  obtain ⟨-, hprotocol⟩ := readInt_valid h
  exact ⟨hprotocol, hmode⟩

omit [Scalar K] [OfScientific K] [Add K] [Sub K] [Mul K] [BEq K] in
/-- The real parameters leave the integer ones alone and do not make a failed reading good. -/
theorem loadReals_spec (params : ParamReader K) (type : ActuatorType) (index : Nat) (valid : Bool)
    (config : CanChannelConfig K) :
    (loadReals params type index valid config).2.actuatorType = config.actuatorType ∧
      (loadReals params type index valid config).2.protocol = config.protocol ∧
      (loadReals params type index valid config).2.mode = config.mode ∧
      ((loadReals params type index valid config).1 = true → valid = true) := by
  cases type with
  | Motor =>
      refine ⟨rfl, rfl, rfl, fun h => ?_⟩
      simp only [loadReals] at h
      obtain ⟨h, -⟩ := readFloat_valid h
      obtain ⟨h, -⟩ := readFloat_valid h
      obtain ⟨h, -⟩ := readFloat_valid h
      exact (readFloat_valid h).1
  | Servo =>
      refine ⟨rfl, rfl, rfl, fun h => ?_⟩
      simp only [loadReals] at h
      obtain ⟨h, -⟩ := readFloat_valid h
      obtain ⟨h, -⟩ := readFloat_valid h
      obtain ⟨h, -⟩ := readFloat_valid h
      obtain ⟨h, -⟩ := readFloat_valid h
      obtain ⟨h, -⟩ := readFloat_valid h
      exact (readFloat_valid h).1

/-- A channel as an accepted refresh leaves it. -/
structure Loaded (params : ParamReader K) (type : ActuatorType) (index : Nat)
    (config : CanChannelConfig K) : Prop where
  actuatorType : config.actuatorType = type
  protocol : params.integer (paramName type index "PROTO") = some config.protocol.value
  mode : params.integer (paramName type index "MODE") = some config.mode.value
  accepted : config.accepted = true

omit [Add K] [Sub K] [Mul K] in
theorem loadChannel_loaded {params : ParamReader K} {type : ActuatorType} {index : Nat}
    {config : CanChannelConfig K} (h : (loadChannel params type index config).1 = true) :
    Loaded params type index (loadChannel params type index config).2 := by
  obtain ⟨htype, hread⟩ := loadIntegers_spec params type index config
  obtain ⟨htype', hprotocol, hmode, hvalid⟩ := loadReals_spec params type index
    (loadIntegers params type index config).1 (loadIntegers params type index config).2
  rw [loadChannel, Bool.and_eq_true] at h
  obtain ⟨hprotocol', hmode'⟩ := hread (hvalid h.1)
  exact ⟨htype'.trans htype, hprotocol' ▸ congrArg (some ·.value) hprotocol.symm,
    hmode' ▸ congrArg (some ·.value) hmode.symm, h.2⟩

omit [Add K] [Sub K] [Mul K] in
/-- One turn fills in its own channel, with what every accepted reading of it has. -/
theorem loadTurn_fills {P : ActuatorType → Nat → CanChannelConfig K → Prop} {params : ParamReader K}
    (hload : ∀ type index config, (loadChannel params type index config).1 = true →
      P type index (loadChannel params type index config).2)
    (type : ActuatorType) {index : Nat} {channels channels' : Vector (CanChannelConfig K) 4}
    (hindex : index < type.count) (h : loadTurn params type channels index = some channels') :
    P type index (channels'.getD (type.channel index) initial) ∧
      ∀ i, i ≠ type.channel index → channels'.getD i initial = channels.getD i initial := by
  unfold loadTurn at h
  dsimp only at h
  split at h
  · cases h
  · rename_i hvalid
    obtain rfl := Option.some_inj.mp h
    refine ⟨?_, fun i hi => ?_⟩
    · rw [getD_setIfInBounds, if_pos ⟨rfl, ActuatorType.channel_lt hindex⟩]
      exact hload _ _ _ (by simpa using hvalid)
    · rw [getD_setIfInBounds, if_neg fun hboth => hi hboth.1.symm]

omit [Add K] [Sub K] [Mul K] in
/-- After both loops every channel has what every accepted reading of it has. -/
theorem loadChannels_fills {P : ActuatorType → Nat → CanChannelConfig K → Prop} {params : ParamReader K}
    (hload : ∀ type index config, (loadChannel params type index config).1 = true →
      P type index (loadChannel params type index config).2)
    {channels : Vector (CanChannelConfig K) 4} (h : loadChannels params = some channels)
    {type : ActuatorType} {index : Nat} (hindex : index < type.count) :
    P type index (channels.getD (type.channel index) initial) := by
  unfold loadChannels at h
  rw [Option.bind_eq_some_iff] at h
  obtain ⟨motors, hmotors, hservos⟩ := h
  have hfirst : ∀ k < 2, P .Motor k (motors.getD k initial) := by
    apply forRange?_invariant (fun i v => ∀ k < i, P .Motor k (v.getD k initial)) ?_ ?_ hmotors
    · intro k hk
      omega
    · intro i u v hi hloaded hturn k hk
      obtain ⟨hown, hother⟩ := loadTurn_fills hload .Motor hi hturn
      by_cases hki : k = i
      · subst hki
        exact hown
      · rw [hother k hki]
        exact hloaded k (by omega)
  -- the second loop writes behind the motors
  have hboth : (∀ k < 2, P .Motor k (channels.getD k initial)) ∧
      ∀ k < 2, P .Servo k (channels.getD (2 + k) initial) := by
    apply forRange?_invariant (fun i v => (∀ k < 2, P .Motor k (v.getD k initial)) ∧
      ∀ k < i, P .Servo k (v.getD (2 + k) initial)) ?_ ?_ hservos
    · refine ⟨hfirst, fun k hk => ?_⟩
      omega
    · intro i u v hi hloaded hturn
      obtain ⟨hown, hother⟩ := loadTurn_fills hload .Servo hi hturn
      refine ⟨fun k hk => ?_, fun k hk => ?_⟩
      · rw [hother k (by show k ≠ 2 + i; omega)]
        exact hloaded.1 k hk
      · by_cases hki : k = i
        · subst hki
          exact hown
        · rw [hother (2 + k) (by show 2 + k ≠ 2 + i; omega)]
          exact hloaded.2 k (by omega)
  cases type with
  | Motor => exact hboth.1 index hindex
  | Servo => exact hboth.2 index hindex

omit [Add K] [Sub K] [Mul K] in
theorem loadChannels_loaded {params : ParamReader K} {channels : Vector (CanChannelConfig K) 4}
    (h : loadChannels params = some channels) {type : ActuatorType} {index : Nat}
    (hindex : index < type.count) :
    Loaded params type index (channels.getD (type.channel index) initial) :=
  loadChannels_fills (fun _ _ _ => loadChannel_loaded) h hindex

/-! ## What the sender makes of an accepted channel -/

/-- `sendDamiao` gets a frame out of its encoder. -/
def encodes (config : CanChannelConfig K) (output : K) : Bool :=
  match config.damiaoCommand output with
  | none => false
  | some command => command.accepted

/-- A set-point that is encoded fails with its write only; one that is not never reaches the bus. -/
theorem sendDamiao_eq (config : CanChannelConfig Float32) (output : Float32) (d : CanDriver)
    (hopen : 0 ≤ d.output.canFd) :
    (config.encodes output = true → ∃ frame, d.sendDamiao config output = d.write frame) ∧
      (config.encodes output = false → d.sendDamiao config output = (false, d.refuse output)) := by
  rw [encodes, CanDriver.sendDamiao]
  cases hcommand : config.damiaoCommand output with
  | none => exact ⟨nofun, fun _ => rfl⟩
  | some command =>
      obtain ⟨hencode, hframe⟩ := command.encode_spec {}
      dsimp only
      rw [hencode]
      refine ⟨fun haccepted => ⟨(command.encode {}).2, ?_⟩, fun hrefused => ?_⟩
      · obtain ⟨hlength, hid⟩ := hframe haccepted
        rw [haccepted, Bool.not_true, if_neg Bool.false_ne_true, CanDriver.writeFrame]
        apply if_neg
        rintro (hclosed | hlong | hlarge)
        · omega
        · exact absurd hlength (UInt8.not_le.mpr hlong)
        · exact absurd hid (UInt32.not_le.mpr hlarge)
      · rw [hrefused]
        rfl

/-- In exact arithmetic the mode alone decides: the validator has tested the id for that mode. -/
theorem encodes_iff {config : CanChannelConfig ℚ} (h : config.accepted = true) (output : ℚ) :
    config.encodes output = true ↔ config.mode = config.actuatorType.driveMode := by
  have hid : ∀ offset, DamiaoProtocol.modeOffset config.mode = some offset →
      config.motorId.toNat + offset.toNat ≤ 0x7ff := by
    intro offset hoffset
    simp only [accepted, hoffset, Bool.and_eq_true, decide_eq_true_iff] at h
    exact h.1.1.1.1.1.1.2
  cases htype : config.actuatorType with
  | Motor =>
      by_cases hmode : config.mode = .Velocity
      · have hbound := hid 0x200 (by rw [hmode]; rfl)
        have hcommand : config.encodes output = decide (config.motorId.toNat + 0x200 ≤ 0x7ff) := by
          simp [encodes, damiaoCommand, htype, hmode, DamiaoCommand.accepted,
            DamiaoProtocol.velocityAccepted, Scalar.isFinite]
        rw [hcommand, decide_eq_true_iff]
        exact ⟨fun _ => hmode, fun _ => hbound⟩
      · simp [encodes, damiaoCommand, htype, hmode, ActuatorType.driveMode]
  | Servo =>
      by_cases hmode : config.mode = .PositionVelocity
      · have hbound := hid 0x100 (by rw [hmode]; rfl)
        have hcommand : config.encodes output = decide (config.motorId.toNat + 0x100 ≤ 0x7ff) := by
          simp [encodes, damiaoCommand, htype, hmode, DamiaoCommand.accepted,
            DamiaoProtocol.positionVelocityAccepted, Scalar.isFinite]
        rw [hcommand, decide_eq_true_iff]
        exact ⟨fun _ => hmode, fun _ => hbound⟩
      · simp [encodes, damiaoCommand, htype, hmode, ActuatorType.driveMode]

/-- Every Damiao channel has a frame for every output of the mixing stage. -/
def Drivable (channels : Vector (CanChannelConfig K) 4) [LE K] [OfNat K 1] : Prop :=
  ∀ i < CanOutput.ChannelCount, (channels.getD i initial).protocol = .Damiao →
    ∀ output : K, -1 ≤ output → output ≤ 1 → (channels.getD i initial).encodes output = true

/-- An accepted configuration is drivable exactly when every Damiao channel is set to the mode its type is
driven in. -/
theorem drivable_iff {params : ParamReader ℚ} {channels : Vector (CanChannelConfig ℚ) 4}
    (h : loadChannels params = some channels) :
    Drivable channels ↔
      ∀ (type : ActuatorType) (index : Nat), index < type.count →
        params.integer (paramName type index "PROTO") = some CanProtocol.Damiao.value →
        params.integer (paramName type index "MODE") = some type.driveMode.value := by
  constructor
  · intro hdrivable type index hindex hprotocol
    have hloaded := loadChannels_loaded h hindex
    have hdamiao : (channels.getD (type.channel index) initial).protocol = .Damiao := by
      rw [hloaded.protocol, Option.some_inj] at hprotocol
      exact congrArg CanProtocol.mk hprotocol
    have hencodes := hdrivable _ (ActuatorType.channel_lt hindex) hdamiao 0 (by norm_num) (by norm_num)
    rw [encodes_iff hloaded.accepted, hloaded.actuatorType] at hencodes
    rw [hloaded.mode, hencodes]
  · intro hmodes i hi hdamiao output _ _
    obtain ⟨type, index, hindex, rfl⟩ := ActuatorType.exists_channel hi
    have hloaded := loadChannels_loaded h hindex
    have hmode := hmodes type index hindex (by rw [hloaded.protocol, hdamiao])
    rw [encodes_iff hloaded.accepted, hloaded.actuatorType]
    rw [hloaded.mode, Option.some_inj] at hmode
    exact congrArg DamiaoMode.mk hmode

/-- The factory settings of the channels, with a mode for the front drive motor. -/
def factorySettings (frontMode : Int32) : ParamReader ℚ where
  integer name := List.lookup name ((List.range 2).flatMap fun index =>
    [(paramName .Motor index "PROTO", 1), (paramName .Motor index "TYPE", 2),
      (paramName .Motor index "ID", Int32.ofNat (index + 1)), (paramName .Motor index "FBID", 0),
      (paramName .Motor index "MODE", if index = 0 then frontMode else 3),
      (paramName .Servo index "PROTO", 1), (paramName .Servo index "TYPE", 1),
      (paramName .Servo index "ID", Int32.ofNat (index + 3)), (paramName .Servo index "FBID", 0),
      (paramName .Servo index "MODE", 2)])
  real name := List.lookup name ((List.range 2).flatMap fun index =>
    [(paramName .Motor index "REV", 1), (paramName .Motor index "PMAX", 12.5),
      (paramName .Motor index "VMAX", 30), (paramName .Motor index "TMAX", 10),
      (paramName .Servo index "REV", 1), (paramName .Servo index "PMIN", -1),
      (paramName .Servo index "PMAX", 1), (paramName .Servo index "PFBMAX", 12.5),
      (paramName .Servo index "VMAX", 5), (paramName .Servo index "TMAX", 10)])

/-- The factory settings themselves are accepted and drivable. -/
theorem drivable_factory : ∃ channels, loadChannels (factorySettings 3) = some channels ∧
    Drivable channels := by
  have hsome : (loadChannels (factorySettings 3)).isSome := by decide +kernel
  obtain ⟨channels, h⟩ := Option.isSome_iff_exists.mp hsome
  refine ⟨channels, h, (drivable_iff h).mpr ?_⟩
  intro type index hindex _
  cases type with
  | Motor =>
      obtain rfl | rfl : index = 0 ∨ index = 1 := by
        have hmotor : index < 2 := hindex
        omega
      · decide +kernel
      · decide +kernel
  | Servo =>
      obtain rfl | rfl : index = 0 ∨ index = 1 := by
        have hservo : index < 2 := hindex
        omega
      · decide +kernel
      · decide +kernel

/-- With the front motor in MIT mode the configuration is accepted, and its zero output has no frame. -/
theorem mit_mode_accepted : ∃ channels,
    loadChannels (factorySettings DamiaoMode.Mit.value) = some channels ∧ ¬ Drivable channels := by
  have hfront : (loadChannels (factorySettings DamiaoMode.Mit.value)).map (fun channels =>
      ((channels.getD 0 initial).protocol, (channels.getD 0 initial).encodes 0)) =
        some (.Damiao, false) := by decide +kernel
  obtain ⟨channels, h, hpair⟩ := Option.map_eq_some_iff.mp hfront
  obtain ⟨hdamiao, hrefused⟩ := Prod.mk.inj hpair
  refine ⟨channels, h, fun hdrivable => ?_⟩
  have hencodes := hdrivable 0 (by decide) hdamiao 0 (by norm_num) (by norm_num)
  rw [hrefused] at hencodes
  cases hencodes

end CanChannelConfig

end DualMagneticWheel
