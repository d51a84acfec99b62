/-
# DualMagneticWheel.Protocol.ControlFrames — what a control frame says about the call that made it

`ControlCall` is one call of one encoder: the four management commands, and the two set-points with
their floats given by the bits that are stored. `Carries` lists what an accepted frame holds of its
call: the shifted id, the float words and the management command a motor would read.

Two calls whose frames are equal therefore agree in all of it. A set-point is never taken for a
management command, because no finite float has four bytes `0xff` (`toBits_ne_of_isFinite`).
-/
import DualMagneticWheel.Foundation.Binary32
import DualMagneticWheel.Foundation.Bytes
import DualMagneticWheel.Protocol.Damiao

namespace DualMagneticWheel

open Foundation
open DamiaoProtocol

/-! ## Calls -/

/-- What the encoders are for. -/
inductive ControlKind where
  | enable
  | disable
  | setZero
  | clearError
  | velocity
  | positionVelocity
  deriving DecidableEq

namespace ControlKind

/-- The command byte of a management frame. -/
def command : ControlKind → Option UInt8
  | enable => some 0xfc
  | disable => some 0xfd
  | setZero => some 0xfe
  | clearError => some 0xfb
  | velocity => none
  | positionVelocity => none

/-- A motion command moves the motor, a management command changes its state. -/
def isMotion (k : ControlKind) : Prop := k.command = none

instance : DecidablePred isMotion := fun _ => inferInstanceAs (Decidable (_ = none))

end ControlKind

/-- A call of an encoder with everything the caller chooses. -/
inductive ControlCall where
  | enable (motorId : UInt16) (mode : DamiaoMode)
  | disable (motorId : UInt16) (mode : DamiaoMode)
  | setZero (motorId : UInt16) (mode : DamiaoMode)
  | clearError (motorId : UInt16) (mode : DamiaoMode)
  | velocity (motorId : UInt16) (velocityBits : UInt32)
  | positionVelocity (motorId : UInt16) (positionBits velocityBits : UInt32)
  deriving DecidableEq

namespace ControlCall

/-- The encoder, on the caller's frame. -/
def encode (frame : CanFrame) : ControlCall → Bool × CanFrame
  | enable motorId mode => encodeEnable motorId mode frame
  | disable motorId mode => encodeDisable motorId mode frame
  | setZero motorId mode => encodeSetZero motorId mode frame
  | clearError motorId mode => encodeClearError motorId mode frame
  | velocity motorId v => encodeVelocity motorId (Float32.ofBits v) frame
  | positionVelocity motorId p v =>
      encodePositionVelocity motorId (Float32.ofBits p) (Float32.ofBits v) frame

def kind : ControlCall → ControlKind
  | enable .. => .enable
  | disable .. => .disable
  | setZero .. => .setZero
  | clearError .. => .clearError
  | velocity .. => .velocity
  | positionVelocity .. => .positionVelocity

def motorId : ControlCall → UInt16
  | enable id _ => id
  | disable id _ => id
  | setZero id _ => id
  | clearError id _ => id
  | velocity id _ => id
  | positionVelocity id _ _ => id

/-- The mode whose offset the id of the frame carries. -/
def mode : ControlCall → DamiaoMode
  | enable _ mode => mode
  | disable _ mode => mode
  | setZero _ mode => mode
  | clearError _ mode => mode
  | velocity .. => .Velocity
  | positionVelocity .. => .PositionVelocity

/-- The bit patterns of the floats, in the order they are sent. -/
def words : ControlCall → List UInt32
  | velocity _ v => [v]
  | positionVelocity _ p v => [p, v]
  | _ => []

end ControlCall

/-- The little-endian word of the data bytes from an offset on. -/
def CanFrame.word (f : CanFrame) (offset : Nat) : UInt32 := (take32 (f.data.toList.drop offset)).1

/-! ## The bytes of a float -/

namespace DamiaoProtocol

theorem floatBytes_eq (v : Float32) :
    [floatByte v 0, floatByte v 1, floatByte v 2, floatByte v 3] = bytes32 v.toBits := by
  have hbyte : ∀ i < 4, floatByte v i = UInt8.ofNat (v.toBits.toNat / 2 ^ (8 * i)) := by
    intro i hi
    apply UInt8.toNat_inj.mp
    rw [floatByte_toNat v hi, UInt8.toNat_ofNat']
  rw [hbyte 0 (by omega), hbyte 1 (by omega), hbyte 2 (by omega), hbyte 3 (by omega)]
  simp [bytes32, leBytes, Nat.div_div_eq_div_mul]

/-- A float that the encoders accept keeps the pattern it was made of. -/
theorem toBits_of_accepted {bits : UInt32} (h : Scalar.isFinite (Float32.ofBits bits) = true) :
    (Float32.ofBits bits).toBits = bits := toBits_ofBits (finitePattern_of_isFinite h)

/-! ## What an encoder leaves in the frame -/

theorem encodeSpecial_of_rejected {motorId : UInt16} {mode : DamiaoMode} {command : UInt8}
    {frame : CanFrame} (h : (encodeSpecial motorId mode command frame).1 = false) :
    (encodeSpecial motorId mode command frame).2 = frame := by
  unfold encodeSpecial at h ⊢
  split
  · rfl
  · rename_i offset hoffset
    rw [hoffset] at h
    dsimp only at h
    split at h
    · rw [if_pos ‹_›]
    · cases h

/-- An accepted management call stays within the standard ids. -/
theorem encodeSpecial_standard {motorId : UInt16} {mode : DamiaoMode} {command : UInt8}
    {frame encoded : CanFrame} (h : encodeSpecial motorId mode command frame = (true, encoded)) :
    ∃ offset, modeOffset mode = some offset ∧ motorId.toNat + offset.toNat ≤ 0x7ff ∧
      encoded = specialFrame (motorId.toNat + offset.toNat) command := by
  obtain ⟨offset, hoffset, hframe⟩ := encodeSpecial_accepted h
  refine ⟨offset, hoffset, ?_, hframe⟩
  simp only [encodeSpecial, hoffset] at h
  split at h
  · cases h
  · omega

theorem encodeVelocity_spec {motorId : UInt16} {v : Float32} {frame encoded : CanFrame}
    (h : encodeVelocity motorId v frame = (true, encoded)) :
    motorId.toNat + 0x200 ≤ 0x7ff ∧ Scalar.isFinite v = true ∧ encoded.length = 4 ∧
      encoded.data.toList = bytes32 v.toBits ++ [0, 0, 0, 0] := by
  unfold encodeVelocity at h
  split at h
  · cases h
  · rename_i haccepted
    obtain ⟨-, rfl⟩ := Prod.mk.inj h
    simp only [velocityAccepted, Bool.not_eq_true, Bool.not_eq_false', Bool.and_eq_true,
      decide_eq_true_eq] at haccepted
    refine ⟨haccepted.1, haccepted.2, rfl, ?_⟩
    rw [← floatBytes_eq]
    rfl

theorem encodeVelocity_of_rejected {motorId : UInt16} {v : Float32} {frame : CanFrame}
    (h : (encodeVelocity motorId v frame).1 = false) :
    (encodeVelocity motorId v frame).2 = frame := by
  cases haccepted : velocityAccepted motorId v with
  | false => simp [encodeVelocity, haccepted]
  | true => simp [encodeVelocity, haccepted] at h

theorem encodePositionVelocity_spec {motorId : UInt16} {p v : Float32} {frame encoded : CanFrame}
    (h : encodePositionVelocity motorId p v frame = (true, encoded)) :
    motorId.toNat + 0x100 ≤ 0x7ff ∧ Scalar.isFinite p = true ∧ Scalar.isFinite v = true ∧
      encoded.length = 8 ∧ encoded.data.toList = bytes32 p.toBits ++ bytes32 v.toBits := by
  unfold encodePositionVelocity at h
  split at h
  · cases h
  · rename_i haccepted
    obtain ⟨-, rfl⟩ := Prod.mk.inj h
    simp only [positionVelocityAccepted, Bool.not_eq_true, Bool.not_eq_false', Bool.and_eq_true,
      decide_eq_true_eq] at haccepted
    refine ⟨haccepted.1.1, haccepted.1.2, haccepted.2, rfl, ?_⟩
    rw [← floatBytes_eq, ← floatBytes_eq]
    rfl

theorem encodePositionVelocity_of_rejected {motorId : UInt16} {p v : Float32} {frame : CanFrame}
    (h : (encodePositionVelocity motorId p v frame).1 = false) :
    (encodePositionVelocity motorId p v frame).2 = frame := by
  cases haccepted : positionVelocityAccepted motorId p v with
  | false => simp [encodePositionVelocity, haccepted]
  | true => simp [encodePositionVelocity, haccepted] at h

end DamiaoProtocol

/-! ## What a frame carries -/

namespace ControlCall

/-- What an accepted frame holds of its call. -/
structure Carries (call : ControlCall) (f : CanFrame) : Prop where
  id : ∃ offset, modeOffset call.mode = some offset ∧ f.id.toNat = call.motorId.toNat + offset.toNat
  standard : f.id ≤ 0x7ff
  length : f.length ≤ 8
  words : ∀ i bits, call.words[i]? = some bits → f.word (4 * i) = bits
  management : f.management = call.kind.command

theorem carries_id {call : ControlCall} {id : Nat} {offset : UInt16} {f : CanFrame}
    (hmode : modeOffset call.mode = some offset) (hid : f.id = UInt32.ofNat id)
    (hsum : id = call.motorId.toNat + offset.toNat) (hstandard : id ≤ 0x7ff) :
    (∃ offset, modeOffset call.mode = some offset ∧
      f.id.toNat = call.motorId.toNat + offset.toNat) ∧ f.id ≤ 0x7ff := by
  have hsize : id < UInt32.size := Nat.lt_of_le_of_lt hstandard (by decide)
  have hnat : f.id.toNat = id := by rw [hid, UInt32.toNat_ofNat_of_lt' hsize]
  refine ⟨⟨offset, hmode, by omega⟩, ?_⟩
  rw [UInt32.le_iff_toNat_le, hnat]
  exact hstandard

/-- The management frame of a call: no floats, and the command as its last byte. -/
theorem carries_of_encodeSpecial {call : ControlCall} {command : UInt8} {frame encoded : CanFrame}
    (hwords : call.words = []) (hcommand : call.kind.command = some command)
    (h : encodeSpecial call.motorId call.mode command frame = (true, encoded)) :
    call.Carries encoded := by
  obtain ⟨offset, hoffset, hstandard, rfl⟩ := encodeSpecial_standard h
  obtain ⟨hid, hle⟩ := carries_id hoffset
    (show (specialFrame (call.motorId.toNat + offset.toNat) command).id = _ from rfl) rfl hstandard
  refine ⟨hid, hle, UInt8.le_refl 8, ?_, ?_⟩
  · rw [hwords]
    intro i bits hi
    cases hi
  · rw [specialFrame_management, hcommand]

/-- One case for each encoder. -/
theorem carries_of_accepted {call : ControlCall} {frame encoded : CanFrame}
    (h : call.encode frame = (true, encoded)) : call.Carries encoded := by
  cases call with
  | enable motorId mode => exact carries_of_encodeSpecial rfl rfl h
  | disable motorId mode => exact carries_of_encodeSpecial rfl rfl h
  | setZero motorId mode => exact carries_of_encodeSpecial rfl rfl h
  | clearError motorId mode => exact carries_of_encodeSpecial rfl rfl h
  | velocity motorId v =>
      obtain ⟨hmanagement, hid⟩ := encodeVelocity_accepted h
      obtain ⟨hstandard, hfinite, hlength, hdata⟩ := encodeVelocity_spec h
      obtain ⟨hid, hle⟩ := @carries_id (velocity motorId v) _ 0x200 _ rfl hid rfl hstandard
      refine ⟨hid, hle, by rw [hlength]; decide, ?_, hmanagement⟩
      intro i bits hi
      obtain ⟨rfl, rfl⟩ : i = 0 ∧ v = bits := by
        rcases i with _ | i <;> simp [words] at hi ⊢
        exact hi
      rw [CanFrame.word, hdata, toBits_of_accepted hfinite, List.drop_zero, take32_bytes32]
  | positionVelocity motorId p v =>
      obtain ⟨hmanagement, hid⟩ := encodePositionVelocity_accepted h
      obtain ⟨hstandard, hposition, hvelocity, hlength, hdata⟩ := encodePositionVelocity_spec h
      obtain ⟨hid, hle⟩ := @carries_id (positionVelocity motorId p v) _ 0x100 _ rfl hid rfl hstandard
      refine ⟨hid, hle, by rw [hlength]; decide, ?_, hmanagement⟩
      rw [toBits_of_accepted hposition, toBits_of_accepted hvelocity] at hdata
      intro i bits hi
      -- the position is the first word and the velocity starts where its four bytes end
      rcases i with _ | _ | i
      · obtain rfl : p = bits := by simpa [words] using hi
        rw [CanFrame.word, hdata, List.drop_zero, take32_bytes32]
      · obtain rfl : v = bits := by simpa [words] using hi
        have hrest := take32_bytes32 v []
        rw [List.append_nil] at hrest
        rw [CanFrame.word, hdata, List.drop_left' (bytes32_length p), hrest]
      · simp [words] at hi

/-- A rejected call leaves the caller's frame alone. -/
theorem encode_of_rejected {call : ControlCall} {frame : CanFrame}
    (h : (call.encode frame).1 = false) : (call.encode frame).2 = frame := by
  cases call with
  | enable motorId mode => exact encodeSpecial_of_rejected h
  | disable motorId mode => exact encodeSpecial_of_rejected h
  | setZero motorId mode => exact encodeSpecial_of_rejected h
  | clearError motorId mode => exact encodeSpecial_of_rejected h
  | velocity motorId v => exact encodeVelocity_of_rejected h
  | positionVelocity motorId p v => exact encodePositionVelocity_of_rejected h

theorem words_length (call : ControlCall) :
    call.words.length = match call.kind with
      | .velocity => 1
      | .positionVelocity => 2
      | _ => 0 := by
  cases call <;> rfl

/-- Equal frames of calls of one kind carry equal floats. -/
theorem Carries.words_inj {call other : ControlCall} {f : CanFrame} (h : call.Carries f)
    (h' : other.Carries f) (hkind : call.kind = other.kind) : call.words = other.words := by
  have hlength : call.words.length = other.words.length := by
    rw [words_length, words_length, hkind]
  apply List.ext_getElem hlength
  intro i hi hi'
  rw [← h.words i _ (List.getElem?_eq_getElem hi), ← h'.words i _ (List.getElem?_eq_getElem hi')]

/-- Control frames are unambiguous: an accepted frame carries what its call says and a rejected call
leaves the frame alone; equal frames of one kind for one motor come from equal float bits; no motion
command has the frame of a management command, whatever the motors and modes. -/
theorem frames_unambiguous :
    (∀ (call : ControlCall) (frame encoded : CanFrame),
      call.encode frame = (true, encoded) → call.Carries encoded) ∧
    (∀ (call : ControlCall) (frame : CanFrame),
      (call.encode frame).1 = false → (call.encode frame).2 = frame) ∧
    (∀ (call other : ControlCall) (frame frame' encoded : CanFrame),
      call.kind = other.kind → call.motorId = other.motorId →
      call.encode frame = (true, encoded) → other.encode frame' = (true, encoded) →
      call.words = other.words) ∧
    (∀ (motion management : ControlCall) (frame frame' encoded encoded' : CanFrame),
      motion.kind.isMotion → ¬ management.kind.isMotion →
      motion.encode frame = (true, encoded) → management.encode frame' = (true, encoded') →
      encoded ≠ encoded') := by
  refine ⟨fun _ _ _ => carries_of_accepted, fun _ _ => encode_of_rejected, ?_, ?_⟩
  · intro call other frame frame' encoded hkind _ h h'
    exact (carries_of_accepted h).words_inj (carries_of_accepted h') hkind
  · rintro motion management frame frame' encoded _ hmotion hmanagement h h' rfl
    apply hmanagement
    rw [ControlKind.isMotion, ← (carries_of_accepted h').management,
      (carries_of_accepted h).management]
    exact hmotion

/-- Set-points of motors 1 and 2: two velocities have different frames, a position frame is not the enable
frame of its motor, and a motor id that is too large is rejected. -/
theorem frames_unambiguous_set_points :
    Carries (velocity 2 0x3f800000) ((velocity 2 0x3f800000).encode {}).2 ∧
      ((velocity 0x700 0x3f800000).encode {}).2 = {} ∧
      ((velocity 2 0x3f800000).encode {}).2 ≠ ((velocity 2 0x40000000).encode {}).2 ∧
      ((positionVelocity 1 0x3f800000 0x40000000).encode {}).2 ≠
        ((enable 1 .PositionVelocity).encode {}).2 := by
  have hone : (velocity 2 0x3f800000).encode {} = (true, ((velocity 2 0x3f800000).encode {}).2) :=
    Prod.ext (by decide) rfl
  have htwo : (velocity 2 0x40000000).encode {} = (true, ((velocity 2 0x40000000).encode {}).2) :=
    Prod.ext (by decide) rfl
  have hposition : (positionVelocity 1 0x3f800000 0x40000000).encode {} =
      (true, ((positionVelocity 1 0x3f800000 0x40000000).encode {}).2) := Prod.ext (by decide) rfl
  have henable : (enable 1 .PositionVelocity).encode {} =
      (true, ((enable 1 .PositionVelocity).encode {}).2) := Prod.ext (by decide) rfl
  obtain ⟨hcarries, hrejected, hwords, hkinds⟩ := frames_unambiguous
  refine ⟨hcarries _ {} _ hone, ?_, fun heq => ?_, ?_⟩
  · exact hrejected (velocity 0x700 0x3f800000) {} (by decide)
  · rw [← heq] at htwo
    have hsame := hwords (velocity 2 0x3f800000) (velocity 2 0x40000000) {} {} _ rfl rfl hone htwo
    cases hsame
  · have hmotion : (positionVelocity 1 0x3f800000 0x40000000).kind.isMotion := rfl
    have hmanagement : ¬ (enable 1 .PositionVelocity).kind.isMotion := by decide
    exact hkinds _ _ {} {} _ _ hmotion hmanagement hposition henable

end ControlCall

end DualMagneticWheel
