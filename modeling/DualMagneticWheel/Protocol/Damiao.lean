/-
# DualMagneticWheel.Protocol.Damiao — control frames of the Damiao motors

A standard CAN frame carries an id below `0x800` and up to eight data bytes. The control mode of a motor
shifts its id; management frames (enable, disable, set zero, clear error) are seven bytes `0xff` and the
command, set-points are one or two little-endian floats. An encoder answers whether it accepted the call
and leaves the caller's frame alone when it did not.

`CanFrame.management` reads a frame as a motor does. That it tells the two kinds of frames apart
(`encodeSpecial_management`, `encodeVelocity_management`, `encodePositionVelocity_management`) rests on
the finiteness tests of the encoders: the bytes of a management frame are those of a NaN.
-/
import DualMagneticWheel.Foundation.Scalar

namespace DualMagneticWheel

open Foundation
open Float.Model (UnpackedFloat Format)

/-! ## Frames -/

/-- `CanProtocol`: a C++ enumeration over `int32_t`, so every parameter value is a value of it. -/
structure CanProtocol where
  value : Int32
  deriving DecidableEq

namespace CanProtocol
def Disabled : CanProtocol := ⟨0⟩
def Damiao : CanProtocol := ⟨1⟩
end CanProtocol

/-- `CanFrame`: a standard frame, handed to the driver as a whole. -/
structure CanFrame where
  id : UInt32 := 0
  length : UInt8 := 0
  data : Vector UInt8 8 := Vector.replicate 8 0
  deriving DecidableEq

/-- `DamiaoMotorType`. -/
structure DamiaoMotorType where
  value : Int32
  deriving DecidableEq

namespace DamiaoMotorType
def Unknown : DamiaoMotorType := ⟨0⟩
end DamiaoMotorType

/-- `DamiaoMode`: the control mode of a motor. -/
structure DamiaoMode where
  value : Int32
  deriving DecidableEq

namespace DamiaoMode
def Mit : DamiaoMode := ⟨1⟩
def PositionVelocity : DamiaoMode := ⟨2⟩
def Velocity : DamiaoMode := ⟨3⟩
def PositionVelocityTorque : DamiaoMode := ⟨4⟩
end DamiaoMode

/-- `DamiaoLimits`: the physical ranges behind the quantised fields. -/
structure DamiaoLimits (K : Type) where
  positionMax : K
  velocityMax : K
  torqueMax : K

namespace DamiaoProtocol

/-- `DamiaoProtocol::modeOffset`; `none` when the mode is unknown. -/
def modeOffset (mode : DamiaoMode) : Option UInt16 :=
  if mode = .Mit then some 0x000
  else if mode = .PositionVelocity then some 0x100
  else if mode = .Velocity then some 0x200
  else if mode = .PositionVelocityTorque then some 0x300
  else none

/-! ## Management frames -/

/-- The management frame of a motor on a standard id. -/
def specialFrame (id : Nat) (command : UInt8) : CanFrame where
  id := UInt32.ofNat id
  length := 8
  data := #v[0xff, 0xff, 0xff, 0xff, 0xff, 0xff, 0xff, command]

/-- `DamiaoProtocol::encodeSpecial`. The sum of two 16-bit numbers is taken in `int`. -/
def encodeSpecial (motorId : UInt16) (mode : DamiaoMode) (command : UInt8) (frame : CanFrame) :
    Bool × CanFrame :=
  match modeOffset mode with
  | none => (false, frame)
  | some offset =>
      if 0x7ff < motorId.toNat ∨ 0x7ff < motorId.toNat + offset.toNat then (false, frame)
      else (true, specialFrame (motorId.toNat + offset.toNat) command)

/-- `DamiaoProtocol::encodeEnable`. -/
def encodeEnable (motorId : UInt16) (mode : DamiaoMode) (frame : CanFrame) : Bool × CanFrame :=
  encodeSpecial motorId mode 0xfc frame

/-- `DamiaoProtocol::encodeDisable`. -/
def encodeDisable (motorId : UInt16) (mode : DamiaoMode) (frame : CanFrame) : Bool × CanFrame :=
  encodeSpecial motorId mode 0xfd frame

/-- `DamiaoProtocol::encodeSetZero`. -/
def encodeSetZero (motorId : UInt16) (mode : DamiaoMode) (frame : CanFrame) : Bool × CanFrame :=
  encodeSpecial motorId mode 0xfe frame

/-- `DamiaoProtocol::encodeClearError`. -/
def encodeClearError (motorId : UInt16) (mode : DamiaoMode) (frame : CanFrame) : Bool × CanFrame :=
  encodeSpecial motorId mode 0xfb frame

/-! ## Set-points -/

/-- `DamiaoProtocol::encodeFloatLittleEndian`: the byte at offset `i` of the four. -/
def floatByte (value : Float32) (i : Nat) : UInt8 := (value.toBits >>> UInt32.ofNat (8 * i)).toUInt8

/-- The test of `encodeVelocity`, over any number type. -/
def velocityAccepted {K : Type} [Scalar K] (motorId : UInt16) (velocity : K) : Bool :=
  decide (motorId.toNat + 0x200 ≤ 0x7ff) && Scalar.isFinite velocity

/-- `DamiaoProtocol::encodeVelocity`. -/
def encodeVelocity (motorId : UInt16) (velocity : Float32) (frame : CanFrame) : Bool × CanFrame :=
  if !velocityAccepted motorId velocity then (false, frame)
  else
    (true,
      { id := UInt32.ofNat (motorId.toNat + 0x200)
        length := 4
        data := #v[floatByte velocity 0, floatByte velocity 1, floatByte velocity 2,
          floatByte velocity 3, 0, 0, 0, 0] })

/-- The test of `encodePositionVelocity`, over any number type. -/
def positionVelocityAccepted {K : Type} [Scalar K] (motorId : UInt16) (position velocity : K) : Bool :=
  decide (motorId.toNat + 0x100 ≤ 0x7ff) && Scalar.isFinite position && Scalar.isFinite velocity

/-- `DamiaoProtocol::encodePositionVelocity`. -/
def encodePositionVelocity (motorId : UInt16) (position velocity : Float32) (frame : CanFrame) :
    Bool × CanFrame :=
  if !positionVelocityAccepted motorId position velocity then (false, frame)
  else
    (true,
      { id := UInt32.ofNat (motorId.toNat + 0x100)
        length := 8
        data := #v[floatByte position 0, floatByte position 1, floatByte position 2,
          floatByte position 3, floatByte velocity 0, floatByte velocity 1, floatByte velocity 2,
          floatByte velocity 3] })

end DamiaoProtocol

/-! ## Reading a frame -/

/-- What a motor takes a frame for: the command of a management frame, `none` for a set-point. -/
def CanFrame.management (f : CanFrame) : Option UInt8 :=
  if f.length = 8 ∧ f.data.toList.take 7 = List.replicate 7 0xff then some (f.data.getD 7 0)
  else none

namespace DamiaoProtocol

@[simp] theorem specialFrame_management (id : Nat) (command : UInt8) :
    (specialFrame id command).management = some command := by
  rw [CanFrame.management, if_pos ⟨rfl, rfl⟩]
  rfl

/-- An accepted management call: the mode is known and the frame is the one of its shifted id. -/
theorem encodeSpecial_accepted {motorId : UInt16} {mode : DamiaoMode} {command : UInt8}
    {frame encoded : CanFrame} (h : encodeSpecial motorId mode command frame = (true, encoded)) :
    ∃ offset, modeOffset mode = some offset ∧
      encoded = specialFrame (motorId.toNat + offset.toNat) command := by
  unfold encodeSpecial at h
  split at h
  · cases h
  · rename_i offset hoffset
    split at h
    · cases h
    · cases h
      exact ⟨offset, hoffset, rfl⟩

/-- The bits of a finite float are not all set: the number would be a NaN. -/
theorem toBits_ne_of_isFinite {v : Float32} (h : v.isFinite = true) : v.toBits ≠ 0xffffffff := by
  intro hbits
  have hnan : v.toModel.unpack = .notANumber := by
    show UnpackedFloat.unpack Format.binary32 v.toBits.toBitVec = _
    rw [hbits]
    rfl
  have hfinite : v.toModel.unpack.isFinite = true := h
  rw [hnan] at hfinite
  cases hfinite

/-- The byte of a float at an offset, as a number. -/
theorem floatByte_toNat (v : Float32) {i : Nat} (hi : i < 4) :
    (floatByte v i).toNat = v.toBits.toNat / 2 ^ (8 * i) % 256 := by
  have hshift : (UInt32.ofNat (8 * i)).toNat % 32 = 8 * i := by
    rw [UInt32.toNat_ofNat']
    omega
  simp only [floatByte, UInt32.toNat_toUInt8, UInt32.toNat_shiftRight, hshift,
    Nat.shiftRight_eq_div_pow]

/-- Four bytes `0xff` are the word with all bits set. -/
theorem toBits_eq_of_bytes {v : Float32} (h : ∀ i < 4, floatByte v i = 0xff) :
    v.toBits = 0xffffffff := by
  have hbyte : ∀ i < 4, v.toBits.toNat / 2 ^ (8 * i) % 256 = 255 := by
    intro i hi
    rw [← floatByte_toNat v hi, h i hi]
    rfl
  have h0 := hbyte 0 (by omega)
  have h1 := hbyte 1 (by omega)
  have h2 := hbyte 2 (by omega)
  have h3 := hbyte 3 (by omega)
  have hlt := v.toBits.toNat_lt
  apply UInt32.toNat_inj.mp
  show v.toBits.toNat = 4294967295
  omega

/-- A velocity frame is shorter than a management frame. -/
theorem encodeVelocity_accepted {motorId : UInt16} {velocity : Float32} {frame encoded : CanFrame}
    (h : encodeVelocity motorId velocity frame = (true, encoded)) :
    encoded.management = none ∧ encoded.id = UInt32.ofNat (motorId.toNat + 0x200) := by
  unfold encodeVelocity at h
  split at h
  · cases h
  · obtain ⟨-, rfl⟩ := Prod.mk.inj h
    refine ⟨?_, rfl⟩
    apply if_neg
    rintro ⟨hlength, -⟩
    exact absurd (show (4 : UInt8) = 8 from hlength) (by decide)

/-- A position frame is told from a management frame by the bytes of its position. -/
theorem encodePositionVelocity_accepted {motorId : UInt16} {position velocity : Float32}
    {frame encoded : CanFrame}
    (h : encodePositionVelocity motorId position velocity frame = (true, encoded)) :
    encoded.management = none ∧ encoded.id = UInt32.ofNat (motorId.toNat + 0x100) := by
  unfold encodePositionVelocity at h
  split at h
  · cases h
  · rename_i haccepted
    obtain ⟨-, rfl⟩ := Prod.mk.inj h
    refine ⟨?_, rfl⟩
    simp only [positionVelocityAccepted, Bool.not_eq_true, Bool.not_eq_false', Bool.and_eq_true]
      at haccepted
    apply if_neg
    rintro ⟨-, hbytes⟩
    apply toBits_ne_of_isFinite haccepted.1.2
    apply toBits_eq_of_bytes
    have hlist : [floatByte position 0, floatByte position 1, floatByte position 2,
        floatByte position 3, floatByte velocity 0, floatByte velocity 1, floatByte velocity 2] =
        List.replicate 7 0xff := hbytes
    simp only [List.replicate, List.cons.injEq] at hlist
    obtain ⟨h0, h1, h2, h3, -⟩ := hlist
    intro i hi
    match i, hi with
    | 0, _ => exact h0
    | 1, _ => exact h1
    | 2, _ => exact h2
    | 3, _ => exact h3

end DamiaoProtocol

end DualMagneticWheel
