/-
# DualMagneticWheel.Protocol.Feedback — what a motor reports, read back from its eight bytes

A feedback frame packs the motor id, the error code, a 16-bit position, a 12-bit velocity, a 12-bit torque
and two temperatures without a spare bit. `decodeFeedback` is written over a `Scalar`, as all arithmetic of
this development; over `ℚ` each measurement is a `quantised` value of its field, so nothing is lost:
`decodeFeedback_exact` ends with the eight bytes being determined by the decoded feedback.
-/
import DualMagneticWheel.Foundation.Bits
import DualMagneticWheel.Foundation.UnitScale
import DualMagneticWheel.Protocol.Damiao

namespace DualMagneticWheel

open Foundation

/-- `DamiaoFeedback`: the physical quantities of a feedback frame. -/
structure DamiaoFeedback (K : Type) where
  motorId : UInt8
  error : UInt8
  position : K
  velocity : K
  torque : K
  mosTemperature : K
  coilTemperature : K

/-! ## The decoder -/

namespace DamiaoProtocol

/-- The three packed fields: two whole bytes, a byte and the upper half of the next, the lower half and a
byte. -/
def positionField (frame : CanFrame) : UInt32 :=
  (frame.data[1].toUInt32 <<< 8) ||| frame.data[2].toUInt32

def velocityField (frame : CanFrame) : UInt32 :=
  (frame.data[3].toUInt32 <<< 4) ||| (frame.data[4] >>> 4).toUInt32

def torqueField (frame : CanFrame) : UInt32 :=
  ((frame.data[4] &&& 0x0f).toUInt32 <<< 8) ||| frame.data[5].toUInt32

section Decode

variable {K : Type} [Add K] [Sub K] [Mul K] [Div K] [Neg K] [Scalar K]

open Scalar

/-- `DamiaoProtocol::unsignedToFloat`. -/
def unsignedToFloat (value : UInt32) (minimum maximum : K) (bits : Nat) : K :=
  let maximumInteger : Nat := 1 <<< bits - 1
  ofNat value.toNat * (maximum - minimum) / ofNat maximumInteger + minimum

/-- The test of `decodeFeedback`. -/
def feedbackAccepted (frame : CanFrame) (limits : DamiaoLimits K) : Bool :=
  frame.length == 8 && lt (ofNat 0) limits.positionMax && lt (ofNat 0) limits.velocityMax &&
    lt (ofNat 0) limits.torqueMax

/-- `DamiaoProtocol::decodeFeedback`. -/
def decodeFeedback (frame : CanFrame) (limits : DamiaoLimits K) (feedback : DamiaoFeedback K) :
    Bool × DamiaoFeedback K :=
  if !feedbackAccepted frame limits then (false, feedback)
  else
    (true,
      { motorId := frame.data[0] &&& 0x0f
        error := frame.data[0] >>> 4
        position :=
          unsignedToFloat (positionField frame) (-limits.positionMax) limits.positionMax 16
        velocity :=
          unsignedToFloat (velocityField frame) (-limits.velocityMax) limits.velocityMax 12
        torque := unsignedToFloat (torqueField frame) (-limits.torqueMax) limits.torqueMax 12
        mosTemperature := ofNat frame.data[6].toNat
        coilTemperature := ofNat frame.data[7].toNat })

end Decode

/-! ## The packed fields -/

theorem positionField_toNat (frame : CanFrame) :
    (positionField frame).toNat = frame.data[1].toNat * 256 + frame.data[2].toNat := by
  have hhigh : frame.data[1].toUInt32.toNat < 2 ^ (32 - 8) :=
    Nat.lt_of_lt_of_le frame.data[1].toNat_lt (by decide)
  have hlow : frame.data[2].toUInt32.toNat < 2 ^ 8 := frame.data[2].toNat_lt
  exact toNat_shiftLeft_or rfl (by decide) hhigh hlow

theorem velocityField_toNat (frame : CanFrame) :
    (velocityField frame).toNat = frame.data[3].toNat * 16 + frame.data[4].toNat / 16 := by
  have hhalf : (frame.data[4] >>> 4).toUInt32.toNat = frame.data[4].toNat / 16 := by
    rw [UInt8.toNat_toUInt32, UInt8.toNat_shiftRight, Nat.shiftRight_eq_div_pow]
    rfl
  have hhigh : frame.data[3].toUInt32.toNat < 2 ^ (32 - 4) :=
    Nat.lt_of_lt_of_le frame.data[3].toNat_lt (by decide)
  have hlow : (frame.data[4] >>> 4).toUInt32.toNat < 2 ^ 4 := by
    have := frame.data[4].toNat_lt
    omega
  rw [← hhalf]
  exact toNat_shiftLeft_or rfl (by decide) hhigh hlow

theorem torqueField_toNat (frame : CanFrame) :
    (torqueField frame).toNat = frame.data[4].toNat % 16 * 256 + frame.data[5].toNat := by
  have hhalf : (frame.data[4] &&& 0x0f).toUInt32.toNat = frame.data[4].toNat % 16 := by
    rw [UInt8.toNat_toUInt32, UInt8.toNat_and]
    exact Nat.and_two_pow_sub_one_eq_mod _ 4
  have hhigh : (frame.data[4] &&& 0x0f).toUInt32.toNat < 2 ^ (32 - 8) := by omega
  have hlow : frame.data[5].toUInt32.toNat < 2 ^ 8 := frame.data[5].toNat_lt
  rw [← hhalf]
  exact toNat_shiftLeft_or rfl (by decide) hhigh hlow

end DamiaoProtocol

/-- The five bytes between the status byte and the temperatures, as one big-endian number. -/
def CanFrame.measurements (f : CanFrame) : Nat :=
  ((f.data.toList.drop 1).take 5).foldl (fun n byte => 256 * n + byte.toNat) 0

theorem CanFrame.toList_eq (f : CanFrame) :
    f.data.toList = [f.data[0], f.data[1], f.data[2], f.data[3], f.data[4], f.data[5], f.data[6],
      f.data[7]] := by
  apply List.ext_getElem
  · simp
  · intro i hi hi'
    simp only [List.length_cons, List.length_nil] at hi'
    match i, hi' with
    | 0, _ | 1, _ | 2, _ | 3, _ | 4, _ | 5, _ | 6, _ | 7, _ => rfl

namespace DamiaoProtocol

/-- The three fields lie side by side. -/
theorem measurements_eq (frame : CanFrame) :
    frame.measurements = (positionField frame).toNat * 2 ^ 24 + (velocityField frame).toNat * 2 ^ 12 +
      (torqueField frame).toNat := by
  rw [positionField_toNat, velocityField_toNat, torqueField_toNat, CanFrame.measurements,
    CanFrame.toList_eq]
  simp only [List.drop_succ_cons, List.drop_zero, List.take_succ_cons, List.take_zero,
    List.foldl_cons, List.foldl_nil]
  omega

theorem positionField_lt (frame : CanFrame) : (positionField frame).toNat < 2 ^ 16 := by
  have hhigh := frame.data[1].toNat_lt
  have hlow := frame.data[2].toNat_lt
  rw [positionField_toNat]
  omega

theorem velocityField_lt (frame : CanFrame) : (velocityField frame).toNat < 2 ^ 12 := by
  have hhigh := frame.data[3].toNat_lt
  have hlow := frame.data[4].toNat_lt
  rw [velocityField_toNat]
  omega

theorem torqueField_lt (frame : CanFrame) : (torqueField frame).toNat < 2 ^ 12 := by
  have hlow := frame.data[5].toNat_lt
  rw [torqueField_toNat]
  omega

/-! ## The measurements -/

/-- In exact arithmetic a field is the number of steps from the lower end. -/
theorem unsignedToFloat_eq (value : UInt32) (minimum maximum : ℚ) (bits : Nat) :
    unsignedToFloat value minimum maximum bits =
      quantised minimum maximum (2 ^ bits - 1) value.toNat := by
  rw [unsignedToFloat, quantised, AffineMap.lineMap_apply_ring', Nat.one_shiftLeft]
  simp only [Scalar.ofNat]
  ring

/-- A measurement that follows its raw field from one end of its range to the other. -/
structure LinearField (bits : Nat) (limit : ℚ) (field : CanFrame → UInt32) (value : CanFrame → ℚ) :
    Prop where
  field_lt : ∀ f, (field f).toNat < 2 ^ bits
  range : ∀ f, f.length = 8 → value f ∈ Set.Icc (-limit) limit
  lowest : ∀ f, f.length = 8 → (value f = -limit ↔ (field f).toNat = 0)
  highest : ∀ f, f.length = 8 → (value f = limit ↔ (field f).toNat = 2 ^ bits - 1)
  increasing : ∀ f g, f.length = 8 → g.length = 8 →
    (value f < value g ↔ (field f).toNat < (field g).toNat)

theorem linearField_of_quantised {bits : Nat} {limit : ℚ} {field : CanFrame → UInt32}
    {value : CanFrame → ℚ} (hbits : 0 < 2 ^ bits - 1) (hlimit : 0 < limit)
    (hfield : ∀ f, (field f).toNat < 2 ^ bits)
    (hvalue : ∀ f, f.length = 8 → value f = quantised (-limit) limit (2 ^ bits - 1) (field f).toNat) :
    LinearField bits limit field value := by
  have hrange : -limit < limit := neg_lt_self hlimit
  have hmono := quantised_strictMono hrange hbits
  refine ⟨hfield, fun f hf => ?_, fun f hf => ?_, fun f hf => ?_, fun f g hf hg => ?_⟩
  · rw [hvalue f hf]
    exact quantised_mem hrange.le (Nat.le_sub_one_of_lt (hfield f))
  · rw [hvalue f hf, ← hmono.injective.eq_iff, quantised_zero]
  · rw [hvalue f hf, ← hmono.injective.eq_iff, quantised_self _ _ hbits]
  · rw [hvalue f hf, hvalue g hg]
    exact hmono.lt_iff_lt

/-! ## The decoder loses nothing -/

theorem feedbackAccepted_iff (frame : CanFrame) (limits : DamiaoLimits ℚ) :
    feedbackAccepted frame limits = true ↔ frame.length = 8 ∧
      0 < limits.positionMax ∧ 0 < limits.velocityMax ∧ 0 < limits.torqueMax := by
  simp [feedbackAccepted, Scalar.lt, Scalar.ofNat, and_assoc]

theorem decodeFeedback_fst {K : Type} [Add K] [Sub K] [Mul K] [Div K] [Neg K] [Scalar K]
    (frame : CanFrame) (limits : DamiaoLimits K) (feedback : DamiaoFeedback K) :
    (decodeFeedback frame limits feedback).1 = feedbackAccepted frame limits := by
  rw [decodeFeedback]
  cases feedbackAccepted frame limits <;> rfl

theorem decodeFeedback_rejected {K : Type} [Add K] [Sub K] [Mul K] [Div K] [Neg K] [Scalar K]
    {frame : CanFrame} {limits : DamiaoLimits K} {feedback : DamiaoFeedback K}
    (h : (decodeFeedback frame limits feedback).1 = false) :
    (decodeFeedback frame limits feedback).2 = feedback := by
  rw [decodeFeedback_fst] at h
  rw [decodeFeedback, h]
  rfl

/-- What an accepted frame decodes to. -/
theorem decodeFeedback_accepted {frame : CanFrame} {limits : DamiaoLimits ℚ}
    (h : feedbackAccepted frame limits = true) (feedback : DamiaoFeedback ℚ) :
    (decodeFeedback frame limits feedback).2 =
      { motorId := frame.data[0] &&& 0x0f
        error := frame.data[0] >>> 4
        position := quantised (-limits.positionMax) limits.positionMax (2 ^ 16 - 1)
          (positionField frame).toNat
        velocity := quantised (-limits.velocityMax) limits.velocityMax (2 ^ 12 - 1)
          (velocityField frame).toNat
        torque := quantised (-limits.torqueMax) limits.torqueMax (2 ^ 12 - 1)
          (torqueField frame).toNat
        mosTemperature := frame.data[6].toNat
        coilTemperature := frame.data[7].toNat } := by
  rw [decodeFeedback, h]
  simp only [Bool.not_true, Bool.false_eq_true, if_false, unsignedToFloat_eq]
  rfl

/-- The halves of a byte. -/
theorem byte_eq_of_halves {a b : UInt8} (hlow : a &&& 0x0f = b &&& 0x0f) (hhigh : a >>> 4 = b >>> 4) :
    a = b := by
  have hlow' : a.toNat % 16 = b.toNat % 16 := by
    have hnat := congrArg UInt8.toNat hlow
    rw [UInt8.toNat_and, UInt8.toNat_and] at hnat
    calc a.toNat % 2 ^ 4 = a.toNat &&& (2 ^ 4 - 1) := (Nat.and_two_pow_sub_one_eq_mod _ 4).symm
      _ = b.toNat &&& (2 ^ 4 - 1) := by simpa using hnat
      _ = b.toNat % 2 ^ 4 := Nat.and_two_pow_sub_one_eq_mod _ 4
  have hhigh' : a.toNat / 16 = b.toNat / 16 := by
    have hnat := congrArg UInt8.toNat hhigh
    rw [UInt8.toNat_shiftRight, UInt8.toNat_shiftRight, Nat.shiftRight_eq_div_pow,
      Nat.shiftRight_eq_div_pow] at hnat
    exact hnat
  apply UInt8.toNat_inj.mp
  omega

/-- Two accepted frames with one feedback have the same bytes. -/
theorem data_eq_of_decodeFeedback_eq {f g : CanFrame} {limits : DamiaoLimits ℚ}
    (hf : feedbackAccepted f limits = true) (hg : feedbackAccepted g limits = true)
    {before before' : DamiaoFeedback ℚ}
    (h : (decodeFeedback f limits before).2 = (decodeFeedback g limits before').2) :
    f.data = g.data := by
  obtain ⟨-, hp, hv, ht⟩ := (feedbackAccepted_iff f limits).mp hf
  rw [decodeFeedback_accepted hf, decodeFeedback_accepted hg] at h
  obtain ⟨hid, herror, hposition, hvelocity, htorque, hmos, hcoil⟩ := DamiaoFeedback.mk.inj h
  have h0 := byte_eq_of_halves hid herror
  have hposition' := (quantised_strictMono (neg_lt_self hp) (by decide)).injective hposition
  have hvelocity' := (quantised_strictMono (neg_lt_self hv) (by decide)).injective hvelocity
  have htorque' := (quantised_strictMono (neg_lt_self ht) (by decide)).injective htorque
  rw [positionField_toNat, positionField_toNat] at hposition'
  rw [velocityField_toNat, velocityField_toNat] at hvelocity'
  rw [torqueField_toNat, torqueField_toNat] at htorque'
  have h6 : f.data[6] = g.data[6] := UInt8.toNat_inj.mp (Nat.cast_injective hmos)
  have h7 : f.data[7] = g.data[7] := UInt8.toNat_inj.mp (Nat.cast_injective hcoil)
  have hlow2 := f.data[2].toNat_lt
  have hlow2' := g.data[2].toNat_lt
  have hlow4 := f.data[4].toNat_lt
  have hlow4' := g.data[4].toNat_lt
  have hlow5 := f.data[5].toNat_lt
  have hlow5' := g.data[5].toNat_lt
  -- the digits of the three fields, base 256 and 16
  have h1 : f.data[1] = g.data[1] := UInt8.toNat_inj.mp (by omega)
  have h2 : f.data[2] = g.data[2] := UInt8.toNat_inj.mp (by omega)
  have h3 : f.data[3] = g.data[3] := UInt8.toNat_inj.mp (by omega)
  have h4 : f.data[4] = g.data[4] := UInt8.toNat_inj.mp (by omega)
  have h5 : f.data[5] = g.data[5] := UInt8.toNat_inj.mp (by omega)
  apply Vector.toList_inj.mp
  rw [f.toList_eq, g.toList_eq, h0, h1, h2, h3, h4, h5, h6, h7]

/-- `decodeFeedback` in exact arithmetic: it accepts eight bytes under positive limits and otherwise leaves
the feedback alone; the measurements are linear in three fields that share no bit, and the feedback
determines the frame. -/
theorem decodeFeedback_exact (limits : DamiaoLimits ℚ) :
    (∀ f before, (decodeFeedback f limits before).1 = true ↔ f.length = 8 ∧
      0 < limits.positionMax ∧ 0 < limits.velocityMax ∧ 0 < limits.torqueMax) ∧
    (∀ f before, (decodeFeedback f limits before).1 = false →
      (decodeFeedback f limits before).2 = before) ∧
    (0 < limits.positionMax → 0 < limits.velocityMax → 0 < limits.torqueMax → ∀ before,
      LinearField 16 limits.positionMax positionField
        (fun f => (decodeFeedback f limits before).2.position) ∧
      LinearField 12 limits.velocityMax velocityField
        (fun f => (decodeFeedback f limits before).2.velocity) ∧
      LinearField 12 limits.torqueMax torqueField
        (fun f => (decodeFeedback f limits before).2.torque)) ∧
    (∀ f : CanFrame, f.measurements = (positionField f).toNat * 2 ^ 24 +
      (velocityField f).toNat * 2 ^ 12 + (torqueField f).toNat) ∧
    (∀ f g before before', (decodeFeedback f limits before).1 = true →
      (decodeFeedback g limits before').1 = true →
      (decodeFeedback f limits before).2 = (decodeFeedback g limits before').2 → f.data = g.data) := by
  refine ⟨fun f before => ?_, fun f before => decodeFeedback_rejected, fun hp hv ht before => ?_,
    measurements_eq, fun f g before before' hf hg => ?_⟩
  · rw [decodeFeedback_fst]
    exact feedbackAccepted_iff f limits
  · have haccepted : ∀ f : CanFrame, f.length = 8 → feedbackAccepted f limits = true :=
      fun f hf => (feedbackAccepted_iff f limits).mpr ⟨hf, hp, hv, ht⟩
    refine ⟨?_, ?_, ?_⟩
    · apply linearField_of_quantised (by decide) hp positionField_lt
      intro f hf
      rw [decodeFeedback_accepted (haccepted f hf)]
    · apply linearField_of_quantised (by decide) hv velocityField_lt
      intro f hf
      rw [decodeFeedback_accepted (haccepted f hf)]
    · apply linearField_of_quantised (by decide) ht torqueField_lt
      intro f hf
      rw [decodeFeedback_accepted (haccepted f hf)]
  · rw [decodeFeedback_fst] at hf hg
    exact data_eq_of_decodeFeedback_eq hf hg

/-- Motor 3 in state 2, at rest in the middle of its ranges. -/
def motor3Report : CanFrame := { length := 8, data := #v[0x23, 0x80, 0, 0x80, 8, 0, 42, 39] }

def motor3Limits : DamiaoLimits ℚ := ⟨25 / 2, 30, 10⟩

def emptyFeedback : DamiaoFeedback ℚ := ⟨0, 0, 0, 0, 0, 0, 0⟩

/-- The report is accepted, its position is linear, and no other frame decodes to the same feedback. -/
theorem decodeFeedback_exact_motor3 :
    (decodeFeedback motor3Report motor3Limits emptyFeedback).1 = true ∧
    LinearField 16 (25 / 2) positionField
      (fun f => (decodeFeedback f motor3Limits emptyFeedback).2.position) ∧
    ∀ g : CanFrame, (decodeFeedback g motor3Limits emptyFeedback).1 = true →
      (decodeFeedback motor3Report motor3Limits emptyFeedback).2 =
        (decodeFeedback g motor3Limits emptyFeedback).2 → motor3Report.data = g.data := by
  obtain ⟨haccepts, -, hlinear, -, hinjective⟩ := decodeFeedback_exact motor3Limits
  have hposition : 0 < motor3Limits.positionMax := by norm_num [motor3Limits]
  have hvelocity : 0 < motor3Limits.velocityMax := by norm_num [motor3Limits]
  have htorque : 0 < motor3Limits.torqueMax := by norm_num [motor3Limits]
  have haccepted := (haccepts motor3Report emptyFeedback).mpr ⟨rfl, hposition, hvelocity, htorque⟩
  refine ⟨haccepted, (hlinear hposition hvelocity htorque emptyFeedback).1, ?_⟩
  intro g hg heq
  exact hinjective motor3Report g emptyFeedback emptyFeedback haccepted hg heq

end DamiaoProtocol

end DualMagneticWheel
