/-
# DualMagneticWheel.Rc.RcConfig — calibration and mapping of the receiver channels

`RcConfig` caches five calibration numbers for each of the sixteen channels and the channel of each
control function. `normalizeRcChannel` is straight-line arithmetic with comparisons, so it is written
over an arbitrary `Scalar`: the module runs it on machine floats.
-/
import DualMagneticWheel.Params.Table
import DualMagneticWheel.Foundation.Loop

namespace DualMagneticWheel

open Foundation

/-- `RcChannelCalibration`. -/
structure RcChannelCalibration where
  minimum : UInt16 := 1000
  maximum : UInt16 := 2000
  trim : UInt16 := 1500
  deadzone : UInt16 := 20
  reversed : Bool := false
  deriving DecidableEq

/-- The fields of class `RcConfig`. -/
structure RcConfig where
  calibrations : Vector RcChannelCalibration 16 := Vector.replicate 16 {}
  functionChannels : Vector UInt8 16

namespace RcConfig

/-- `RcConfig::Unmapped`. -/
def Unmapped : UInt8 := 0xff

/-- The name `RC<number><suffix>`. -/
def channelName (number : Nat) (suffix : String) : CString :=
  cstr "RC" ++ decimal number ++ cstr suffix

/-- The reads of a channel share one variable, which keeps its value when a read fails. -/
def readFloat (params : ParamTable) (name : CString) (held : Float32) : Bool × Float32 :=
  match params.lookupFloat name with
  | some value => (true, value)
  | none => (false, held)

/-- One turn of the calibration loop of `refresh`. -/
def refreshCalibration (params : ParamTable) (s : Bool × RcConfig) (channel : Nat) :
    Bool × RcConfig :=
  let number := channel + 1
  let (v₁, minimum) := readFloat params (channelName number "_MIN") 0
  let (v₂, maximum) := readFloat params (channelName number "_MAX") minimum
  let (v₃, trim) := readFloat params (channelName number "_TRIM") maximum
  let (v₄, deadzone) := readFloat params (channelName number "_DZ") trim
  let (v₅, reversed) := readFloat params (channelName number "_REV") deadzone
  let calibration : RcChannelCalibration :=
    { minimum := minimum.toUInt16, maximum := maximum.toUInt16, trim := trim.toUInt16
      deadzone := deadzone.toUInt16, reversed := reversed.lt 0 }
  (s.1 && v₁ && v₂ && v₃ && v₄ && v₅,
    { s.2 with calibrations := s.2.calibrations.setIfInBounds channel calibration })

/-- Cache the channel of one function from a parameter that counts channels from one. -/
def refreshMapping (params : ParamTable) (name : CString) (function : Nat) (s : Bool × RcConfig) :
    Bool × RcConfig :=
  let (valid, channel) :=
    match params.lookupInt name with
    | some value => (true, value)
    | none => (false, 0)
  let mapped :=
    if 0 < channel ∧ channel.toInt ≤ InputRc.MAX_CHANNELS then (channel - 1).toUInt32.toUInt8
    else Unmapped
  (s.1 && valid, { s.2 with functionChannels := s.2.functionChannels.setIfInBounds function mapped })

/-- `RcConfig::refresh`. -/
def refresh (params : ParamTable) (c : RcConfig) : Bool × RcConfig :=
  let s := forRange InputRc.MAX_CHANNELS (refreshCalibration params) (true, c)
  let s := refreshMapping params (cstr "RC_MAP_THROTTLE") RcChannels.FUNCTION_THROTTLE s
  let s := refreshMapping params (cstr "RC_MAP_ROLL") RcChannels.FUNCTION_ROLL s
  let s := refreshMapping params (cstr "RC_MAP_PITCH") RcChannels.FUNCTION_PITCH s
  let s := refreshMapping params (cstr "RC_MAP_YAW") RcChannels.FUNCTION_YAW s
  forRange RcChannels.SWITCH_COUNT
    (fun s switchIndex =>
      refreshMapping params (cstr "RC_MAP_SW" ++ decimal (switchIndex + 1))
        (RcChannels.FUNCTION_SWITCH_FIRST + switchIndex) s) s

/-- The MK32 mapping: four sticks on channels 3, 1, 2 and 4, twelve switches on the rest. -/
def mk32 : RcConfig where
  functionChannels := Vector.ofFn fun function : Fin 16 =>
    if function.val = RcChannels.FUNCTION_ROLL then 0
    else if function.val = RcChannels.FUNCTION_PITCH then 1
    else if function.val = RcChannels.FUNCTION_THROTTLE then 2
    else if function.val = RcChannels.FUNCTION_YAW then 3
    else UInt8.ofNat function.val

/-- The constructor. -/
def construct (params : ParamTable) : RcConfig := (refresh params mk32).2

/-- `RcConfig::calibration`. -/
def calibration (c : RcConfig) (channel : Nat) : RcChannelCalibration :=
  c.calibrations.getD channel {}

/-- `RcConfig::functionChannel`. -/
def functionChannel (c : RcConfig) (function : Nat) : UInt8 :=
  c.functionChannels.getD function Unmapped

/-- The test of `valid` for one of the four sticks; the differences are taken in `int`. -/
def stickValid (c : RcConfig) (function : Nat) : Bool :=
  let channel := (c.functionChannel function).toNat
  let item := c.calibration channel
  decide (channel < InputRc.MAX_CHANNELS) &&
    decide (item.minimum < item.trim ∧ item.trim < item.maximum) &&
    decide ((item.deadzone.toNat : Int) < item.trim.toNat - item.minimum.toNat) &&
    decide ((item.deadzone.toNat : Int) < item.maximum.toNat - item.trim.toNat)

/-- `RcConfig::valid`. -/
def valid (c : RcConfig) : Bool :=
  c.stickValid RcChannels.FUNCTION_THROTTLE && c.stickValid RcChannels.FUNCTION_ROLL &&
    c.stickValid RcChannels.FUNCTION_PITCH && c.stickValid RcChannels.FUNCTION_YAW

end RcConfig

section Normalize

variable {K : Type} [Add K] [Sub K] [Mul K] [Div K] [Neg K] [Scalar K]

open Scalar

/-- `constrain`. -/
def constrain (value minimum maximum : K) : K :=
  if lt value minimum then minimum else if lt maximum value then maximum else value

/-- `normalizeRcChannel`: dead zone, separate slopes on both sides, optional reversal. -/
def normalizeRcChannel (rawValue : UInt16) (calibration : RcChannelCalibration) : K :=
  if ¬ (calibration.minimum < calibration.trim ∧ calibration.trim < calibration.maximum) then ofNat 0
  else
    let value : K := ofNat rawValue.toNat
    let minimum : K := ofNat calibration.minimum.toNat
    let maximum : K := ofNat calibration.maximum.toNat
    let trim : K := ofNat calibration.trim.toNat
    let lowerDeadzone := trim - ofNat calibration.deadzone.toNat
    let upperDeadzone := trim + ofNat calibration.deadzone.toNat
    let normalized :=
      if lt value lowerDeadzone && lt minimum lowerDeadzone then
        (-(lowerDeadzone - value)) / (lowerDeadzone - minimum)
      else if lt upperDeadzone value && lt upperDeadzone maximum then
        (value - upperDeadzone) / (maximum - upperDeadzone)
      else ofNat 0
    let normalized := constrain normalized (-ofNat 1) (ofNat 1)
    let normalized := if calibration.reversed then -normalized else normalized
    if isFinite normalized then normalized else ofNat 0

end Normalize

/-- `rcSwitchPosition`: two thresholds make three positions. -/
def rcSwitchPosition (normalizedValue : Float32) : UInt8 :=
  if Float32.lt 0.5 normalizedValue then ManualControlSwitches.POSITION_ON
  else if normalizedValue.lt (-0.5) then ManualControlSwitches.POSITION_OFF
  else ManualControlSwitches.POSITION_MIDDLE

end DualMagneticWheel
