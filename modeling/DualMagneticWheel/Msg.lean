/-
# DualMagneticWheel.Msg — the messages of the topic bus

One structure per `msg/*.msg` file that a modelled module publishes or reads, with the field names and
widths of the file and, as in the generated C++ headers, every field zero by default. The constants of
a message file live in the namespace of its structure.
-/
import DualMagneticWheel.Foundation.Scalar

namespace DualMagneticWheel

/-- `InputRc.msg`: raw receiver input, published by the SBUS driver. -/
structure InputRc where
  timestamp : UInt64 := 0
  timestampLastSignal : UInt64 := 0
  values : Vector UInt16 16 := Vector.replicate 16 0
  lostFrameCount : UInt32 := 0
  channelCount : UInt8 := 0
  rcFailsafe : Bool := false
  rcLost : Bool := false
  deriving DecidableEq

namespace InputRc
def MAX_CHANNELS : Nat := 16
end InputRc

/-- `RcChannels.msg`: calibrated channels. `function` maps a function number to its channel, `-1`
when unmapped. -/
structure RcChannels where
  timestamp : UInt64 := 0
  timestampLastValid : UInt64 := 0
  channels : Vector Float32 16 := Vector.replicate 16 0
  function : Vector Int8 16 := Vector.replicate 16 0
  frameDropCount : UInt32 := 0
  channelCount : UInt8 := 0
  signalLost : Bool := false
  deriving DecidableEq

namespace RcChannels
def FUNCTION_THROTTLE : Nat := 0
def FUNCTION_ROLL : Nat := 1
def FUNCTION_PITCH : Nat := 2
def FUNCTION_YAW : Nat := 3
def FUNCTION_SWITCH_FIRST : Nat := 4
def SWITCH_COUNT : Nat := 12
def FUNCTION_COUNT : Nat := 16
end RcChannels

/-- `ManualControl.msg`: the four sticks; `valid` once three frames were stable and the link is good. -/
structure ManualControl where
  timestamp : UInt64 := 0
  timestampSample : UInt64 := 0
  roll : Float32 := 0
  pitch : Float32 := 0
  yaw : Float32 := 0
  throttle : Float32 := 0
  valid : Bool := false
  deriving DecidableEq

/-- `ManualControlSwitches.msg`: the switch positions. -/
structure ManualControlSwitches where
  timestamp : UInt64 := 0
  timestampSample : UInt64 := 0
  positions : Vector UInt8 12 := Vector.replicate 12 0
  switchCount : UInt8 := 0
  valid : Bool := false
  deriving DecidableEq

namespace ManualControlSwitches
def POSITION_NONE : UInt8 := 0
def POSITION_ON : UInt8 := 1
def POSITION_MIDDLE : UInt8 := 2
def POSITION_OFF : UInt8 := 3
def SWITCH_COUNT : UInt8 := 12
end ManualControlSwitches

/-- `FailsafeStatus.msg`: the verdict of the failsafe detector, without any control target. -/
structure FailsafeStatus where
  timestamp : UInt64 := 0
  active : Bool := false
  deriving DecidableEq

/-- `RobotControlSetpoint.msg`: the motion target handed to the allocator. -/
structure RobotControlSetpoint where
  timestamp : UInt64 := 0
  timestampSample : UInt64 := 0
  speed : Float32 := 0
  steering : Float32 := 0
  valid : Bool := false
  failsafe : Bool := false
  deriving DecidableEq

/-- `ActuatorArmed.msg`: the arming state every output driver obeys. -/
structure ActuatorArmed where
  timestamp : UInt64 := 0
  armed : Bool := false
  valid : Bool := false
  lockdown : Bool := false
  deriving DecidableEq

/-- The common layout of `ActuatorMotors.msg` and `ActuatorServos.msg`. -/
structure ActuatorControls where
  timestamp : UInt64 := 0
  timestampSample : UInt64 := 0
  control : Vector Float32 8 := Vector.replicate 8 0
  count : UInt8 := 0
  valid : Bool := false
  deriving DecidableEq

/-- `ActuatorMotors.msg`: normalised drive outputs. -/
abbrev ActuatorMotors := ActuatorControls
/-- `ActuatorServos.msg`: normalised steering outputs. -/
abbrev ActuatorServos := ActuatorControls

/-- `ParameterUpdate.msg`: notification of a parameter change. -/
structure ParameterUpdate where
  timestamp : UInt64 := 0
  generation : UInt32 := 0
  saved : Bool := false
  deriving DecidableEq

end DualMagneticWheel
