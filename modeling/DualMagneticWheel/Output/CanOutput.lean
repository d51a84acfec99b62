/-
# DualMagneticWheel.Output.CanOutput — the CAN driver behind the mixing stage

Four channels (two motors, two servos) are configured from parameters, all at once or not at all. The
driver turns a stop into a disable pass over every channel, the first output array into an enable pass
over the channels with a function, and every further array into set-points. A pass goes on after a
failed write and reports it; `disablePending`, `protocolArmed` and `reloadPending` remember what is left
to be done.

What surrounds the object is in `CanDriver`: the outcome of every `write` in order, the management
commands that other tasks issue at the moments when the output mutex is free, the log of the frames
that reached the bus, and the failures to send one. A reload of the configuration leaves a mark in the log.
Locks are always obtained.
The arithmetic from an output to a set-point is written over any number type.
-/
import DualMagneticWheel.Output.MixingOutput
import DualMagneticWheel.Protocol.Damiao

namespace DualMagneticWheel

open Foundation

/-! ## Channel configuration -/

/-- `ActuatorType`. -/
inductive ActuatorType where
  | Motor
  | Servo
  deriving DecidableEq, Repr

/-- The channel of the motor or servo with an index: motors first. -/
def ActuatorType.channel (index : Nat) : ActuatorType → Nat
  | .Motor => index
  | .Servo => 2 + index

/-- How many there are of a type. -/
def ActuatorType.count : ActuatorType → Nat
  | .Motor => 2
  | .Servo => 2

/-- `CanChannelConfig`: what one actuator channel caches from the parameters. -/
structure CanChannelConfig (K : Type) where
  actuatorType : ActuatorType
  protocol : CanProtocol
  motorType : DamiaoMotorType
  mode : DamiaoMode
  motorId : UInt16
  feedbackId : UInt16
  reverse : K
  positionMinimum : K
  positionMaximum : K
  limits : DamiaoLimits K

/-- Parameters by name, `none` where `ParamManager::get` fails. One refresh asks for every name once, so
that a reader also stands for a table that other tasks change between two questions. -/
structure ParamReader (K : Type) where
  integer : CString → Option Int32
  real : CString → Option K

def ParamReader.ofTable (params : ParamTable) : ParamReader Float32 where
  integer := params.lookupInt
  real := params.lookupFloat

namespace CanChannelConfig

variable {K : Type} [Scalar K] [OfScientific K] [Add K] [Sub K] [Mul K] [Neg K] [BEq K]

/-- The member initialisers. -/
def initial : CanChannelConfig K where
  actuatorType := .Motor
  protocol := .Disabled
  motorType := .Unknown
  mode := .Velocity
  motorId := 0
  feedbackId := 0
  reverse := 1.0
  positionMinimum := -1.0
  positionMaximum := 1.0
  limits := { positionMax := 12.5, velocityMax := 30.0, torqueMax := 10.0 }

/-- `READ_INT`: a failed `get` leaves the variable alone. -/
def readInt (params : ParamReader K) (name : CString) (valid : Bool) (integer : Int32) : Bool × Int32 :=
  match params.integer name with
  | some value => (valid, value)
  | none => (false, integer)

/-- `READ_FLOAT`. -/
def readFloat (params : ParamReader K) (name : CString) (valid : Bool) (target : K) : Bool × K :=
  match params.real name with
  | some value => (valid, value)
  | none => (false, target)

/-- `CAN_%c%u_` and the suffix. -/
def paramName (type : ActuatorType) (index : Nat) (suffix : String) : CString :=
  cstr (match type with | .Motor => "CAN_M" | .Servo => "CAN_S") ++ decimal index ++ cstr "_" ++
    cstr suffix

/-- The integer parameters of `loadChannel`; narrowing keeps the low 16 bits. -/
def loadIntegers (params : ParamReader K) (type : ActuatorType) (index : Nat)
    (config : CanChannelConfig K) : Bool × CanChannelConfig K :=
  let (valid, integer) := readInt params (paramName type index "PROTO") true 0
  let config := { config with actuatorType := type, protocol := ⟨integer⟩ }
  let (valid, integer) := readInt params (paramName type index "TYPE") valid integer
  let config := { config with motorType := ⟨integer⟩ }
  let (valid, integer) := readInt params (paramName type index "ID") valid integer
  let config := { config with motorId := integer.toUInt32.toUInt16 }
  let (valid, integer) := readInt params (paramName type index "FBID") valid integer
  let config := { config with feedbackId := integer.toUInt32.toUInt16 }
  let (valid, integer) := readInt params (paramName type index "MODE") valid integer
  (valid, { config with mode := ⟨integer⟩ })

/-- The real parameters of `loadChannel`. -/
def loadReals (params : ParamReader K) (type : ActuatorType) (index : Nat) (valid : Bool)
    (config : CanChannelConfig K) : Bool × CanChannelConfig K :=
  let (valid, reverse) := readFloat params (paramName type index "REV") valid config.reverse
  let (valid, velocityMax) :=
    readFloat params (paramName type index "VMAX") valid config.limits.velocityMax
  let (valid, torqueMax) :=
    readFloat params (paramName type index "TMAX") valid config.limits.torqueMax
  match type with
  | .Servo =>
      let (valid, positionMinimum) :=
        readFloat params (paramName type index "PMIN") valid config.positionMinimum
      let (valid, positionMaximum) :=
        readFloat params (paramName type index "PMAX") valid config.positionMaximum
      let (valid, positionMax) :=
        readFloat params (paramName type index "PFBMAX") valid config.limits.positionMax
      (valid, { config with
        reverse, positionMinimum, positionMaximum, limits := { positionMax, velocityMax, torqueMax } })
  | .Motor =>
      let (valid, positionMax) :=
        readFloat params (paramName type index "PMAX") valid config.limits.positionMax
      (valid, { config with
        reverse, positionMinimum := -positionMax, positionMaximum := positionMax
        limits := { positionMax, velocityMax, torqueMax } })

/-- The final test of `loadChannel`. -/
def accepted (config : CanChannelConfig K) : Bool :=
  (config.protocol == .Disabled || config.protocol == .Damiao) &&
    (match DamiaoProtocol.modeOffset config.mode with
      | none => false
      | some offset => decide (config.motorId.toNat + offset.toNat ≤ 0x7ff)) &&
    decide (config.feedbackId.toNat ≤ 0x7ff) && (config.reverse == 1.0 || config.reverse == -1.0) &&
    Scalar.lt (0.0 : K) config.limits.positionMax && Scalar.lt (0.0 : K) config.limits.velocityMax &&
    Scalar.lt (0.0 : K) config.limits.torqueMax &&
    Scalar.lt config.positionMinimum config.positionMaximum

/-- `CanOutput::loadChannel`. -/
def loadChannel (params : ParamReader K) (type : ActuatorType) (index : Nat)
    (config : CanChannelConfig K) : Bool × CanChannelConfig K :=
  let (valid, config) := loadIntegers params type index config
  let (valid, config) := loadReals params type index valid config
  (valid && config.accepted, config)

/-- One turn of the two loops of `refreshParameters`. -/
def loadTurn (params : ParamReader K) (type : ActuatorType) (channels : Vector (CanChannelConfig K) 4)
    (index : Nat) : Option (Vector (CanChannelConfig K) 4) :=
  let (valid, config) := loadChannel params type index (channels.getD (type.channel index) initial)
  if !valid then none else some (channels.setIfInBounds (type.channel index) config)

/-- The new channels of `refreshParameters`. -/
def loadChannels (params : ParamReader K) : Option (Vector (CanChannelConfig K) 4) :=
  (forRange? 2 (loadTurn params .Motor) (Vector.replicate 4 initial)).bind
    (forRange? 2 (loadTurn params .Servo))

/-- The choice of `sendSpecial` between the encoders. -/
def encodeManagement (config : CanChannelConfig K) (command : UInt8) (frame : CanFrame) :
    Bool × CanFrame :=
  if command = 0xfc then DamiaoProtocol.encodeEnable config.motorId config.mode frame
  else if command = 0xfd then DamiaoProtocol.encodeDisable config.motorId config.mode frame
  else if command = 0xfe then DamiaoProtocol.encodeSetZero config.motorId config.mode frame
  else if command = 0xfb then DamiaoProtocol.encodeClearError config.motorId config.mode frame
  else (false, frame)

end CanChannelConfig

/-! ## From an output to a set-point -/

/-- The call of an encoder that an output leads to. -/
inductive DamiaoCommand (K : Type) where
  | velocity (motorId : UInt16) (velocity : K)
  | positionVelocity (motorId : UInt16) (position velocity : K)

/-- The encoder call itself. -/
def DamiaoCommand.encode (frame : CanFrame) : DamiaoCommand Float32 → Bool × CanFrame
  | .velocity motorId v => DamiaoProtocol.encodeVelocity motorId v frame
  | .positionVelocity motorId p v => DamiaoProtocol.encodePositionVelocity motorId p v frame

namespace CanChannelConfig

variable {K : Type} [Scalar K] [OfScientific K] [Add K] [Sub K] [Mul K] [Neg K]

/-- `CanOutput::constrainUnit`. -/
def constrainUnit (value : K) : K := saturate (-1.0) 1.0 value

/-- The choice of `sendDamiao`: velocity mode for motors, position mode for servos, else no frame. -/
def damiaoCommand (config : CanChannelConfig K) (output : K) : Option (DamiaoCommand K) :=
  let output := constrainUnit output * config.reverse
  if config.actuatorType = .Motor ∧ config.mode = .Velocity then
    some (.velocity config.motorId (output * config.limits.velocityMax))
  else if config.actuatorType = .Servo ∧ config.mode = .PositionVelocity then
    let ratio := (output + 1.0) * 0.5
    let position := config.positionMinimum + ratio * (config.positionMaximum - config.positionMinimum)
    some (.positionVelocity config.motorId position config.limits.velocityMax)
  else none

end CanChannelConfig

/-! ## The driver and its surroundings -/

/-- The fields of class `CanOutput` beside its `MixingOutput`, its counters and the feedback status. -/
structure CanOutput where
  canFd : Int := -1
  channels : Vector (CanChannelConfig Float32) 4 := Vector.replicate 4 .initial
  parameterSubscription : Subscription := {}
  parametersValid : Bool := false
  reloadPending : Bool := false
  disablePending : Bool := true
  protocolArmed : Bool := false

namespace CanOutput

def MotorCount : Nat := 2
def ServoCount : Nat := 2
def ChannelCount : Nat := 4

/-- `CanFunctionParams`. -/
def CanFunctionParams : List CString :=
  [cstr "CAN_M0_FUNC", cstr "CAN_M1_FUNC", cstr "CAN_S0_FUNC", cstr "CAN_S1_FUNC"]

/-- `CanOutput::refreshParameters`: the four channels change together or not at all. -/
def refreshParameters (params : ParamReader Float32) (o : CanOutput) : Bool × CanOutput :=
  match CanChannelConfig.loadChannels params with
  | some channels => (true, { o with channels })
  | none => (false, o)

/-- The configuration of a channel. -/
def channel (o : CanOutput) (index : Nat) : CanChannelConfig Float32 := o.channels.getD index .initial

end CanOutput

/-- The NSH commands `zero` and `clear`, with what they read from the rest of the system. -/
structure ManagementCommand where
  zero : Bool
  type : ActuatorType
  index : Int
  outputInhibited : Bool
  actuatorArmed : Topic ActuatorArmed

/-- What the bus has seen, and the reloads in between. -/
inductive CanEvent where
  | frame (frame : CanFrame)
  | reload (protocolArmed : Bool)
  deriving DecidableEq

/-- What the sending half counts as an error: a frame that `write` did not take, and an output without a
set-point. -/
inductive SendFailure where
  | write (frame : CanFrame)
  | encoding (output : Float32)

/-- The driver object, the log and the failures (newest first), and what the surroundings have in store
for it. -/
structure CanDriver where
  output : CanOutput
  log : List CanEvent := []
  failures : List SendFailure := []
  writes : List Bool := []
  commands : List (List ManagementCommand) := []

namespace CanDriver

/-! ## Writing frames -/

/-- The next `write`: its outcome is the next one in store, success when none is left. -/
def write (frame : CanFrame) (d : CanDriver) : Bool × CanDriver :=
  let rest := { d with writes := d.writes.tail }
  if d.writes.headD true then (true, { rest with log := .frame frame :: d.log })
  else (false, { rest with failures := .write frame :: d.failures })

/-- `CanOutput::writeFrame`. -/
def writeFrame (frame : CanFrame) (d : CanDriver) : Bool × CanDriver :=
  if d.output.canFd < 0 ∨ 8 < frame.length ∨ 0x7ff < frame.id then (false, d) else d.write frame

/-- `CanOutput::sendSpecial`. -/
def sendSpecial (type : ActuatorType) (index : Nat) (command : UInt8) (d : CanDriver) :
    Bool × CanDriver :=
  if CanOutput.ChannelCount ≤ type.channel index then (false, d)
  else
    let config := d.output.channel (type.channel index)
    if config.protocol = .Disabled then (true, d)
    else if config.protocol ≠ .Damiao then (false, d)
    else
      let (encoded, frame) := config.encodeManagement command {}
      if encoded then d.writeFrame frame else (false, d)

/-- One turn of the loops of `sendSpecialAll`; an enable skips channels without a function. -/
def sendSpecialTurn (caller : MixingOutput) (command : UInt8) (type : ActuatorType)
    (s : Bool × CanDriver) (index : Nat) : Bool × CanDriver :=
  if command ≠ 0xfc ∨ caller.isFunctionSet (type.channel index) = true then
    let (sent, d) := s.2.sendSpecial type index command
    (sent && s.1, d)
  else s

/-- `CanOutput::sendSpecialAll`: a failure is reported and the pass goes on. -/
def sendSpecialAll (caller : MixingOutput) (command : UInt8) (d : CanDriver) : Bool × CanDriver :=
  forRange CanOutput.ServoCount (sendSpecialTurn caller command .Servo)
    (forRange CanOutput.MotorCount (sendSpecialTurn caller command .Motor) (true, d))

/-- There is no set-point for an output. -/
def refuse (output : Float32) (d : CanDriver) : CanDriver :=
  { d with failures := .encoding output :: d.failures }

/-- `CanOutput::sendDamiao`. -/
def sendDamiao (config : CanChannelConfig Float32) (output : Float32) (d : CanDriver) :
    Bool × CanDriver :=
  match config.damiaoCommand output with
  | none => (false, d.refuse output)
  | some command =>
      let (encoded, frame) := command.encode {}
      if !encoded then (false, d.refuse output) else d.writeFrame frame

/-- `CanOutput::sendOne`. -/
def sendOne (config : CanChannelConfig Float32) (output : Float32) (d : CanDriver) : Bool × CanDriver :=
  if config.protocol = .Disabled then (true, d)
  else if config.protocol = .Damiao then d.sendDamiao config output
  else (false, d)

/-! ## Management commands -/

/-- What the arming topic has against a management command. -/
def armingRefuses (actuatorArmed : Topic ActuatorArmed) : Bool :=
  match actuatorArmed.copy with
  | none => true
  | some safety => safety.armed || !safety.lockdown

/-- `CanOutput::custom_command` for `zero` and `clear`, from the range check of the index on. -/
def customCommand (c : ManagementCommand) (d : CanDriver) : Bool × CanDriver :=
  if c.index < 0 ∨ c.type.count ≤ c.index then (false, d)
  else if !c.outputInhibited || armingRefuses c.actuatorArmed || d.output.disablePending ||
      d.output.protocolArmed then (false, d)
  else d.sendSpecial c.type c.index.toNat (if c.zero then 0xfe else 0xfb)

/-- Other tasks get in before the mutex is taken. -/
def admitCommands (d : CanDriver) : CanDriver :=
  (d.commands.headD []).foldl (fun d c => (d.customCommand c).2) { d with commands := d.commands.tail }

/-! ## The virtual function -/

/-- The channel loop of `updateOutputs`. -/
def sendOutputTurn (caller : MixingOutput) (outputs : Vector Float32 8) (s : Bool × CanDriver)
    (index : Nat) : Bool × CanDriver :=
  if !caller.isFunctionSet index then s
  else
    let (sent, d) := s.2.sendOne (s.2.output.channel index) (outputs.getD index 0)
    (sent && s.1, d)

def sendOutputs (caller : MixingOutput) (outputs : Vector Float32 8) (count : UInt8) (d : CanDriver) :
    Bool × CanDriver :=
  forRange (min count.toNat CanOutput.ChannelCount) (sendOutputTurn caller outputs) (true, d)

/-- The stop branch of `updateOutputs`. -/
def stop (caller : MixingOutput) (d : CanDriver) : Bool × CanDriver :=
  if !d.output.protocolArmed && !d.output.disablePending then (true, d)
  else
    let (stopped, d) := d.sendSpecialAll caller 0xfd
    if stopped then
      (true, { d with output := { d.output with protocolArmed := false, disablePending := false } })
    else (false, { d with output := { d.output with disablePending := true } })

/-- The other branch: enable what is not enabled yet, then send the set-points. -/
def drive (caller : MixingOutput) (outputs : Option (Vector Float32 8)) (count : UInt8)
    (d : CanDriver) : Bool × CanDriver :=
  match outputs with
  | none => (false, d)
  | some outputs =>
      if !d.output.parametersValid || d.output.disablePending then (false, d)
      else if !d.output.protocolArmed then
        let (enabled, d) :=
          { d with output := { d.output with protocolArmed := true } }.sendSpecialAll caller 0xfc
        if !enabled then (false, d) else d.sendOutputs caller outputs count
      else d.sendOutputs caller outputs count

/-- `CanOutput::updateOutputs`. -/
instance : OutputInterface CanDriver where
  updateOutputs caller stopOutputs outputs count _ d :=
    if stopOutputs then d.admitCommands.stop caller
    else d.admitCommands.drive caller outputs count

end CanDriver

/-! ## The task -/

/-- The whole object: `MixingOutput` is a member of the driver it calls. -/
structure CanTask where
  mixingOutput : MixingOutput
  driver : CanDriver

namespace CanTask

/-- `ModuleParams::updateParams` of the driver and its child. The child refreshes in any case. -/
def updateParams (params : ParamTable) (t : CanTask) : Bool × CanTask :=
  let (own, output) := t.driver.output.refreshParameters (.ofTable params)
  let (child, mixingOutput) := t.mixingOutput.updateParams params
  (child && own,
    { mixingOutput
      driver := { t.driver with output, log := .reload t.driver.output.protocolArmed :: t.driver.log } })

/-- Store the result of a reload. -/
def reload (params : ParamTable) (t : CanTask) : CanTask :=
  let (parametersValid, t) := { t with driver := t.driver.admitCommands }.updateParams params
  { t with driver := { t.driver with output := { t.driver.output with parametersValid } } }

/-- The constructor followed by `init`, with the result of `open`; `none` deletes the object again. -/
def start (params₀ params₁ : ParamTable) (canFd : Int) : Option CanTask :=
  let t : CanTask :=
    { mixingOutput := .construct params₀ (some CanOutput.CanFunctionParams) CanOutput.ChannelCount
      driver := { output := {} } }
  let t := t.reload params₁
  if !t.driver.output.parametersValid || decide (canFd < 0) then none
  else some { t with driver := { t.driver with output := { t.driver.output with canFd } } }

/-- What one turn of the loop of `run` reads. -/
structure Turn where
  now : UInt64
  parameterUpdate : Topic ParameterUpdate
  params : ParamTable
  retryParams : ParamTable
  clock : UInt64
  bus : Topics

/-- The stop that `run` itself asks for. -/
def stop (now : UInt64) (t : CanTask) : Bool × CanTask :=
  let (stopped, driver) := OutputInterface.updateOutputs t.mixingOutput true none 0 now t.driver
  (stopped, { t with driver })

/-- The first part of the loop body: a changed parameter reloads once the old motors are stopped. -/
def pollParameters (turn : Turn) (t : CanTask) : CanTask :=
  let reading := t.driver.output.parameterSubscription.update turn.parameterUpdate {}
  let output := { t.driver.output with parameterSubscription := reading.subscription }
  let t := { t with driver := { t.driver with output } }
  if reading.updated then
    let (stopped, t) := t.stop turn.now
    if stopped then t.reload turn.params
    else
      let output := { t.driver.output with parametersValid := false, reloadPending := true }
      { t with driver := { t.driver with output } }
  else t

/-- The second part: a reload that is still due. -/
def retryReload (turn : Turn) (t : CanTask) : CanTask :=
  if !t.driver.output.reloadPending then t
  else
    let (stopped, t) := t.stop turn.now
    if stopped then
      let t := t.reload turn.retryParams
      { t with driver := { t.driver with output := { t.driver.output with reloadPending := false } } }
    else t

/-- `MixingOutput::update` on this driver. -/
def update (clock arg : UInt64) (bus : Topics) (t : CanTask) : CanTask :=
  let (_, mixingOutput, driver) := t.mixingOutput.update clock arg bus t.driver
  { mixingOutput, driver }

/-- The loop body of `CanOutput::run` up to the reception of frames. -/
def runOnce (turn : Turn) (t : CanTask) : CanTask :=
  ((t.pollParameters turn).retryReload turn).update turn.clock 0 turn.bus

/-- What can happen to the object. -/
inductive Input where
  | update (clock arg : UInt64) (bus : Topics)
  | turn (turn : Turn)
  | command (command : ManagementCommand)

/-- An input together with the write outcomes and the commands that fall into it. -/
structure Event where
  input : Input
  writes : List Bool := []
  commands : List (List ManagementCommand) := []

def next (t : CanTask) (e : Event) : CanTask :=
  let t := { t with driver := { t.driver with writes := e.writes, commands := e.commands } }
  match e.input with
  | .update clock arg bus => t.update clock arg bus
  | .turn turn => t.runOnce turn
  | .command command => { t with driver := (t.driver.customCommand command).2 }

end CanTask

end DualMagneticWheel
