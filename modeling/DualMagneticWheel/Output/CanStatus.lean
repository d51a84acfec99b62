/-
# DualMagneticWheel.Output.CanStatus — what the motors report, and what the robot says about them

After the mixing stage a turn of the task's loop reads up to 32 messages from the CAN device, gives each
frame to the first channel that accepts it, and every 100 ms publishes what it knows of the four
actuators. The device is a queue of read results: reading an empty one is `EAGAIN`, and what arrives
between two turns is an input of the run.

The specification is a log of read results and publications. What the task holds for an actuator is the
`latest` report in that log, a report being what a reading means under the configuration it was
read with; nothing of the log depends on the counters, the arrays and the early returns of the code.
-/
import DualMagneticWheel.Foundation.EventLog
import DualMagneticWheel.Foundation.Loop
import DualMagneticWheel.Foundation.Transition
import DualMagneticWheel.Output.CooperativeStop
import DualMagneticWheel.Output.Drivable
import DualMagneticWheel.Protocol.Feedback

namespace DualMagneticWheel

open Foundation

/-! ## The message -/

/-- What `ActuatorStatus` says about one actuator; in the message every field is an array. -/
structure ActuatorReport (K : Type) where
  timestampSample : UInt64
  position : K
  velocity : K
  torque : K
  mosTemperature : K
  coilTemperature : K
  error : UInt8
  online : Bool

/-- `ActuatorStatus`. -/
structure ActuatorStatus (K : Type) where
  timestamp : UInt64
  actuators : Vector (ActuatorReport K) 16
  count : UInt8
  txCount : UInt32
  rxCount : UInt32
  errorCount : UInt32

section Message

variable {K : Type} [Scalar K]

def DamiaoFeedback.initial : DamiaoFeedback K where
  motorId := 0
  error := 0
  position := Scalar.ofNat 0
  velocity := Scalar.ofNat 0
  torque := Scalar.ofNat 0
  mosTemperature := Scalar.ofNat 0
  coilTemperature := Scalar.ofNat 0

/-- The assignments of `handleFeedback`, with a given `online`. -/
def ActuatorReport.ofFeedback (now : UInt64) (feedback : DamiaoFeedback K) (online : Bool) :
    ActuatorReport K where
  timestampSample := now
  position := feedback.position
  velocity := feedback.velocity
  torque := feedback.torque
  mosTemperature := feedback.mosTemperature
  coilTemperature := feedback.coilTemperature
  error := feedback.error
  online := online

/-- Zero everywhere: what the message starts with. -/
def ActuatorReport.initial : ActuatorReport K := .ofFeedback 0 .initial false

/-- `_status` after the constructor. -/
def ActuatorStatus.initial : ActuatorStatus K where
  timestamp := 0
  actuators := Vector.replicate 16 .initial
  count := 4
  txCount := 0
  rxCount := 0
  errorCount := 0

end Message

namespace ActuatorStatus

variable {K : Type} [Scalar K]

/-- The report on one actuator. -/
def actuator (status : ActuatorStatus K) (index : Nat) : ActuatorReport K :=
  status.actuators.getD index .initial

def countError (status : ActuatorStatus K) : ActuatorStatus K :=
  { status with errorCount := status.errorCount + 1 }

/-- The end of the loop body of `handleFeedback`. -/
def record (now : UInt64) (index : Nat) (feedback : DamiaoFeedback K) (status : ActuatorStatus K) :
    ActuatorStatus K :=
  { status with
    actuators := status.actuators.setIfInBounds index (.ofFeedback now feedback true)
    rxCount := status.rxCount + 1 }

/-- The test of `publishStatus`. -/
def recent (now timestampSample : UInt64) : Bool :=
  timestampSample != 0 && decide (timestampSample ≤ now) && decide (now - timestampSample ≤ 500000)

/-- The loop of `publishStatus`. -/
def refreshOnline (now : UInt64) (status : ActuatorStatus K) : ActuatorStatus K :=
  forRange CanOutput.ChannelCount (fun status index =>
    let report := status.actuator index
    { status with
      actuators := status.actuators.setIfInBounds index
        { report with online := recent now report.timestampSample } }) status

end ActuatorStatus

/-! ## From a message to a channel -/

/-- The part of `can_msg_s` that is read: the identifier, the data length code, and the first eight bytes,
zero where the message was shorter. -/
structure CanMessage where
  id : UInt32
  dlc : UInt8
  data : Vector UInt8 8

/-- The frame that `receiveFrames` makes of a message with a length. -/
def CanMessage.frame (message : CanMessage) (length : UInt8) : CanFrame where
  id := message.id
  length := length
  data := Vector.ofFn fun i => if i.val < length.toNat then message.data[i] else 0

section Routing

variable {K : Type} [Add K] [Sub K] [Mul K] [Div K] [Neg K] [Scalar K] [OfScientific K]

/-- The tests of the loop of `handleFeedback`: the feedback that a channel takes from a frame. -/
def CanChannelConfig.feedback (config : CanChannelConfig K) (frame : CanFrame) :
    Option (DamiaoFeedback K) :=
  if config.protocol ≠ .Damiao ∨ (config.feedbackId ≠ 0 ∧ config.feedbackId.toUInt32 ≠ frame.id) then
    none
  else
    let (decoded, feedback) := DamiaoProtocol.decodeFeedback frame config.limits .initial
    if !decoded || feedback.motorId.toUInt16 != config.motorId &&& 0x0f then none else some feedback

/-- The loop of `handleFeedback`: the first channel that takes the frame. -/
def route (channels : Vector (CanChannelConfig K) 4) (frame : CanFrame) :
    Option (Nat × DamiaoFeedback K) :=
  (List.range CanOutput.ChannelCount).findSome? fun index =>
    ((channels.getD index .initial).feedback frame).map fun feedback => (index, feedback)

/-- `CanOutput::handleFeedback`. -/
def handleFeedback (channels : Vector (CanChannelConfig K) 4) (frame : CanFrame) (now : UInt64)
    (status : ActuatorStatus K) : Bool × ActuatorStatus K :=
  match route channels frame with
  | some (index, feedback) => (true, status.record now index feedback)
  | none => (false, status)

end Routing

/-! ## The receiver -/

/-- What `read` can return on a device that has something. A message is at least a header long. -/
inductive CanRead where
  | message (message : CanMessage)
  | failed
  | nothing

/-- A result of `read`, with what the receiver made of it by. -/
structure CanReading (K : Type) where
  now : UInt64
  channels : Vector (CanChannelConfig K) 4
  read : CanRead

/-- What is written down: results of `read` and publications. -/
inductive CanNote (K : Type) where
  | heard (reading : CanReading K)
  | published (status : ActuatorStatus K)

/-- The receiving half of class `CanOutput`, its topic, the queue of the device, the clock reading of the
last turn, and the log (newest first). -/
structure CanReceiver (K : Type) where
  status : ActuatorStatus K
  lastStatusPublish : UInt64 := 0
  topic : Topic (ActuatorStatus K)
  pending : List CanRead := []
  time : UInt64 := 0
  log : List (CanNote K) := []

namespace CanReceiver

variable {K : Type} [Add K] [Sub K] [Mul K] [Div K] [Neg K] [Scalar K] [OfScientific K]

def initial : CanReceiver K where
  status := .initial
  topic := { message := { (ActuatorStatus.initial : ActuatorStatus K) with count := 0 } }

variable (dlc2bytes : UInt8 → UInt8)

/-- The loop body of `receiveFrames` after `read`: whether the loop goes on, and the status. -/
def receiveTurn (channels : Vector (CanChannelConfig K) 4) (now : UInt64) (read : CanRead)
    (status : ActuatorStatus K) : Bool × ActuatorStatus K :=
  match read with
  | .nothing => (false, status)
  | .failed => (false, status.countError)
  | .message message =>
      let frame := message.frame (dlc2bytes message.dlc)
      if 8 < frame.length then (true, status.countError)
      else (true, (handleFeedback channels frame now status).2)

/-- A result of `read` has been used. -/
def used (channels : Vector (CanChannelConfig K) 4) (now : UInt64) (read : CanRead)
    (pending : List CanRead) (r : CanReceiver K) : CanReceiver K :=
  { r with
    status := (receiveTurn dlc2bytes channels now read r.status).2
    pending := pending
    log := .heard ⟨now, channels, read⟩ :: r.log }

/-- The loop of `receiveFrames` with a number of turns left. -/
def receiveLoop (channels : Vector (CanChannelConfig K) 4) (now : UInt64) :
    Nat → CanReceiver K → CanReceiver K
  | 0, r => r
  | left + 1, r =>
      match r.pending with
      | [] => r
      | read :: pending =>
          if (receiveTurn dlc2bytes channels now read r.status).1 then
            receiveLoop channels now left (r.used dlc2bytes channels now read pending)
          else r.used dlc2bytes channels now read pending

/-- `CanOutput::receiveFrames`. -/
def receiveFrames (canFd : Int) (channels : Vector (CanChannelConfig K) 4) (now : UInt64)
    (r : CanReceiver K) : CanReceiver K :=
  if canFd < 0 then r else receiveLoop dlc2bytes channels now 32 r

/-- `CanOutput::publishStatus`. -/
def publishStatus (now : UInt64) (r : CanReceiver K) : CanReceiver K :=
  let status := { r.status with timestamp := now }.refreshOnline now
  { r with status, topic := r.topic.publish status, log := .published status :: r.log }

/-- The loop body of `CanOutput::run` from the reception of frames on. -/
def runOnce (canFd : Int) (channels : Vector (CanChannelConfig K) 4) (now : UInt64)
    (r : CanReceiver K) : CanReceiver K :=
  let r := { r with time := now }.receiveFrames dlc2bytes canFd channels now
  if r.lastStatusPublish = 0 ∨ 100000 ≤ now - r.lastStatusPublish then
    { r.publishStatus now with lastStatusPublish := now }
  else r

end CanReceiver

/-! ## The whole task -/

/-- The object with both halves. -/
structure CanNode where
  task : CanTask
  receiver : CanReceiver Float32

namespace CanNode

/-- An input of the sending half, and the read results that have reached the device since the last one. -/
structure Event where
  event : CanTask.Event
  arrivals : List CanRead := []

/-- How many frames were written. -/
def framesSent (log : List CanEvent) : Nat :=
  log.countP fun
    | .frame _ => true
    | .reload _ => false

/-- How many failures of the sending half there have been since the driver was `d`. -/
def failuresSince (d d' : CanDriver) : Nat := d'.failures.length - d.failures.length

/-- The sending half is at work. It counts in the same message: a frame when it is written, an error when
`write` fails or an output has no set-point. -/
def send (n : CanNode) (e : Event) : CanNode :=
  let task := n.task.next e.event
  let status := { n.receiver.status with
    txCount := UInt32.ofNat (framesSent task.driver.log)
    errorCount := n.receiver.status.errorCount + UInt32.ofNat (failuresSince n.task.driver task.driver) }
  { task, receiver := { n.receiver with status, pending := n.receiver.pending ++ e.arrivals } }

/-- A turn of `run` ends with the receiving half. -/
def next (dlc2bytes : UInt8 → UInt8) (n : CanNode) (e : Event) : CanNode :=
  let n := n.send e
  match e.event.input with
  | .turn turn =>
      let output := n.task.driver.output
      { n with receiver := n.receiver.runOnce dlc2bytes output.canFd output.channels turn.now }
  | _ => n

/-- All runs of a task that was started. -/
def system (dlc2bytes : UInt8 → UInt8) (t₀ : CanTask) : Transition CanNode Event :=
  Transition.ofFun (· = { task := t₀, receiver := .initial }) (next dlc2bytes)

end CanNode

end DualMagneticWheel
