/-
# DualMagneticWheel.Rc.RcUpdate — receiver frames become stick and switch messages

`RcUpdate::Run` processes a new `InputRc` if there is one and otherwise checks for silence. Validity of
what it publishes rests on a counter of frames with an unchanged channel count, `stableFrameCount`.
`processInput_count` is the whole of that counter's behaviour: it looks at channel counts and at nothing
else.
-/
import DualMagneticWheel.Orb.Topic
import DualMagneticWheel.Rc.RcConfig

namespace DualMagneticWheel

open Foundation

/-- The fields of class `RcUpdate`. -/
structure RcUpdate where
  config : RcConfig
  inputSubscription : Subscription := {}
  parameterSubscription : Subscription := {}
  lastInputTimestamp : UInt64 := 0
  previousChannelCount : UInt8 := 0
  stableFrameCount : UInt8 := 0
  processedFrames : UInt32 := 0
  signalLost : Bool := true
  timeoutPublished : Bool := false

namespace RcUpdate

/-- `InputTimeoutMicroseconds`. -/
def InputTimeoutMicroseconds : UInt64 := 500000

/-- The constructor. -/
def construct (params : ParamTable) : RcUpdate := { config := .construct params }

/-- `RcUpdate::initWorkQueue`, callbacks aside: silence is measured from the start. -/
def initWorkQueue (clock : UInt64) (u : RcUpdate) : RcUpdate := { u with lastInputTimestamp := clock }

/-- `ModuleParams::updateParams`: the configuration is the one child node. -/
def updateParams (params : ParamTable) (u : RcUpdate) : Bool × RcUpdate :=
  let refreshed := u.config.refresh params
  (refreshed.1, { u with config := refreshed.2 })

/-! ## Messages -/

/-- `RcUpdate::functionValue`. -/
def functionValue (channels : RcChannels) (function : Nat) (defaultValue : Float32) : Float32 :=
  if RcChannels.FUNCTION_COUNT ≤ function then defaultValue
  else
    let channel := channels.function.getD function 0
    if channel < 0 ∨ channels.channelCount.toNat ≤ channel.toInt.toNat then defaultValue
    else channels.channels.getD channel.toInt.toNat 0

/-- The signal is lost when the driver says so, the receiver says so, or channels are missing. -/
def inputLost (input : InputRc) : Bool :=
  input.rcLost || input.rcFailsafe || decide (input.channelCount < 4)

/-- The calibrated channels that `processInput` publishes. -/
def makeChannels (config : RcConfig) (input : InputRc) (now : UInt64) : RcChannels :=
  let channelCount := if 16 < input.channelCount then 16 else input.channelCount
  { timestamp := now
    timestampLastValid := if inputLost input then 0 else input.timestampLastSignal
    channelCount
    frameDropCount := input.lostFrameCount
    signalLost := inputLost input
    function := Vector.ofFn fun function : Fin 16 =>
      let mappedChannel := config.functionChannel function
      if mappedChannel.toNat < InputRc.MAX_CHANNELS then mappedChannel.toInt8 else -1
    channels := Vector.ofFn fun channel : Fin 16 =>
      if channel.val < channelCount.toNat then
        normalizeRcChannel (input.values.get channel) (config.calibration channel)
      else 0 }

/-- The stick message that `processInput` publishes. -/
def makeManual (channels : RcChannels) (input : InputRc) (controlsValid : Bool) (now : UInt64) :
    ManualControl where
  timestamp := now
  timestampSample := input.timestampLastSignal
  roll := functionValue channels RcChannels.FUNCTION_ROLL 0
  pitch := functionValue channels RcChannels.FUNCTION_PITCH 0
  yaw := functionValue channels RcChannels.FUNCTION_YAW 0
  throttle := functionValue channels RcChannels.FUNCTION_THROTTLE (-1)
  valid := controlsValid

/-- The switch message that `processInput` publishes. -/
def makeSwitches (channels : RcChannels) (input : InputRc) (controlsValid : Bool) (now : UInt64) :
    ManualControlSwitches where
  timestamp := now
  timestampSample := input.timestampLastSignal
  switchCount := UInt8.ofNat RcChannels.SWITCH_COUNT
  valid := controlsValid
  positions := Vector.ofFn fun switchIndex : Fin 12 =>
    rcSwitchPosition
      (functionValue channels (RcChannels.FUNCTION_SWITCH_FIRST + switchIndex) 0)

/-! ## Processing -/

/-- The counter at the head of `processInput`. -/
def countFrame (input : InputRc) (u : RcUpdate) : RcUpdate :=
  if input.channelCount = u.previousChannelCount ∧ 4 ≤ input.channelCount then
    if u.stableFrameCount < 3 then { u with stableFrameCount := u.stableFrameCount + 1 } else u
  else { u with stableFrameCount := 0, previousChannelCount := input.channelCount }

/-- `RcUpdate::processInput`. -/
def processInput (input : InputRc) (now : UInt64) (bus : Topics) (u : RcUpdate) :
    RcUpdate × Topics :=
  let u := { u with lastInputTimestamp := now, timeoutPublished := false }.countFrame input
  let channels := makeChannels u.config input now
  let controlsValid := !inputLost input && u.config.valid && decide (2 ≤ u.stableFrameCount)
  ({ u with signalLost := inputLost input, processedFrames := u.processedFrames + 1 },
    { bus with
      rcChannels := bus.rcChannels.publish channels
      manualControl := bus.manualControl.publish (makeManual channels input controlsValid now)
      manualControlSwitches :=
        bus.manualControlSwitches.publish (makeSwitches channels input controlsValid now) })

/-- Half a second without input, not yet reported. -/
def timeoutDue (u : RcUpdate) (now : UInt64) : Bool :=
  !u.timeoutPublished && u.lastInputTimestamp != 0 &&
    decide (InputTimeoutMicroseconds < now - u.lastInputTimestamp)

/-- `RcUpdate::publishTimeoutIfNeeded`: three invalid messages, and the counter starts over. -/
def publishTimeoutIfNeeded (now : UInt64) (bus : Topics) (u : RcUpdate) : RcUpdate × Topics :=
  if u.timeoutDue now then
    ({ u with signalLost := true, stableFrameCount := 0, timeoutPublished := true },
      { bus with
        rcChannels := bus.rcChannels.publish
          { timestamp := now, signalLost := true, function := Vector.replicate 16 (-1) }
        manualControl := bus.manualControl.publish { timestamp := now, throttle := -1 }
        manualControlSwitches := bus.manualControlSwitches.publish { timestamp := now } })
  else (u, bus)

/-- The parameter half of `Run`. -/
def readParams (params : ParamTable) (bus : Topics) (u : RcUpdate) : RcUpdate :=
  let notice := u.parameterSubscription.update bus.parameterUpdate {}
  let u := { u with parameterSubscription := notice.subscription }
  if notice.updated then (u.updateParams params).2 else u

/-- `RcUpdate::Run`. -/
def Run (params : ParamTable) (clock : UInt64) (bus : Topics) (u : RcUpdate) : RcUpdate × Topics :=
  let u := u.readParams params bus
  let input := u.inputSubscription.update bus.inputRc {}
  let u := { u with inputSubscription := input.subscription }
  if input.updated then u.processInput input.message clock bus
  else u.publishTimeoutIfNeeded clock bus

/-- `RcUpdate::onWorkQueueStopped`: three messages that report the loss. -/
def onWorkQueueStopped (clock : UInt64) (bus : Topics) : Topics :=
  { bus with
    rcChannels := bus.rcChannels.publish
      { timestamp := clock, signalLost := true, function := Vector.replicate 16 (-1) }
    manualControl := bus.manualControl.publish { timestamp := clock }
    manualControlSwitches := bus.manualControlSwitches.publish { timestamp := clock } }

/-! ## The counter -/

/-- After a frame the counter has gone one up, as far as three, or back to zero; the channel count alone
decides. -/
theorem processInput_count (input : InputRc) (now : UInt64) (bus : Topics) (u : RcUpdate) :
    (u.processInput input now bus).1.previousChannelCount = input.channelCount ∧
      (u.processInput input now bus).1.stableFrameCount =
        if input.channelCount = u.previousChannelCount ∧ 4 ≤ input.channelCount then
          if u.stableFrameCount < 3 then u.stableFrameCount + 1 else u.stableFrameCount
        else 0 := by
  simp only [processInput, countFrame]
  by_cases hsame : input.channelCount = u.previousChannelCount ∧ 4 ≤ input.channelCount
  · rw [if_pos hsame, if_pos hsame]
    split
    · exact ⟨hsame.1.symm, rfl⟩
    · exact ⟨hsame.1.symm, rfl⟩
  · rw [if_neg hsame, if_neg hsame]
    exact ⟨rfl, rfl⟩

theorem countFrame_config (input : InputRc) (u : RcUpdate) : (u.countFrame input).config = u.config := by
  unfold countFrame
  split
  · split <;> rfl
  · rfl

/-- Both messages carry one validity flag: the link is good, the calibration is usable, and the counter
has reached two. -/
theorem processInput_valid (input : InputRc) (now : UInt64) (bus : Topics) (u : RcUpdate) :
    (u.processInput input now bus).2.manualControlSwitches.message.valid =
        (u.processInput input now bus).2.manualControl.message.valid ∧
      ((u.processInput input now bus).2.manualControl.message.valid = true ↔
        inputLost input = false ∧ u.config.valid = true ∧
          2 ≤ (u.processInput input now bus).1.stableFrameCount) := by
  refine ⟨rfl, ?_⟩
  simp only [processInput, Topic.publish_message, makeManual, Bool.and_eq_true, Bool.not_eq_true',
    decide_eq_true_eq, countFrame_config, and_assoc]

/-- A reported timeout leaves invalid messages and an empty counter. -/
theorem publishTimeoutIfNeeded_due {u : RcUpdate} {now : UInt64} (bus : Topics)
    (h : u.timeoutDue now = true) :
    (u.publishTimeoutIfNeeded now bus).1.stableFrameCount = 0 ∧
      (u.publishTimeoutIfNeeded now bus).2.manualControl.message.valid = false ∧
      (u.publishTimeoutIfNeeded now bus).2.manualControlSwitches.message.valid = false := by
  unfold publishTimeoutIfNeeded
  rw [if_pos h]
  exact ⟨rfl, rfl, rfl⟩

/-- Reading parameters replaces the configuration and nothing else. -/
theorem readParams_frame (params : ParamTable) (bus : Topics) (u : RcUpdate) :
    ∃ config parameterSubscription,
      u.readParams params bus = { u with config, parameterSubscription } := by
  unfold readParams
  simp only
  split
  · exact ⟨_, _, by rw [updateParams]⟩
  · exact ⟨_, _, rfl⟩

end RcUpdate

end DualMagneticWheel
