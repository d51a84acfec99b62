/-
# DualMagneticWheel.Rc.BackedSticks — where the values of a valid stick message come from

`processInput` decides `valid` from the link, the calibration and the frame counter, and takes the value
of a stick from the channel its function is mapped to, or a fallback when the message has no such channel.
`functionValue_makeChannels` is the second half in one equation. `sticks_backed_iff` puts the two
together: a message marked valid is free of fallbacks exactly when the four sticks are mapped below the
channel count. Nothing in the module tests that: a receiver with eight channels and the throttle on the
ninth yields valid messages with the throttle at full reverse.
-/
import DualMagneticWheel.Params.Definitions
import DualMagneticWheel.Rc.RcUpdate

namespace DualMagneticWheel

open Foundation

/-- The stick of a message that belongs to a function. -/
def ManualControl.stick (m : ManualControl) (function : Nat) : Float32 :=
  if function = RcChannels.FUNCTION_THROTTLE then m.throttle
  else if function = RcChannels.FUNCTION_ROLL then m.roll
  else if function = RcChannels.FUNCTION_PITCH then m.pitch
  else m.yaw

namespace RcUpdate

/-! ## One function -/

/-- A mapped channel is small enough for the signed entry of `RcChannels`. -/
theorem toInt_toInt8_of_lt {channel : UInt8} (h : channel.toNat < 16) :
    channel.toInt8.toInt = channel.toNat := by
  have hsigned : channel.toInt8.toInt = channel.toBitVec.toInt := rfl
  have hsmall : 2 * channel.toBitVec.toNat < 2 ^ 8 := by
    show 2 * channel.toNat < 2 ^ 8
    omega
  rw [hsigned, BitVec.toInt_eq_toNat_of_lt hsmall]
  rfl

/-- The channels of the message that hold something. -/
def received (input : InputRc) : Nat := min InputRc.MAX_CHANNELS input.channelCount.toNat

theorem makeChannels_channelCount (config : RcConfig) (input : InputRc) (now : UInt64) :
    (makeChannels config input now).channelCount.toNat = received input := by
  show (if 16 < input.channelCount then (16 : UInt8) else input.channelCount).toNat = _
  unfold received InputRc.MAX_CHANNELS
  by_cases h : 16 < input.channelCount
  · have hcount : 16 < input.channelCount.toNat := UInt8.lt_iff_toNat_lt.mp h
    rw [if_pos h]
    show 16 = min 16 input.channelCount.toNat
    omega
  · have hcount : ¬ 16 < input.channelCount.toNat := fun hlt => h (UInt8.lt_iff_toNat_lt.mpr hlt)
    rw [if_neg h]
    omega

theorem makeChannels_channels (config : RcConfig) (input : InputRc) (now : UInt64) {channel : Nat}
    (h : channel < received input) :
    (makeChannels config input now).channels.getD channel 0 =
      normalizeRcChannel (input.values.getD channel 0) (config.calibration channel) := by
  have hbound : channel < 16 := Nat.lt_of_lt_of_le h (Nat.min_le_left _ _)
  have hcount : channel < (makeChannels config input now).channelCount.toNat := by
    rw [makeChannels_channelCount]
    exact h
  have hentry : (makeChannels config input now).channels.getD channel 0 =
      if channel < (makeChannels config input now).channelCount.toNat then
        normalizeRcChannel (input.values.get ⟨channel, hbound⟩) (config.calibration channel)
      else 0 := by
    rw [getD_eq, Vector.getElem?_eq_getElem hbound, Option.getD_some, makeChannels,
      Vector.getElem_ofFn]
  have hvalue : input.values.getD channel 0 = input.values.get ⟨channel, hbound⟩ := by
    rw [getD_eq, Vector.getElem?_eq_getElem hbound, Option.getD_some]
    rfl
  rw [hentry, if_pos hcount, hvalue]

/-- The value of a function: its channel if the message has it, else the fallback. -/
theorem functionValue_makeChannels (config : RcConfig) (input : InputRc) (now : UInt64)
    {function : Nat} (hfunction : function < RcChannels.FUNCTION_COUNT) (defaultValue : Float32) :
    functionValue (makeChannels config input now) function defaultValue =
      if (config.functionChannel function).toNat < received input then
        normalizeRcChannel (input.values.getD (config.functionChannel function).toNat 0)
          (config.calibration (config.functionChannel function).toNat)
      else defaultValue := by
  have hbound : function < 16 := hfunction
  have hmapped : (makeChannels config input now).function.getD function 0 =
      if (config.functionChannel function).toNat < InputRc.MAX_CHANNELS then
        (config.functionChannel function).toInt8 else -1 := by
    rw [getD_eq, Vector.getElem?_eq_getElem hbound, Option.getD_some, makeChannels,
      Vector.getElem_ofFn]
  rw [functionValue, if_neg (Nat.not_le.mpr hfunction), hmapped, makeChannels_channelCount]
  dsimp only
  by_cases hsmall : (config.functionChannel function).toNat < InputRc.MAX_CHANNELS
  · have hint := toInt_toInt8_of_lt hsmall
    have hnat : (config.functionChannel function).toInt8.toInt.toNat =
        (config.functionChannel function).toNat := by
      rw [hint]
      exact Int.toNat_natCast _
    have hnonneg : ¬ (config.functionChannel function).toInt8 < 0 := by
      rw [Int8.lt_iff_toInt_lt, hint]
      show ¬ ((config.functionChannel function).toNat : Int) < 0
      omega
    rw [if_pos hsmall, hnat]
    by_cases hreceived : (config.functionChannel function).toNat < received input
    · rw [if_pos hreceived, if_neg, makeChannels_channels config input now hreceived]
      rintro (hneg | hbeyond)
      · exact hnonneg hneg
      · omega
    · rw [if_neg hreceived, if_pos (Or.inr (Nat.not_lt.mp hreceived))]
  · -- an unmapped function is marked with a negative entry
    have hreceived : ¬ (config.functionChannel function).toNat < received input :=
      fun h => hsmall (Nat.lt_of_lt_of_le h (Nat.min_le_left _ _))
    rw [if_neg hsmall, if_neg hreceived, if_pos (Or.inl (by decide))]

/-! ## The message -/

/-- The value of a stick whose channel is missing. -/
def fallback (function : Nat) : Float32 := if function = RcChannels.FUNCTION_THROTTLE then -1 else 0

theorem makeManual_stick (channels : RcChannels) (input : InputRc) (controlsValid : Bool)
    (now : UInt64) {function : Nat} (h : function < RcChannels.FUNCTION_SWITCH_FIRST) :
    (makeManual channels input controlsValid now).stick function =
      functionValue channels function (fallback function) := by
  have hfour : function < 4 := h
  obtain rfl | rfl | rfl | rfl : function = 0 ∨ function = 1 ∨ function = 2 ∨ function = 3 := by omega
  · rfl
  · rfl
  · rfl
  · rfl

/-- The message will be marked valid: the link is good, the calibration usable, and this frame is at
least the third in a row with its channel count. -/
structure MarkedValid (u : RcUpdate) (input : InputRc) : Prop where
  link : inputLost input = false
  calibrated : u.config.valid = true
  sameCount : input.channelCount = u.previousChannelCount
  stable : 1 ≤ u.stableFrameCount

/-- A stick message marked valid holds readings of channels below the channel count, and whatever the
fallbacks are, they do not show. -/
def Backed (u : RcUpdate) (input : InputRc) (now : UInt64) (bus : Topics) : Prop :=
  (u.processInput input now bus).2.manualControl.message.valid = true →
    ∀ function < RcChannels.FUNCTION_SWITCH_FIRST,
      ∃ channel < input.channelCount.toNat,
        (u.processInput input now bus).2.manualControl.message.stick function =
          normalizeRcChannel (input.values.getD channel 0) (u.config.calibration channel) ∧
        ∀ defaultValue, functionValue (u.processInput input now bus).2.rcChannels.message function
          defaultValue = (u.processInput input now bus).2.manualControl.message.stick function

theorem processInput_markedValid (u : RcUpdate) (input : InputRc) (now : UInt64) (bus : Topics) :
    (u.processInput input now bus).2.manualControl.message.valid = true ↔ u.MarkedValid input := by
  rw [(processInput_valid input now bus u).2, (processInput_count input now bus u).2]
  constructor
  · rintro ⟨hlink, hcalibrated, hcount⟩
    split at hcount
    · rename_i hsame
      refine ⟨hlink, hcalibrated, hsame.1, ?_⟩
      split at hcount
      · rename_i hsmall
        rw [UInt8.lt_iff_toNat_lt] at hsmall
        rw [UInt8.le_iff_toNat_le] at hcount ⊢
        change u.stableFrameCount.toNat < 3 at hsmall
        rw [UInt8.toNat_add] at hcount
        change 2 ≤ (u.stableFrameCount.toNat + 1) % 256 at hcount
        show 1 ≤ u.stableFrameCount.toNat
        omega
      · rw [UInt8.le_iff_toNat_le] at hcount ⊢
        exact Nat.le_trans (by decide) hcount
    · cases hcount
  · rintro ⟨hlink, hcalibrated, hsame, hstable⟩
    have hfour : 4 ≤ input.channelCount := by
      simp only [inputLost, Bool.or_eq_false_iff, decide_eq_false_iff_not, UInt8.not_lt] at hlink
      exact hlink.2
    refine ⟨hlink, hcalibrated, ?_⟩
    rw [if_pos ⟨hsame, hfour⟩]
    rw [UInt8.le_iff_toNat_le] at hstable
    split
    · rename_i hsmall
      rw [UInt8.lt_iff_toNat_lt] at hsmall
      change u.stableFrameCount.toNat < 3 at hsmall
      change 1 ≤ u.stableFrameCount.toNat at hstable
      rw [UInt8.le_iff_toNat_le, UInt8.toNat_add]
      show 2 ≤ (u.stableFrameCount.toNat + 1) % 256
      omega
    · rename_i hlarge
      rw [UInt8.not_lt, UInt8.le_iff_toNat_le] at hlarge
      rw [UInt8.le_iff_toNat_le]
      exact Nat.le_trans (by decide) hlarge

/-- A usable configuration maps every stick to one of the sixteen channels. -/
theorem stick_mapped {config : RcConfig} (h : config.valid = true) {function : Nat}
    (hfunction : function < RcChannels.FUNCTION_SWITCH_FIRST) :
    (config.functionChannel function).toNat < InputRc.MAX_CHANNELS := by
  have hstick : config.stickValid function = true := by
    simp only [RcConfig.valid, Bool.and_eq_true] at h
    have hfour : function < 4 := hfunction
    obtain rfl | rfl | rfl | rfl : function = 0 ∨ function = 1 ∨ function = 2 ∨ function = 3 := by
      omega
    · exact h.1.1.1
    · exact h.1.1.2
    · exact h.1.2
    · exact h.2
  simp only [RcConfig.stickValid, Bool.and_eq_true, decide_eq_true_iff] at hstick
  exact hstick.1.1.1

/-- The sticks of the message that `processInput` publishes. -/
theorem processInput_stick (u : RcUpdate) (input : InputRc) (now : UInt64) (bus : Topics)
    {function : Nat} (h : function < RcChannels.FUNCTION_SWITCH_FIRST) :
    (u.processInput input now bus).2.manualControl.message.stick function =
      functionValue (u.processInput input now bus).2.rcChannels.message function
        (fallback function) :=
  makeManual_stick _ _ _ _ h

theorem processInput_channels (u : RcUpdate) (input : InputRc) (now : UInt64) (bus : Topics) :
    (u.processInput input now bus).2.rcChannels.message = makeChannels u.config input now := by
  show makeChannels (countFrame input _).config input now = _
  rw [countFrame_config]

/-- A message is free of fallbacks exactly when it is not marked valid or its four sticks are mapped to
channels that the frame has. -/
theorem sticks_backed_iff (u : RcUpdate) (input : InputRc) (now : UInt64) (bus : Topics) :
    u.Backed input now bus ↔ (u.MarkedValid input →
      ∀ function < RcChannels.FUNCTION_SWITCH_FIRST,
        (u.config.functionChannel function).toNat < input.channelCount.toNat) := by
  have hvalue : ∀ function < RcChannels.FUNCTION_SWITCH_FIRST, ∀ defaultValue,
      functionValue (u.processInput input now bus).2.rcChannels.message function defaultValue =
        if (u.config.functionChannel function).toNat < received input then
          normalizeRcChannel (input.values.getD (u.config.functionChannel function).toNat 0)
            (u.config.calibration (u.config.functionChannel function).toNat)
        else defaultValue := by
    intro function hfunction defaultValue
    rw [processInput_channels]
    exact functionValue_makeChannels _ _ _ (Nat.lt_trans hfunction (by decide)) _
  rw [Backed, processInput_markedValid]
  constructor
  · intro hbacked hmarked function hfunction
    obtain ⟨_, -, -, hall⟩ := hbacked hmarked function hfunction
    by_contra hmissing
    have hbeyond : ¬ (u.config.functionChannel function).toNat < received input :=
      fun h => hmissing (Nat.lt_of_lt_of_le h (Nat.min_le_right _ _))
    have hzero := hall 0
    have hone := hall 1
    rw [hvalue function hfunction, if_neg hbeyond] at hzero hone
    exact absurd (hzero.trans hone.symm) (by decide)
  · intro hmapped hmarked function hfunction
    have hcount := hmapped hmarked function hfunction
    have hreceived : (u.config.functionChannel function).toNat < received input :=
      Nat.lt_min.mpr ⟨stick_mapped hmarked.calibrated hfunction, hcount⟩
    refine ⟨_, hcount, ?_, fun defaultValue => ?_⟩
    · rw [processInput_stick u input now bus hfunction, hvalue function hfunction, if_pos hreceived]
    · rw [processInput_stick u input now bus hfunction, hvalue function hfunction,
        hvalue function hfunction, if_pos hreceived, if_pos hreceived]

/-! A receiver with eight channels, while `RC_MAP_THROTTLE`, parameter 80, is set to 9. -/

def ninthThrottle : ParamTable := (({} : ParamManager).buildParamDefinitions.setInt 80 9 1000).1.table

def eightChannels : InputRc :=
  { timestamp := 1000, timestampLastSignal := 1000, values := Vector.replicate 16 1500
    channelCount := 8 }

/-- The module after three such messages. -/
def eightChannelsUpdate : RcUpdate :=
  [1, 2, 3].foldl (fun u generation => (u.Run ninthThrottle 1000 {
    inputRc := ⟨eightChannels, generation, true⟩ }).1) ((construct ninthThrottle).initWorkQueue 500)

/-- The next message is marked valid, and its throttle is the fallback. -/
theorem fallback_marked_valid : ¬ eightChannelsUpdate.Backed eightChannels 2000 {} := by
  have hvalid : (eightChannelsUpdate.processInput eightChannels 2000 {}).2.manualControl.message.valid =
      true := by decide +kernel
  intro hbacked
  obtain ⟨_, -, -, hall⟩ := hbacked hvalid RcChannels.FUNCTION_THROTTLE (by decide)
  have hvalue : ∀ defaultValue, functionValue
      (eightChannelsUpdate.processInput eightChannels 2000 {}).2.rcChannels.message
      RcChannels.FUNCTION_THROTTLE defaultValue = defaultValue := by
    intro defaultValue
    rw [processInput_channels, functionValue_makeChannels _ _ _ (by decide), if_neg (by decide +kernel)]
  have hzero := (hvalue 0).symm.trans (hall 0)
  have hone := (hvalue 1).symm.trans (hall 1)
  exact absurd (hzero.trans hone.symm) (by decide)

end RcUpdate

end DualMagneticWheel
