/-
# DualMagneticWheel.Rc.SbusCodec — what the receiver sends and what the decoder makes of it

A frame carries sixteen values of eleven bits: the payload is one string of 176 bits, lowest bit first,
and a value may begin at any bit of a byte. `encodeChannel` is the encoder of the decoder's test. Its loop
sets payload bit `11·ch + b` for bit `b` of channel `ch` and nothing else (`payloadBit_encodeChannel`), and
the decoder reads three bytes and cuts the same bits out (`testBit_rawValue`), the last channel's third
byte being the flags.

Every frame that is encoded is well formed, so the framer reports each at its own last byte, whatever
bytes the payload contains (`decode_undoes_encode`).
-/
import DualMagneticWheel.Foundation.Bits
import DualMagneticWheel.Rc.SbusScan
import DualMagneticWheel.Rc.SbusSync

namespace DualMagneticWheel

open Foundation

/-! ## The encoder -/

/-- What a frame says. -/
structure SbusContents where
  channels : Vector (Fin 2048) 16
  flags : UInt8
  endByte : UInt8
  accepted : SbusDecoder.validEndByte endByte = true

namespace SbusContents

/-- One turn of the loop over the bits of a channel. -/
def setPayloadBit (channel : Nat) (value : UInt16) (frame : Vector UInt8 25) (bit : Nat) :
    Vector UInt8 25 :=
  if (value &&& ((1 : UInt16) <<< UInt16.ofNat bit)) != 0 then
    let payloadBit := channel * 11 + bit
    frame.setIfInBounds (1 + payloadBit / 8)
      (frame.getD (1 + payloadBit / 8) 0 ||| ((1 : UInt8) <<< UInt8.ofNat (payloadBit % 8)))
  else frame

/-- `encodeChannel`. -/
def encodeChannel (frame : Vector UInt8 25) (channel : Nat) (value : UInt16) : Vector UInt8 25 :=
  forRange 11 (setPayloadBit channel value) frame

/-- The frame before its channels are written. -/
def envelope (c : SbusContents) : Vector UInt8 25 :=
  (((Vector.replicate 25 (0 : UInt8)).setIfInBounds 0 0x0f).setIfInBounds 23 c.flags).setIfInBounds
    24 c.endByte

/-- The raw value of a channel. -/
def raw (c : SbusContents) (channel : Nat) : Nat := (c.channels.getD channel 0).val

/-- The 25 bytes. -/
def encode (c : SbusContents) : Vector UInt8 25 :=
  forRange 16 (fun frame channel => encodeChannel frame channel (UInt16.ofNat (c.raw channel)))
    c.envelope

/-- The frame that a receiver should report. -/
def decoded (c : SbusContents) : SbusFrame where
  values := Vector.ofFn fun channel => UInt16.ofNat ((5 * c.raw channel + 4) / 8 + 875)
  channelCount := 16
  frameLost := c.flags.toNat.testBit 2
  failsafe := c.flags.toNat.testBit 3

/-! ## The bits of the payload -/

/-- Payload bit `p` of a frame. -/
def payloadBit (frame : Vector UInt8 25) (p : Nat) : Bool :=
  (frame.getD (1 + p / 8) 0).toNat.testBit (p % 8)

theorem and_one_shiftLeft (value : UInt16) {bit : Nat} (h : bit < 16) :
    ((value &&& ((1 : UInt16) <<< UInt16.ofNat bit)) != 0) = value.toNat.testBit bit := by
  have hbit : (UInt16.ofNat bit).toNat % 16 = bit := by
    rw [UInt16.toNat_ofNat']
    omega
  have hmask : ((1 : UInt16) <<< UInt16.ofNat bit).toNat = 2 ^ bit := by
    rw [UInt16.toNat_shiftLeft, hbit, UInt16.toNat_one, Nat.one_shiftLeft]
    exact Nat.mod_eq_of_lt (Nat.pow_lt_pow_right (by omega) h)
  have hzero : (value &&& ((1 : UInt16) <<< UInt16.ofNat bit)) = 0 ↔
      value.toNat &&& 2 ^ bit = 0 := by
    rw [← UInt16.toNat_inj, UInt16.toNat_and, hmask]
    rfl
  apply Bool.eq_iff_iff.mpr
  rw [bne_iff_ne, Ne, hzero]
  exact and_two_pow_ne_zero value.toNat bit

/-- The turn for one bit of a value sets one bit of the payload, and only where the value has it. -/
theorem payloadBit_setPayloadBit {channel bit : Nat} (hchannel : channel < 16) (hbit : bit < 11)
    (value : UInt16) (frame : Vector UInt8 25) (p : Nat) :
    payloadBit (setPayloadBit channel value frame bit) p =
      (payloadBit frame p || (decide (channel * 11 + bit = p) && value.toNat.testBit bit)) := by
  unfold setPayloadBit
  rw [and_one_shiftLeft value (by omega)]
  cases value.toNat.testBit bit with
  | false => simp
  | true =>
      rw [if_pos rfl, Bool.and_true]
      unfold payloadBit
      dsimp only
      rw [getD_setIfInBounds]
      by_cases hbyte : (channel * 11 + bit) / 8 = p / 8
      · rw [if_pos ⟨by omega, by omega⟩, testBit_setBit _ (Nat.mod_lt _ (by decide)), hbyte]
        have hiff : (channel * 11 + bit) % 8 = p % 8 ↔ channel * 11 + bit = p := by omega
        rw [decide_eq_decide.mpr hiff]
      · rw [if_neg (by omega), decide_eq_false (by omega), Bool.or_false]

theorem getD_setPayloadBit {channel bit : Nat} (hchannel : channel < 16) (hbit : bit < 11)
    (value : UInt16) (frame : Vector UInt8 25) {i : Nat} (h : i = 0 ∨ 23 ≤ i) :
    (setPayloadBit channel value frame bit).getD i 0 = frame.getD i 0 := by
  unfold setPayloadBit
  split
  · dsimp only
    rw [getD_setIfInBounds, if_neg (by omega)]
  · rfl

/-- The bits of one channel after some turns of its loop. -/
theorem payloadBit_loop {channel : Nat} (hchannel : channel < 16) (value : UInt16)
    (frame : Vector UInt8 25) (p : Nat) {n : Nat} (hn : n ≤ 11) :
    payloadBit (forRange n (setPayloadBit channel value) frame) p =
      (payloadBit frame p || (decide (channel * 11 ≤ p ∧ p < channel * 11 + n) &&
        value.toNat.testBit (p - channel * 11))) := by
  induction n with
  | zero => simp [show ¬ (channel * 11 ≤ p ∧ p < channel * 11) by omega]
  | succ n ih =>
      rw [forRange_succ, payloadBit_setPayloadBit hchannel (by omega), ih (by omega)]
      by_cases hp : channel * 11 + n = p
      · rw [decide_eq_false (show ¬ (channel * 11 ≤ p ∧ p < channel * 11 + n) by omega),
          decide_eq_true hp, decide_eq_true (show channel * 11 ≤ p ∧ p < channel * 11 + (n + 1) by omega),
          show p - channel * 11 = n by omega]
        simp
      · have hiff : (channel * 11 ≤ p ∧ p < channel * 11 + n) ↔
            channel * 11 ≤ p ∧ p < channel * 11 + (n + 1) := by omega
        simp only [decide_eq_false hp, hiff, Bool.false_and, Bool.or_false]

theorem payloadBit_encodeChannel {channel : Nat} (hchannel : channel < 16) (value : UInt16)
    (frame : Vector UInt8 25) (p : Nat) :
    payloadBit (encodeChannel frame channel value) p =
      (payloadBit frame p || (decide (p / 11 = channel) && value.toNat.testBit (p % 11))) := by
  rw [encodeChannel, payloadBit_loop hchannel value frame p (Nat.le_refl 11)]
  by_cases hp : p / 11 = channel
  · rw [decide_eq_true hp, decide_eq_true (show channel * 11 ≤ p ∧ p < channel * 11 + 11 by omega),
      show p - channel * 11 = p % 11 by omega]
  · rw [decide_eq_false hp,
      decide_eq_false (show ¬ (channel * 11 ≤ p ∧ p < channel * 11 + 11) by omega)]
    rfl

theorem getD_encodeChannel {channel : Nat} (hchannel : channel < 16) (value : UInt16)
    (frame : Vector UInt8 25) {i : Nat} (h : i = 0 ∨ 23 ≤ i) :
    (encodeChannel frame channel value).getD i 0 = frame.getD i 0 := by
  refine forRange_invariant (fun _ (t : Vector UInt8 25) => t.getD i 0 = frame.getD i 0) rfl ?_
  intro bit t hbit ht
  rw [getD_setPayloadBit hchannel hbit value t h, ht]

/-- The bytes around the payload. -/
theorem getD_encode (c : SbusContents) {i : Nat} (h : i = 0 ∨ 23 ≤ i) :
    c.encode.getD i 0 = c.envelope.getD i 0 := by
  refine forRange_invariant (fun _ (t : Vector UInt8 25) => t.getD i 0 = c.envelope.getD i 0) rfl ?_
  intro channel t hchannel ht
  rw [getD_encodeChannel hchannel _ t h, ht]

/-- The payload is empty before the channels are written. -/
theorem payloadBit_envelope (c : SbusContents) {p : Nat} (h : p < 176) :
    payloadBit c.envelope p = false := by
  unfold payloadBit envelope
  rw [getD_setIfInBounds, if_neg (by omega), getD_setIfInBounds, if_neg (by omega),
    getD_setIfInBounds, if_neg (by omega), getD_replicate]
  exact Nat.zero_testBit _

/-- The payload is the string of the channels' bits. -/
theorem payloadBit_encode (c : SbusContents) {p : Nat} (h : p < 176) :
    payloadBit c.encode p = (c.raw (p / 11)).testBit (p % 11) := by
  have hloop : ∀ n ≤ 16, payloadBit (forRange n (fun frame channel =>
      encodeChannel frame channel (UInt16.ofNat (c.raw channel))) c.envelope) p =
        (decide (p / 11 < n) && (c.raw (p / 11)).testBit (p % 11)) := by
    intro n hn
    induction n with
    | zero => exact (payloadBit_envelope c h).trans (by simp)
    | succ n ih =>
        rw [forRange_succ, payloadBit_encodeChannel (by omega), ih (by omega)]
        by_cases hp : p / 11 = n
        · have hraw : (UInt16.ofNat (c.raw n)).toNat = c.raw n := by
            have hlt := (c.channels.getD n 0).isLt
            rw [UInt16.toNat_ofNat']
            exact Nat.mod_eq_of_lt (Nat.lt_trans hlt (by decide))
          rw [hp, hraw, decide_eq_false (Nat.lt_irrefl n), decide_eq_true (Nat.lt_succ_self n)]
          simp
        · have hiff : p / 11 < n ↔ p / 11 < n + 1 := by omega
          simp only [decide_eq_false hp, hiff, Bool.false_and, Bool.or_false]
  have hall := hloop 16 (Nat.le_refl 16)
  rw [decide_eq_true (show p / 11 < 16 by omega), Bool.true_and] at hall
  exact hall

/-! ## The decoder reads them back -/

/-- The raw value that the decoder cuts out of the buffer is eleven bits of the payload. -/
theorem testBit_rawValue (buffer : Vector UInt8 25) {channel : Nat} (bit : Nat) :
    (SbusDecoder.rawValue buffer channel).toNat.testBit bit =
      (decide (bit < 11) && payloadBit buffer (channel * 11 + bit)) := by
  unfold SbusDecoder.rawValue
  dsimp only
  rw [testBit_field _ (by omega) (show 11 ≤ 16 by decide) 0x07ff rfl]
  by_cases hbit : bit < 11
  · rw [decide_eq_true hbit, Bool.true_and, Bool.true_and,
      testBit_threeBytes _ _ _ (show channel * 11 % 8 + bit < 24 by omega)]
    -- the bit is in the first, second or third byte that is read
    unfold payloadBit
    have hmod : (channel * 11 % 8 + bit) % 8 = (channel * 11 + bit) % 8 := by omega
    rw [hmod]
    split
    · rw [show (channel * 11 + bit) / 8 = channel * 11 / 8 by omega]
    · split
      · rw [show 1 + (channel * 11 + bit) / 8 = 1 + channel * 11 / 8 + 1 by omega]
      · rw [show 1 + (channel * 11 + bit) / 8 = 1 + channel * 11 / 8 + 2 by omega]
  · rw [decide_eq_false hbit, Bool.false_and, Bool.false_and]

theorem raw_lt (c : SbusContents) (channel : Nat) : c.raw channel < 2048 :=
  (c.channels.getD channel 0).isLt

/-- The decoder gets every raw value back. -/
theorem rawValue_encode (c : SbusContents) {channel : Nat} (h : channel < 16) :
    (SbusDecoder.rawValue c.encode channel).toNat = c.raw channel := by
  apply Nat.eq_of_testBit_eq
  intro bit
  rw [testBit_rawValue]
  by_cases hbit : bit < 11
  · rw [decide_eq_true hbit, Bool.true_and, payloadBit_encode c (by omega)]
    rw [show (channel * 11 + bit) / 11 = channel by omega, show (channel * 11 + bit) % 11 = bit by omega]
  · have hhigh : (c.raw channel).testBit bit = false := by
      apply Nat.testBit_lt_two_pow
      exact Nat.lt_of_lt_of_le (c.raw_lt channel)
        (Nat.pow_le_pow_right (show 0 < 2 by decide) (show 11 ≤ bit by omega))
    rw [decide_eq_false hbit, hhigh]
    rfl

/-- The conversion of an eleven-bit value neither wraps nor rounds twice. -/
theorem sbusRawToPwm_toNat {value : UInt16} (h : value.toNat < 2048) :
    (SbusDecoder.sbusRawToPwm value).toNat = (5 * value.toNat + 4) / 8 + 875 := by
  have hproduct : (value.toUInt32 * 5 + 4).toNat = 5 * value.toNat + 4 := by
    rw [UInt32.toNat_add, UInt32.toNat_mul, UInt16.toNat_toUInt32]
    show (value.toNat * 5 % 2 ^ 32 + 4) % 2 ^ 32 = _
    omega
  unfold SbusDecoder.sbusRawToPwm
  rw [UInt32.toNat_toUInt16, UInt32.toNat_add, UInt32.toNat_div, hproduct]
  show ((5 * value.toNat + 4) / 8 + 875) % 2 ^ 32 % 2 ^ 16 = _
  omega

theorem decoded_value (c : SbusContents) {channel : Nat} (h : channel < 16) :
    (c.decoded.values.getD channel 0).toNat = (5 * c.raw channel + 4) / 8 + 875 := by
  have hlt := c.raw_lt channel
  rw [getD_eq, decoded, Vector.getElem?_ofFn, dif_pos h, Option.getD_some, UInt16.toNat_ofNat']
  dsimp only
  omega

/-- Decoding undoes encoding. -/
theorem decodedFrame_encode (c : SbusContents) : SbusDecoder.decodedFrame c.encode = c.decoded := by
  have hflags : c.encode.getD SbusDecoder.SbusFlagsIndex 0 = c.flags := by
    show c.encode.getD 23 0 = c.flags
    rw [getD_encode c (Or.inr (Nat.le_refl 23)), envelope, getD_setIfInBounds, if_neg (by decide),
      getD_setIfInBounds, if_pos (by decide)]
  rw [SbusDecoder.decodedFrame, SbusDecoder.decodeChannels, hflags,
    byte_and_bne_zero c.flags (m := SbusDecoder.SbusFrameLostMask) (i := 2) rfl,
    byte_and_bne_zero c.flags (m := SbusDecoder.SbusFailsafeMask) (i := 3) rfl, decoded,
    SbusFrame.mk.injEq]
  refine ⟨?_, rfl, rfl, rfl⟩
  apply ext_getD 0
  intro channel h
  rw [getD_forRange_set, if_pos ⟨h, h⟩]
  apply UInt16.toNat_inj.mp
  have hraw := c.rawValue_encode h
  rw [sbusRawToPwm_toNat (hraw ▸ c.raw_lt channel), hraw]
  exact (c.decoded_value h).symm

/-- The frame on the wire. -/
def transmitted (c : SbusContents) : TransmittedFrame where
  bytes := c.encode
  start := by
    rw [getD_encode c (Or.inl rfl), envelope, getD_setIfInBounds, if_neg (by decide),
      getD_setIfInBounds, if_neg (by decide), getD_setIfInBounds, if_pos (by decide)]
    rfl
  finish := by
    rw [getD_encode c (Or.inr (by decide)), envelope, getD_setIfInBounds, if_pos (by decide)]
    exact c.accepted

/-- The bytes of several frames. -/
def stream (frames : List SbusContents) : List UInt8 := frames.flatMap fun c => c.encode.toList

/-- The calls that feed some bytes. -/
def calls (bytes : List UInt8) (time : Nat → UInt64) (frame : Nat → SbusFrame) : List FeedCall :=
  bytes.mapIdx fun i byte => { byte, timestampMicroseconds := time i, frame := frame i }

theorem calls_bytes (bytes : List UInt8) (time : Nat → UInt64) (frame : Nat → SbusFrame) :
    (calls bytes time frame).map (·.byte) = bytes := by
  apply List.ext_getElem?
  intro i
  rw [List.getElem?_map, calls, List.getElem?_mapIdx, Option.map_map]
  exact Option.map_id'

theorem stream_eq (frames : List SbusContents) :
    stream frames = ((frames.map transmitted).map fun f => f.bytes.toList).flatten := by
  rw [stream, List.flatMap_def, List.map_map]
  rfl

/-- For every list of frames, however the bytes are timed and whatever the caller's frames hold: the
decoder returns true at each 25th byte and nowhere else, with the frame that was encoded, and counts no
invalid frame. -/
theorem decode_undoes_encode (frames : List SbusContents) (time : Nat → UInt64)
    (frame : Nat → SbusFrame) :
    let result := SbusDecoder.reset.feedCalls (calls (stream frames) time frame)
    result.2 = frames.flatMap (fun c => List.replicate 24 none ++ [some c.decoded]) ∧
      result.1.invalidFrames = 0 ∧
      ∀ c ∈ frames, ∀ channel < 16,
        (c.decoded.values.getD channel 0).toNat = (5 * c.raw channel + 4) / 8 + 875 := by
  intro result
  have hwell : ∀ bytes ∈ (frames.map transmitted).map (fun f => f.bytes.toList),
      SbusDecoder.framing.WellFormed bytes := by
    intro bytes hmem
    obtain ⟨f, -, rfl⟩ := List.mem_map.mp hmem
    exact f.wellFormed
  obtain ⟨hfollows, hresults⟩ :=
    SbusDecoder.follows_reset.feedCalls (calls (stream frames) time frame)
  have hinvalid := hfollows.invalid
  have hbytes := (calls_bytes (stream frames) time frame).trans (stream_eq frames)
  rw [hbytes, Framing.rejections_frames hwell] at hinvalid
  rw [hbytes, Framing.feed_frames hwell, TransmittedFrame.ownReports_decoded,
    TransmittedFrame.ownReports, List.flatMap_map] at hresults
  refine ⟨hresults.trans ?_, hinvalid, fun c _ channel h => c.decoded_value h⟩
  simp only [transmitted, decodedFrame_encode]

end SbusContents

end DualMagneticWheel
