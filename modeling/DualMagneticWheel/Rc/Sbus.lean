/-
# DualMagneticWheel.Rc.Sbus — the receiver's byte decoder

`SbusDecoder` collects bytes from `0x0f` on in a buffer of 25. A full buffer with an accepted end byte is
decoded into sixteen channels and two link flags; any other is searched for the next `0x0f`, which
becomes the front of the buffer. Byte times are ignored.

`feed_refines` says what this is: the framer of `Foundation.Framing` with windows of 25 bytes, whose
pending window is the filled part of the buffer.
-/
import DualMagneticWheel.Foundation.Framing
import DualMagneticWheel.Foundation.Loop

namespace DualMagneticWheel

open Foundation

/-- `SbusFrame`. -/
structure SbusFrame where
  values : Vector UInt16 16 := Vector.replicate 16 0
  channelCount : UInt8 := 0
  failsafe : Bool := false
  frameLost : Bool := false
  deriving DecidableEq

/-- The fields of class `SbusDecoder`. -/
structure SbusDecoder where
  buffer : Vector UInt8 25 := Vector.replicate 25 0
  count : Nat := 0
  totalFrames : UInt32 := 0
  invalidFrames : UInt32 := 0
  receiverLostFrames : UInt32 := 0

namespace SbusDecoder

/-- `SbusDecoder::reset`, which is also what the constructor does. -/
def reset : SbusDecoder := {}

def SbusStartByte : UInt8 := 0x0f
def SbusFlagsIndex : Nat := 23
def SbusFrameLostMask : UInt8 := (1 : UInt8) <<< 2
def SbusFailsafeMask : UInt8 := (1 : UInt8) <<< 3
def FrameSize : Nat := 25

def validEndByte (value : UInt8) : Bool :=
  value == 0x00 || value == 0x04 || value == 0x14 || value == 0x24 || value == 0x34

def sbusRawToPwm (rawValue : UInt16) : UInt16 :=
  ((rawValue.toUInt32 * 5 + 4) / 8 + 875).toUInt16

/-- The eleven bits of a channel, out of three neighbouring bytes. -/
def rawValue (buffer : Vector UInt8 25) (channel : Nat) : UInt16 :=
  let bitIndex := channel * 11
  let byteIndex := 1 + bitIndex / 8
  let bitOffset := bitIndex % 8
  let packed := (buffer.getD byteIndex 0).toUInt32 |||
    ((buffer.getD (byteIndex + 1) 0).toUInt32 <<< 8) |||
    ((buffer.getD (byteIndex + 2) 0).toUInt32 <<< 16)
  ((packed >>> UInt32.ofNat bitOffset) &&& 0x07ff).toUInt16

/-- The channels and flags of a full buffer, written over `frame`. -/
def decodeChannels (buffer : Vector UInt8 25) (frame : SbusFrame) : SbusFrame :=
  { values := forRange 16
      (fun values channel => values.setIfInBounds channel (sbusRawToPwm (rawValue buffer channel)))
      frame.values
    channelCount := 16
    frameLost := (buffer.getD SbusFlagsIndex 0 &&& SbusFrameLostMask) != 0
    failsafe := (buffer.getD SbusFlagsIndex 0 &&& SbusFailsafeMask) != 0 }

/-- `SbusDecoder::decode`: the frame and the return value. -/
def decode (d : SbusDecoder) (frame : SbusFrame) : SbusFrame × Bool :=
  if d.buffer.getD 0 0 != SbusStartByte || !validEndByte (d.buffer.getD 24 0) then (frame, false)
  else (decodeChannels d.buffer frame, true)

/-- `memmove(buffer, &buffer[nextStart], count)`. -/
def memmove (buffer : Vector UInt8 25) (nextStart count : Nat) : Vector UInt8 25 :=
  Vector.ofFn fun i =>
    if i.val < count then buffer.getD (nextStart + i.val) 0 else buffer.getD i.val 0

/-- `SbusDecoder::recoverAfterInvalidFrame`. -/
def recoverAfterInvalidFrame (d : SbusDecoder) : SbusDecoder :=
  let nextStart :=
    ((List.range' 1 (FrameSize - 1)).find? fun index =>
      d.buffer.getD index 0 == SbusStartByte).getD FrameSize
  if nextStart = FrameSize then { d with count := 0 }
  else
    { d with
      count := FrameSize - nextStart
      buffer := memmove d.buffer nextStart (FrameSize - nextStart) }

/-- `SbusDecoder::feed`: the decoder, the caller's frame and the return value. -/
def feed (d : SbusDecoder) (byte : UInt8) (_timestampMicroseconds : UInt64) (frame : SbusFrame) :
    SbusDecoder × SbusFrame × Bool :=
  if d.count = 0 then
    if byte != SbusStartByte then (d, frame, false)
    else ({ d with buffer := d.buffer.setIfInBounds d.count byte, count := d.count + 1 }, frame, false)
  else
    let d := { d with buffer := d.buffer.setIfInBounds d.count byte, count := d.count + 1 }
    if d.count < FrameSize then (d, frame, false)
    else
      let (frame, decoded) := d.decode frame
      if !decoded then
        (recoverAfterInvalidFrame { d with invalidFrames := d.invalidFrames + 1 }, frame, false)
      else
        ({ d with
            count := 0
            totalFrames := d.totalFrames + 1
            receiverLostFrames :=
              if frame.frameLost then d.receiverLostFrames + 1 else d.receiverLostFrames },
          frame, true)

/-- `SbusDecoder::droppedFrames`. -/
def droppedFrames (d : SbusDecoder) : UInt32 := d.invalidFrames + d.receiverLostFrames

/-- Bytes with their times, and what each call returned: the frame if it returned true. -/
def feedAll : SbusDecoder → SbusFrame → List (UInt8 × UInt64) → List (Option SbusFrame)
  | _, _, [] => []
  | d, frame, (byte, time) :: calls =>
      let (next, frame, decoded) := d.feed byte time frame
      (if decoded then some frame else none) :: feedAll next frame calls

/-! ## The decoder as a framer -/

/-- The frame format. -/
def framing : Framing UInt8 where
  size := FrameSize
  isStart byte := byte == SbusStartByte
  isEnd := validEndByte
  one_lt_size := by decide

@[simp] theorem framing_size : framing.size = FrameSize := rfl

/-- What 25 bytes say. -/
def decodedFrame (buffer : Vector UInt8 25) : SbusFrame := decodeChannels buffer {}

/-- Every field of the frame is written. -/
theorem decodeChannels_eq (buffer : Vector UInt8 25) (frame : SbusFrame) :
    decodeChannels buffer frame = decodedFrame buffer := by
  rw [decodedFrame, decodeChannels, decodeChannels, SbusFrame.mk.injEq]
  refine ⟨?_, rfl, rfl, rfl⟩
  apply ext_getD 0
  intro i hi
  rw [getD_forRange_set, getD_forRange_set, if_pos ⟨hi, hi⟩, if_pos ⟨hi, hi⟩]

/-- The filled part of the buffer is a window that has not filled up and begins with a start byte. -/
structure Holds (d : SbusDecoder) (pending : List UInt8) : Prop where
  filled : d.buffer.toList.take d.count = pending
  count : d.count = pending.length
  short : pending.length < FrameSize
  start : ∀ byte ∈ pending.head?, byte = SbusStartByte

theorem holds_reset : Holds reset [] where
  filled := rfl
  count := rfl
  short := by decide
  start := by
    intro byte hbyte
    cases hbyte

/-- A window as a buffer. -/
def windowBuffer (window : List UInt8) : Vector UInt8 25 := Vector.ofFn fun i => window.getD i 0

/-- The call's return value, and the frame it wrote. -/
def reported (result : SbusDecoder × SbusFrame × Bool) : Option SbusFrame :=
  if result.2.2 then some result.2.1 else none

/-- The front of the buffer after `memmove`. -/
theorem take_memmove (buffer : Vector UInt8 25) {nextStart : Nat} (h : nextStart ≤ FrameSize) :
    (memmove buffer nextStart (FrameSize - nextStart)).toList.take (FrameSize - nextStart) =
      buffer.toList.drop nextStart := by
  have hsize : FrameSize = 25 := rfl
  apply List.ext_getElem
  · simp only [List.length_take, List.length_drop, Vector.length_toList]
    omega
  · intro i hi _
    rw [List.length_take, Nat.lt_min] at hi
    have hin : nextStart + i < 25 := by omega
    simp [memmove, hi.1, Vector.getD, hin]

/-- Recovery keeps what follows the next start byte. -/
theorem holds_recover (d : SbusDecoder) :
    Holds d.recoverAfterInvalidFrame (framing.resync d.buffer.toList.tail) := by
  have hsize : d.buffer.toList.length = 25 := by simp
  have hfind := dropWhile_eq_find? (fun byte => byte == SbusStartByte) 0 d.buffer.toList
    d.buffer.toList.tail 1 (List.drop_one)
  have hresync : framing.resync d.buffer.toList.tail =
      d.buffer.toList.tail.dropWhile fun byte => !(byte == SbusStartByte) := rfl
  rw [List.length_tail, hsize, ← hresync] at hfind
  simp only [← getD_toList] at hfind
  rw [recoverAfterInvalidFrame, hfind, FrameSize]
  cases hcase : (List.range' 1 (25 - 1)).find? fun i => d.buffer.getD i 0 == SbusStartByte with
  | none =>
      simp only [Option.getD_none, if_pos]
      exact ⟨by simp, rfl, by decide, by intro byte hbyte; cases hbyte⟩
  | some nextStart =>
      obtain ⟨hstart, hmem⟩ := And.intro (List.find?_some hcase) (List.mem_of_find?_eq_some hcase)
      rw [List.mem_range'_1] at hmem
      simp only [Option.getD_some, if_neg (show nextStart ≠ 25 by omega)]
      refine ⟨take_memmove d.buffer (show nextStart ≤ 25 by omega), ?_, ?_, ?_⟩
      · rw [List.length_drop, hsize]
      · rw [List.length_drop, hsize, FrameSize]
        omega
      · intro byte hbyte
        rw [List.head?_drop] at hbyte
        rw [getD_toList, List.getD_eq_getElem?_getD, Option.mem_def.mp hbyte] at hstart
        simpa using hstart

/-- One byte: the decoder does what the framer does, and decodes the window the framer reports. -/
theorem feed_refines {d : SbusDecoder} {pending : List UInt8} (h : Holds d pending) (byte : UInt8)
    (time : UInt64) (frame : SbusFrame) :
    Holds (d.feed byte time frame).1 (framing.push pending byte).1 ∧
      reported (d.feed byte time frame) =
        (framing.push pending byte).2.map fun window => decodedFrame (windowBuffer window) := by
  obtain ⟨hfilled, hcount, hshort, hstart⟩ := h
  have hsize : FrameSize = 25 := rfl
  have hstored := take_setIfInBounds d.buffer d.count byte (by omega)
  rw [hfilled] at hstored
  rw [feed, Framing.push]
  by_cases hnil : pending = []
  · -- waiting for a start byte
    subst hnil
    have hzero : d.count = 0 := hcount
    rw [if_pos hzero, if_pos rfl]
    by_cases hbyte : byte = SbusStartByte
    · have hframing : framing.isStart byte = true := by simpa [framing] using hbyte
      rw [if_neg (by simpa using hbyte), if_pos hframing]
      refine ⟨⟨hstored, ?_, ?_, ?_⟩, rfl⟩
      · simp [hzero]
      · simp [FrameSize]
      · simpa using hbyte
    · have hframing : framing.isStart byte = false := by simpa [framing] using hbyte
      rw [if_pos (by simpa using hbyte), hframing]
      exact ⟨⟨hfilled, hcount, hshort, hstart⟩, rfl⟩
  · have hpos := List.length_pos_of_ne_nil hnil
    have hhead : ∀ x ∈ (pending ++ [byte]).head?, x = SbusStartByte := by
      intro x hx
      rw [List.head?_append_of_ne_nil _ hnil] at hx
      exact hstart x hx
    rw [if_neg (by omega), if_neg hnil]
    simp only [List.length_append, List.length_singleton, framing_size]
    by_cases hlt : pending.length + 1 < FrameSize
    · -- one more byte of a window that is not full
      rw [if_pos (by omega), if_pos hlt]
      exact ⟨⟨hstored, by simp [hcount], by simpa using hlt, hhead⟩, rfl⟩
    · -- the buffer is full
      have hfull : d.count + 1 = 25 := by omega
      have hwindow : (d.buffer.setIfInBounds d.count byte).toList = pending ++ [byte] := by
        rw [← hstored, hfull, List.take_of_length_le (by simp)]
      have hfirst : (d.buffer.setIfInBounds d.count byte).getD 0 0 = SbusStartByte := by
        rw [getD_toList, hwindow]
        cases pending with
        | nil => exact absurd rfl hnil
        | cons x xs => exact hhead x (by simp)
      have hlast : (d.buffer.setIfInBounds d.count byte).getD 24 0 = byte := by
        rw [show (24 : Nat) = d.count by omega, getD_setIfInBounds, if_pos ⟨rfl, by omega⟩]
      have hbuffer : windowBuffer (pending ++ [byte]) = d.buffer.setIfInBounds d.count byte := by
        rw [windowBuffer, ← hwindow, ofFn_toList]
      rw [if_neg (by omega), if_neg hlt]
      simp only [decode, hfirst, hlast, bne_self_eq_false, Bool.false_or]
      by_cases hend : validEndByte byte = true
      · have hframing : framing.isEnd byte = true := hend
        rw [if_pos hframing]
        simp only [hend, Bool.not_true, Bool.false_eq_true, if_false]
        refine ⟨⟨by simp, rfl, by decide, by intro x hx; cases hx⟩, ?_⟩
        simp [reported, decodeChannels_eq, hbuffer]
      · have hframing : framing.isEnd byte = false := by simpa [framing] using hend
        rw [hframing]
        simp only [hend, Bool.not_false, if_true, Bool.false_eq_true, if_false]
        refine ⟨?_, rfl⟩
        rw [← hwindow]
        exact holds_recover _

/-- All bytes: the decoder's reports are the framer's, decoded. -/
theorem feedAll_refines {d : SbusDecoder} {pending : List UInt8} (h : Holds d pending)
    (frame : SbusFrame) (calls : List (UInt8 × UInt64)) :
    d.feedAll frame calls = (framing.feed pending (calls.map Prod.fst)).2.map
      (Option.map fun window => decodedFrame (windowBuffer window)) := by
  induction calls generalizing d pending frame with
  | nil => rfl
  | cons call calls ih =>
      obtain ⟨hnext, hreport⟩ := feed_refines h call.1 call.2 frame
      rw [feedAll, List.map_cons, Framing.feed, List.map_cons, ← hreport, ← ih hnext]
      rfl

end SbusDecoder

end DualMagneticWheel
