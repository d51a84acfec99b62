/-
# DualMagneticWheel.Rc.SbusScan — the decoder against a scan of the whole stream

The decoder sees one byte per call and shifts its buffer when a frame turns out to be wrong. Whatever the
bytes and however the calls are grouped, it reports the windows that the scanner of `Foundation.Scanner`
finds with the whole stream at hand, its three counters are the scanner's modulo `2^32`, and what it has in
its buffer is the end of the stream that the scanner waits with (`streaming_eq_batch`).

The second half checks every access: `feed?` stops where an index would leave the buffer, and does not stop
in a state that the decoder can be in.
-/
import DualMagneticWheel.Foundation.Scanner
import DualMagneticWheel.Rc.Sbus
import Mathlib.Data.List.ReduceOption

namespace DualMagneticWheel

open Foundation

/-- A call of `SbusDecoder::feed`, with the caller's frame. -/
structure FeedCall where
  byte : UInt8
  timestampMicroseconds : UInt64 := 0
  frame : SbusFrame := {}

namespace SbusDecoder

/-- One call after another, and what each reports. -/
def feedCalls : SbusDecoder → List FeedCall → SbusDecoder × List (Option SbusFrame)
  | d, [] => (d, [])
  | d, call :: calls =>
      let result := d.feed call.byte call.timestampMicroseconds call.frame
      let later := feedCalls result.1 calls
      (later.1, reported result :: later.2)

/-- The calls in groups, one group for each read of the serial port. -/
def feedBursts : SbusDecoder → List (List FeedCall) → SbusDecoder × List (Option SbusFrame)
  | d, [] => (d, [])
  | d, burst :: bursts =>
      let first := d.feedCalls burst
      let later := feedBursts first.1 bursts
      (later.1, first.2 ++ later.2)

theorem feedCalls_append (d : SbusDecoder) (calls later : List FeedCall) :
    d.feedCalls (calls ++ later) =
      (((d.feedCalls calls).1.feedCalls later).1,
        (d.feedCalls calls).2 ++ ((d.feedCalls calls).1.feedCalls later).2) := by
  induction calls generalizing d with
  | nil => rfl
  | cons call calls ih => simp only [List.cons_append, feedCalls, ih]

/-- The grouping makes no difference. -/
theorem feedBursts_eq (d : SbusDecoder) (bursts : List (List FeedCall)) :
    d.feedBursts bursts = d.feedCalls bursts.flatten := by
  induction bursts generalizing d with
  | nil => rfl
  | cons burst bursts ih => rw [feedBursts, List.flatten_cons, feedCalls_append, ih]

/-! ## The counters -/

/-- The buffer was full with the byte, and no frame came of it. -/
def gaveUp (d : SbusDecoder) (byte : UInt8) (time : UInt64) (frame : SbusFrame) : Bool :=
  decide (d.count ≠ 0) && decide (FrameSize ≤ d.count + 1) &&
    (reported (d.feed byte time frame)).isNone

/-- Each call counts what it reports. -/
theorem feed_counters (d : SbusDecoder) (byte : UInt8) (time : UInt64) (frame : SbusFrame) :
    (d.feed byte time frame).1.totalFrames = d.totalFrames +
        UInt32.ofNat (reported (d.feed byte time frame)).toList.length ∧
      (d.feed byte time frame).1.receiverLostFrames = d.receiverLostFrames +
        UInt32.ofNat ((reported (d.feed byte time frame)).toList.countP (·.frameLost)) ∧
      (d.feed byte time frame).1.invalidFrames = d.invalidFrames +
        UInt32.ofNat (if d.gaveUp byte time frame then 1 else 0) := by
  have hrecover : ∀ e : SbusDecoder, e.recoverAfterInvalidFrame.totalFrames = e.totalFrames ∧
      e.recoverAfterInvalidFrame.receiverLostFrames = e.receiverLostFrames ∧
      e.recoverAfterInvalidFrame.invalidFrames = e.invalidFrames := by
    intro e
    unfold recoverAfterInvalidFrame
    dsimp only
    split
    · exact ⟨rfl, rfl, rfl⟩
    · exact ⟨rfl, rfl, rfl⟩
  unfold gaveUp
  by_cases hzero : d.count = 0
  · rw [feed, if_pos hzero]
    split
    · simp [reported, hzero]
    · simp [reported, hzero]
  · rw [feed, if_neg hzero]
    dsimp only
    by_cases hshort : d.count + 1 < FrameSize
    · rw [if_pos hshort]
      simp [reported, Nat.not_le.mpr hshort]
    · rw [if_neg hshort]
      generalize hdecode : decode _ frame = result
      obtain ⟨decoded, ok⟩ := result
      cases ok with
      | false =>
          obtain ⟨htotal, hlost, hinvalid⟩ := hrecover
            { d with
              buffer := d.buffer.setIfInBounds d.count byte
              count := d.count + 1
              invalidFrames := d.invalidFrames + 1 }
          simp [reported, hzero, Nat.not_lt.mp hshort, htotal, hlost, hinvalid]
      | true =>
          cases hframe : decoded.frameLost with
          | false => simp [reported, hframe]
          | true => simp [reported, hframe]

/-- It gives up what the framer gives up. -/
theorem gaveUp_eq {d : SbusDecoder} {pending : List UInt8} (h : Holds d pending) (byte : UInt8)
    (time : UInt64) (frame : SbusFrame) :
    d.gaveUp byte time frame = framing.rejects pending byte := by
  have hreport := (feed_refines h byte time frame).2
  have hcount := h.count
  unfold gaveUp Framing.rejects
  rw [hreport, framing_size, hcount]
  cases pending with
  | nil => rfl
  | cons x xs =>
      by_cases hfull : FrameSize ≤ (x :: xs).length + 1
      · have hlong : ¬ ((x :: xs) ++ [byte]).length < framing.size := by
          rw [List.length_append]
          exact Nat.not_lt.mpr hfull
        rw [Framing.push, if_neg (List.cons_ne_nil x xs), if_neg hlong]
        cases hend : framing.isEnd byte with
        | true => simp
        | false => simp
      · have hlong : ¬ FrameSize ≤ ((x :: xs) ++ [byte]).length := by
          rw [List.length_append]
          exact hfull
        rw [decide_eq_false hfull, decide_eq_false hlong]
        simp

/-! ## All calls -/

/-- The decoder holds the framer's pending window, and its counters count the reports and the windows
that were given up. -/
structure Follows (d : SbusDecoder) (pending : List UInt8) (results : List (Option SbusFrame))
    (rejections : Nat) : Prop where
  holds : Holds d pending
  total : d.totalFrames = UInt32.ofNat results.reduceOption.length
  lost : d.receiverLostFrames = UInt32.ofNat (results.reduceOption.countP (·.frameLost))
  invalid : d.invalidFrames = UInt32.ofNat rejections

theorem follows_reset : Follows reset [] [] 0 := ⟨holds_reset, rfl, rfl, rfl⟩

theorem Follows.feed {d : SbusDecoder} {pending : List UInt8} {results : List (Option SbusFrame)}
    {rejections : Nat} (h : Follows d pending results rejections) (call : FeedCall) :
    Follows (d.feed call.byte call.timestampMicroseconds call.frame).1
      (framing.push pending call.byte).1
      (results ++ [reported (d.feed call.byte call.timestampMicroseconds call.frame)])
      (rejections + if framing.rejects pending call.byte then 1 else 0) := by
  obtain ⟨htotal, hlost, hinvalid⟩ :=
    d.feed_counters call.byte call.timestampMicroseconds call.frame
  refine ⟨(feed_refines h.holds _ _ _).1, ?_, ?_, ?_⟩
  · rw [htotal, h.total, List.reduceOption_append, List.reduceOption_singleton, List.length_append,
      UInt32.ofNat_add]
  · rw [hlost, h.lost, List.reduceOption_append, List.reduceOption_singleton, List.countP_append,
      UInt32.ofNat_add]
  · rw [hinvalid, h.invalid, gaveUp_eq h.holds, UInt32.ofNat_add]

/-- Every run. Induction on the calls; one call is `Follows.feed`. -/
theorem Follows.feedCalls {d : SbusDecoder} {pending : List UInt8}
    {results : List (Option SbusFrame)} {rejections : Nat}
    (h : Follows d pending results rejections) (calls : List FeedCall) :
    Follows (d.feedCalls calls).1 (framing.feed pending (calls.map (·.byte))).1
        (results ++ (d.feedCalls calls).2)
        (rejections + framing.rejections pending (calls.map (·.byte))) ∧
      (d.feedCalls calls).2 = (framing.feed pending (calls.map (·.byte))).2.map
        (Option.map fun window => decodedFrame (windowBuffer window)) := by
  induction calls generalizing d pending results rejections with
  | nil =>
      refine ⟨?_, rfl⟩
      rw [SbusDecoder.feedCalls, List.append_nil]
      exact h
  | cons call calls ih =>
      obtain ⟨hfollows, hresults⟩ := ih (h.feed call)
      have hreport := (feed_refines h.holds call.byte call.timestampMicroseconds call.frame).2
      refine ⟨?_, ?_⟩
      · rw [List.append_assoc, Nat.add_assoc,
          Nat.add_comm (if framing.rejects pending call.byte then 1 else 0)] at hfollows
        exact hfollows
      · rw [SbusDecoder.feedCalls, List.map_cons, Framing.feed, List.map_cons, ← hreport, ← hresults]

/-! ## Every access checked -/

/-- `_buffer[index] = byte`, if there is such an entry. -/
def store? (buffer : Vector UInt8 25) (index : Nat) (byte : UInt8) : Option (Vector UInt8 25) :=
  if index < FrameSize then some (buffer.setIfInBounds index byte) else none

/-- `rawValue` with checked reads. -/
def rawValue? (buffer : Vector UInt8 25) (channel : Nat) : Option UInt16 := do
  let bitIndex := channel * 11
  let byteIndex := 1 + bitIndex / 8
  let bitOffset := bitIndex % 8
  let low ← buffer[byteIndex]?
  let middle ← buffer[byteIndex + 1]?
  let high ← buffer[byteIndex + 2]?
  let packed := low.toUInt32 ||| (middle.toUInt32 <<< 8) ||| (high.toUInt32 <<< 16)
  return ((packed >>> UInt32.ofNat bitOffset) &&& 0x07ff).toUInt16

/-- One turn of the loop in `decode` with checked reads. -/
def writeChannel? (buffer : Vector UInt8 25) (values : Vector UInt16 16) (channel : Nat) :
    Option (Vector UInt16 16) :=
  (rawValue? buffer channel).map fun raw => values.setIfInBounds channel (sbusRawToPwm raw)

/-- `decodeChannels` with checked reads. -/
def decodeChannels? (buffer : Vector UInt8 25) (frame : SbusFrame) : Option SbusFrame := do
  let values ← forRange? 16 (writeChannel? buffer) frame.values
  let flags ← buffer[SbusFlagsIndex]?
  return {
    values
    channelCount := 16
    frameLost := (flags &&& SbusFrameLostMask) != 0
    failsafe := (flags &&& SbusFailsafeMask) != 0 }

/-- `decode` with checked reads. -/
def decode? (d : SbusDecoder) (frame : SbusFrame) : Option (SbusFrame × Bool) := do
  let first ← d.buffer[0]?
  let last ← d.buffer[24]?
  if first != SbusStartByte || !validEndByte last then return (frame, false)
  let frame ← decodeChannels? d.buffer frame
  return (frame, true)

/-- The search of `recoverAfterInvalidFrame` over the indices that are left, with checked reads. -/
def findStart? (buffer : Vector UInt8 25) : List Nat → Option Nat
  | [] => some FrameSize
  | index :: indices => do
      let byte ← buffer[index]?
      if byte == SbusStartByte then return index
      findStart? buffer indices

/-- `memmove`, if the bytes to move are in the buffer. -/
def memmove? (buffer : Vector UInt8 25) (nextStart count : Nat) : Option (Vector UInt8 25) :=
  if nextStart + count ≤ FrameSize then some (memmove buffer nextStart count) else none

/-- `recoverAfterInvalidFrame` with checked accesses. -/
def recoverAfterInvalidFrame? (d : SbusDecoder) : Option SbusDecoder := do
  let nextStart ← findStart? d.buffer (List.range' 1 (FrameSize - 1))
  if nextStart = FrameSize then return { d with count := 0 }
  let buffer ← memmove? d.buffer nextStart (FrameSize - nextStart)
  return { d with count := FrameSize - nextStart, buffer }

/-- `feed` with checked accesses. -/
def feed? (d : SbusDecoder) (byte : UInt8) (_timestampMicroseconds : UInt64) (frame : SbusFrame) :
    Option (SbusDecoder × SbusFrame × Bool) := do
  if d.count = 0 then
    if byte != SbusStartByte then return (d, frame, false)
    let buffer ← store? d.buffer d.count byte
    return ({ d with buffer, count := d.count + 1 }, frame, false)
  let buffer ← store? d.buffer d.count byte
  let d := { d with buffer, count := d.count + 1 }
  if d.count < FrameSize then return (d, frame, false)
  let (frame, decoded) ← d.decode? frame
  if !decoded then
    let recovered ← recoverAfterInvalidFrame? { d with invalidFrames := d.invalidFrames + 1 }
    return (recovered, frame, false)
  return ({ d with
      count := 0
      totalFrames := d.totalFrames + 1
      receiverLostFrames :=
        if frame.frameLost then d.receiverLostFrames + 1 else d.receiverLostFrames },
    frame, true)

theorem rawValue?_eq (buffer : Vector UInt8 25) {channel : Nat} (h : channel < 16) :
    rawValue? buffer channel = some (rawValue buffer channel) := by
  -- the last channel begins in byte 21, so the third byte is the flags byte at most
  have hlow : 1 + channel * 11 / 8 < 25 := by omega
  have hmiddle : 1 + channel * 11 / 8 + 1 < 25 := by omega
  have hhigh : 1 + channel * 11 / 8 + 2 < 25 := by omega
  unfold rawValue?
  dsimp only
  rw [getElem?_eq_getD buffer hlow 0, getElem?_eq_getD buffer hmiddle 0,
    getElem?_eq_getD buffer hhigh 0]
  rfl

theorem decodeChannels?_eq (buffer : Vector UInt8 25) (frame : SbusFrame) :
    decodeChannels? buffer frame = some (decodeChannels buffer frame) := by
  have hstep : ∀ channel (values : Vector UInt16 16), channel < 16 →
      writeChannel? buffer values channel =
        some (values.setIfInBounds channel (sbusRawToPwm (rawValue buffer channel))) := by
    intro channel values h
    rw [writeChannel?, rawValue?_eq buffer h, Option.map_some]
  unfold decodeChannels?
  rw [forRange?_eq_some _ hstep frame.values, getElem?_eq_getD buffer (i := SbusFlagsIndex) (by decide) 0]
  rfl

theorem decode?_eq (d : SbusDecoder) (frame : SbusFrame) : d.decode? frame = some (d.decode frame) := by
  unfold decode? decode
  rw [getElem?_eq_getD d.buffer (i := 0) (by decide) 0,
    getElem?_eq_getD d.buffer (i := 24) (by decide) 0]
  simp only [Option.bind_eq_bind, Option.bind_some, decodeChannels?_eq]
  split
  · rfl
  · rfl

theorem findStart?_eq (buffer : Vector UInt8 25) (indices : List Nat)
    (h : ∀ index ∈ indices, index < 25) :
    findStart? buffer indices = some ((indices.find? fun index =>
      buffer.getD index 0 == SbusStartByte).getD FrameSize) := by
  induction indices with
  | nil => rfl
  | cons index indices ih =>
      rw [List.forall_mem_cons] at h
      rw [findStart?, getElem?_eq_getD buffer h.1 0, List.find?_cons]
      simp only [Option.bind_eq_bind, Option.bind_some]
      cases hbyte : buffer.getD index 0 == SbusStartByte with
      | true => rfl
      | false => exact ih h.2

theorem recoverAfterInvalidFrame?_eq (d : SbusDecoder) :
    d.recoverAfterInvalidFrame? = some d.recoverAfterInvalidFrame := by
  have hsearch := findStart?_eq d.buffer (List.range' 1 (FrameSize - 1))
    (fun index hindex => by
      have hrange := List.mem_range'_1.mp hindex
      have hsize : FrameSize = 25 := rfl
      omega)
  have hfound : ((List.range' 1 (FrameSize - 1)).find? fun index =>
      d.buffer.getD index 0 == SbusStartByte).getD FrameSize ≤ FrameSize := by
    cases hcase : (List.range' 1 (FrameSize - 1)).find? fun index =>
        d.buffer.getD index 0 == SbusStartByte with
    | none => exact Nat.le_refl _
    | some index =>
        have hrange := List.mem_range'_1.mp (List.mem_of_find?_eq_some hcase)
        rw [Option.getD_some]
        omega
  unfold recoverAfterInvalidFrame? recoverAfterInvalidFrame
  rw [hsearch]
  simp only [Option.bind_eq_bind, Option.bind_some]
  split
  · rfl
  · rw [memmove?, if_pos (by omega)]
    rfl

/-- With room for the byte no access leaves the buffer. -/
theorem feed?_eq {d : SbusDecoder} (h : d.count < FrameSize) (byte : UInt8) (time : UInt64)
    (frame : SbusFrame) : d.feed? byte time frame = some (d.feed byte time frame) := by
  have hstore : store? d.buffer d.count byte = some (d.buffer.setIfInBounds d.count byte) := if_pos h
  unfold feed? feed
  simp only [hstore, decode?_eq, recoverAfterInvalidFrame?_eq, Option.bind_eq_bind,
    Option.bind_some]
  split
  · split
    · rfl
    · rfl
  · split
    · rfl
    · split
      · rfl
      · rfl

/-! ## The decoder is the scanner -/

/-- The filled part of the buffer. -/
def buffered (d : SbusDecoder) : List UInt8 := d.buffer.toList.take d.count

theorem located_reduceOption {β : Type} (n : Nat) (results : List (Option β)) :
    (Framing.located n results).map Prod.snd = results.reduceOption := by
  induction results generalizing n with
  | nil => rfl
  | cons result results ih =>
      cases result with
      | none => exact ih (n + 1)
      | some b => exact congrArg (b :: ·) (ih (n + 1))

/-- For every stream and every grouping of the calls, with the scan of the whole stream: the decoder
reports the scanner's windows, each at its last byte; it waits with the same bytes; it has counted the
same; and no access of its next call leaves the buffer. -/
theorem streaming_eq_batch (bursts : List (List FeedCall)) :
    let stream := bursts.flatten.map (·.byte)
    let scan := framing.scan 0 stream
    let d := (reset.feedBursts bursts).1
    Framing.located 0 (reset.feedBursts bursts).2 =
        scan.windows.map (fun w => (w.1 + 24, decodedFrame (windowBuffer w.2))) ∧
      (d.count ≤ 24 ∧ d.buffered.length = d.count ∧ d.buffered = scan.waiting ∧
        d.buffered <:+ stream ∧ ∀ byte ∈ d.buffered.head?, byte = 0x0f) ∧
      (∀ byte time frame, d.feed? byte time frame = some (d.feed byte time frame)) ∧
      d.totalFrames = UInt32.ofNat scan.windows.length ∧
      d.invalidFrames = UInt32.ofNat scan.rejected ∧
      d.receiverLostFrames = UInt32.ofNat
        (scan.windows.countP fun w => (decodedFrame (windowBuffer w.2)).frameLost) := by
  intro stream scan d
  obtain ⟨hfollows, hresults⟩ := follows_reset.feedCalls bursts.flatten
  obtain ⟨hreports, hrejections, hwaiting⟩ :=
    Framing.feed_eq_scan (F := framing) [] nofun (by decide) 0 stream
  have hbuffer : d = (reset.feedCalls bursts.flatten).1 := congrArg Prod.fst (feedBursts_eq ..)
  have hall : (reset.feedBursts bursts).2 = (reset.feedCalls bursts.flatten).2 :=
    congrArg Prod.snd (feedBursts_eq ..)
  have hholds : Holds d scan.waiting := by
    rw [hbuffer]
    exact hwaiting ▸ hfollows.holds
  -- reports: those of the framer, which are the windows of the scan
  have hlocated : Framing.located 0 (reset.feedBursts bursts).2 =
      scan.windows.map fun w => (w.1 + 24, decodedFrame (windowBuffer w.2)) := by
    rw [hall, hresults, Framing.located_map]
    refine (congrArg _ hreports).trans ?_
    rw [List.map_map]
    rfl
  have hframes : (reset.feedCalls bursts.flatten).2.reduceOption =
      scan.windows.map fun w => decodedFrame (windowBuffer w.2) := by
    rw [← hall, ← located_reduceOption 0, hlocated, List.map_map]
    rfl
  have hcount : d.count < FrameSize := hholds.count ▸ hholds.short
  refine ⟨hlocated, ⟨Nat.le_of_lt_succ hcount, ?_, hholds.filled, ?_, ?_⟩,
    fun byte time frame => feed?_eq hcount byte time frame, ?_, ?_, ?_⟩
  · rw [buffered, hholds.filled]
    exact hholds.count.symm
  · rw [buffered, hholds.filled]
    exact Framing.scan_waiting_suffix 0 stream
  · intro byte hbyte
    rw [buffered, hholds.filled] at hbyte
    exact hholds.start byte hbyte
  · rw [hbuffer, hfollows.total, List.nil_append, hframes, List.length_map]
  · rw [hbuffer, hfollows.invalid, Nat.zero_add]
    exact congrArg UInt32.ofNat hrejections
  · rw [hbuffer, hfollows.lost, List.nil_append, hframes, List.countP_map]
    rfl

end SbusDecoder

end DualMagneticWheel
