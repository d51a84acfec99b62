/-
# DualMagneticWheel.Rc.SbusSync — finding the frame boundaries in the middle of the stream

Any bytes, then well-formed frames. The decoder locks on to the frames as soon as its window no longer
lags behind them. A frame can keep the lag as it is by carrying an accepted end byte followed by `0x0f`
at the right place, and a transmitter that repeats such a frame keeps it there for ever
(`never_synchronised`): no bound holds for every stream. If at every place some frame among any `M`
consecutive ones carries no such pair, `24 · M` frames are enough (`synchronised`).
-/
import DualMagneticWheel.Rc.Sbus

namespace DualMagneticWheel

open Foundation

/-- 25 bytes between `0x0f` and an accepted end byte. -/
structure TransmittedFrame where
  bytes : Vector UInt8 25
  start : bytes.getD 0 0 = SbusDecoder.SbusStartByte
  finish : SbusDecoder.validEndByte (bytes.getD 24 0) = true

namespace TransmittedFrame

/-- The bytes of several frames, one after another. -/
def stream (frames : List TransmittedFrame) : List UInt8 := frames.flatMap fun f => f.bytes.toList

/-- An accepted end byte right before byte `k`, which is `0x0f`. -/
def Imitates (f : TransmittedFrame) (k : Nat) : Prop :=
  SbusDecoder.validEndByte (f.bytes.getD (k - 1) 0) = true ∧
    f.bytes.getD k 0 = SbusDecoder.SbusStartByte

/-- At each of the 24 places inside a frame, some frame among any `M` consecutive ones does not look
like a boundary. -/
def Distinguished (M : Nat) (frames : List TransmittedFrame) : Prop :=
  ∀ i, i + M ≤ frames.length → ∀ k, 0 < k → k < 25 →
    ∃ f ∈ (frames.drop i).take M, ¬ f.Imitates k

/-- What a receiver that knows the boundaries reports: each frame at its own last byte. -/
def ownReports (frames : List TransmittedFrame) : List (Option SbusFrame) :=
  frames.flatMap fun f => List.replicate 24 none ++ [some (SbusDecoder.decodedFrame f.bytes)]

theorem stream_eq (frames : List TransmittedFrame) :
    stream frames = (frames.map fun f => f.bytes.toList).flatten := by
  rw [stream, List.flatMap_def]

theorem stream_length (frames : List TransmittedFrame) :
    (stream frames).length = 25 * frames.length := by
  induction frames with
  | nil => rfl
  | cons f frames ih =>
      simp only [stream, List.flatMap_cons, List.length_append, Vector.length_toList,
        List.length_cons] at ih ⊢
      omega

theorem stream_append (frames others : List TransmittedFrame) :
    stream (frames ++ others) = stream frames ++ stream others := by
  rw [stream, List.flatMap_append]
  rfl

theorem wellFormed (f : TransmittedFrame) : SbusDecoder.framing.WellFormed f.bytes.toList where
  length := by simp [SbusDecoder.FrameSize]
  start := by
    intro byte hbyte
    have hstart := f.start
    rw [List.head?_eq_getElem?] at hbyte
    rw [getD_toList, List.getD_eq_getElem?_getD, Option.mem_def.mp hbyte] at hstart
    simpa [SbusDecoder.framing] using hstart
  finish := by
    intro byte hbyte
    have hfinish := f.finish
    rw [List.getLast?_eq_getElem?, Vector.length_toList] at hbyte
    rw [getD_toList, List.getD_eq_getElem?_getD, Option.mem_def.mp hbyte] at hfinish
    exact hfinish

/-- The two notions of imitation agree. -/
theorem imitates_of_framing {f : TransmittedFrame} {k : Nat}
    (h : SbusDecoder.framing.Imitates f.bytes.toList k) : f.Imitates k := by
  obtain ⟨front, e, s, back, hbytes, rfl, he, hs⟩ := h
  rw [Imitates, getD_toList, getD_toList, hbytes, Nat.add_sub_cancel]
  simp only [SbusDecoder.framing, beq_iff_eq] at he hs
  constructor
  · simpa using he
  · simpa using hs

theorem Distinguished.framing {M : Nat} {frames : List TransmittedFrame}
    (h : Distinguished M frames) :
    SbusDecoder.framing.Distinguished M (frames.map fun f => f.bytes.toList) := by
  intro i hi k hpos hk
  rw [List.length_map] at hi
  obtain ⟨f, hmem, hnot⟩ := h i hi k hpos hk
  refine ⟨f.bytes.toList, ?_, fun himitates => hnot (imitates_of_framing himitates)⟩
  rw [← List.map_drop, ← List.map_take]
  exact List.mem_map_of_mem hmem

/-- Decoding the framer's own reports gives the receiver's. -/
theorem ownReports_decoded (frames : List TransmittedFrame) :
    (SbusDecoder.framing.ownReports (frames.map fun f => f.bytes.toList)).map
        (Option.map fun window => SbusDecoder.decodedFrame (SbusDecoder.windowBuffer window)) =
      ownReports frames := by
  induction frames with
  | nil => rfl
  | cons f frames ih =>
      rw [Framing.ownReports] at ih
      simp only [Framing.ownReports, ownReports, List.map_cons, List.flatMap_cons, List.map_append,
        ih, List.map_replicate, List.map_nil, Option.map_none, Option.map_some]
      rw [SbusDecoder.windowBuffer, ofFn_toList]
      rfl

/-! ## A stream that is never understood -/

/-- Whatever the bytes before and in between: after `B` frames the decoder reports nothing but
transmitted frames at their own last bytes. -/
def SynchronisedAfter (B : Nat) : Prop :=
  ∀ (front : List UInt8) (frames : List TransmittedFrame) (calls : List (UInt8 × UInt64))
    (frame : SbusFrame), calls.map Prod.fst = front ++ stream frames →
    ∀ j r, front.length + 25 * B ≤ j →
      (SbusDecoder.reset.feedAll frame calls)[j]? = some (some r) →
      ∃ i f, frames[i]? = some f ∧ j = front.length + 25 * i + 24 ∧
        r = SbusDecoder.decodedFrame f.bytes

/-- The second byte is an accepted end byte and the third is `0x0f`. -/
def deceptive : TransmittedFrame where
  bytes := ⟨#[0x0f, 0x00, 0x0f, 0, 0, 0, 0, 0, 0, 0, 0, 0, 0, 0, 0, 0, 0, 0, 0, 0, 0, 0, 0, 0, 0], rfl⟩
  start := by decide
  finish := by decide

/-- The bytes from the third on, where the decoder comes in. -/
def deceptiveEnd : List UInt8 := deceptive.bytes.toList.drop 2

/-- A frame completes the pending window with its first two bytes and leaves the same one behind. -/
theorem feed_deceptive :
    (SbusDecoder.framing.feed deceptiveEnd deceptive.bytes.toList).1 = deceptiveEnd ∧
      (SbusDecoder.framing.feed deceptiveEnd deceptive.bytes.toList).2[1]? =
        some (some (deceptiveEnd ++ deceptive.bytes.toList.take 2)) := by
  decide +kernel

theorem feed_deceptive_replicate (n : Nat) :
    (SbusDecoder.framing.feed deceptiveEnd (stream (List.replicate n deceptive))).1 =
      deceptiveEnd := by
  induction n with
  | zero => rfl
  | succ n ih =>
      rw [List.replicate_succ, stream, List.flatMap_cons, Framing.feed_append, feed_deceptive.1]
      exact ih

/-- The second byte of frame `B` is reported as the end of a frame. -/
theorem feed_deceptive_report (B : Nat) :
    (SbusDecoder.framing.feed deceptiveEnd
        (stream (List.replicate (B + 1) deceptive))).2[25 * B + 1]? =
      some (some (deceptiveEnd ++ deceptive.bytes.toList.take 2)) := by
  have hlength := SbusDecoder.framing.feed_length deceptiveEnd
    (stream (List.replicate B deceptive))
  rw [stream_length, List.length_replicate] at hlength
  rw [List.replicate_succ', stream_append, Framing.feed_append,
    List.getElem?_append_right (by omega), hlength, Nat.add_sub_cancel_left,
    feed_deceptive_replicate]
  have hlast : stream [deceptive] = deceptive.bytes.toList := by simp [stream]
  rw [hlast]
  exact feed_deceptive.2

/-- No number of frames is enough for every stream: identical frames can be reported for ever with
channels assembled across two of them. -/
theorem never_synchronised : ¬ ∃ B, SynchronisedAfter B := by
  rintro ⟨B, hB⟩
  have hfront : SbusDecoder.framing.feed [] deceptiveEnd =
      (deceptiveEnd, List.replicate 23 none) := by
    decide +kernel
  let bytes := deceptiveEnd ++ stream (List.replicate (B + 1) deceptive)
  let calls : List (UInt8 × UInt64) := bytes.map fun byte => (byte, 0)
  have hbytes : calls.map Prod.fst = bytes := by
    rw [List.map_map]
    exact List.map_id bytes
  have hreport : (SbusDecoder.reset.feedAll {} calls)[23 + (25 * B + 1)]? =
      some (some (SbusDecoder.decodedFrame
        (SbusDecoder.windowBuffer (deceptiveEnd ++ deceptive.bytes.toList.take 2)))) := by
    rw [SbusDecoder.feedAll_refines SbusDecoder.holds_reset, hbytes, Framing.feed_append, hfront,
      List.getElem?_map, List.getElem?_append_right (by simp), List.length_replicate,
      Nat.add_sub_cancel_left, feed_deceptive_report]
    rfl
  have hlength : deceptiveEnd.length = 23 := by decide
  obtain ⟨i, _, _, hplace, _⟩ := hB deceptiveEnd _ calls {} hbytes _ _ (by omega) hreport
  -- the second byte of a frame is not the last byte of one
  omega

/-! ## Streams that are understood -/

/-- If at each place some frame among any `M` consecutive ones does not look like a boundary, then from
frame `24 · M` on every frame is reported at its own last byte, and nothing else is reported. -/
theorem synchronised {M : Nat} (front : List UInt8) (frames : List TransmittedFrame)
    (hdist : Distinguished M frames) {calls : List (UInt8 × UInt64)} (frame : SbusFrame)
    (hcalls : calls.map Prod.fst = front ++ stream frames) :
    (SbusDecoder.reset.feedAll frame calls).drop (front.length + 25 * (24 * M)) =
      ownReports (frames.drop (24 * M)) := by
  have hframes : ∀ window ∈ frames.map fun f => f.bytes.toList,
      SbusDecoder.framing.WellFormed window := by
    intro window hmem
    obtain ⟨f, _, rfl⟩ := List.mem_map.mp hmem
    exact f.wellFormed
  have hshort : (SbusDecoder.framing.feed [] front).1.length < SbusDecoder.framing.size :=
    Framing.feed_length_lt (by decide) front
  have hsync := Framing.feed_synchronises hframes hdist.framing hshort
  rw [← List.map_take, ← List.map_drop, ← stream_eq, ← stream_eq] at hsync
  have hfront := SbusDecoder.framing.feed_length []
    (front ++ stream (frames.take (24 * M)))
  have hsplit : front ++ stream frames =
      (front ++ stream (frames.take (24 * M))) ++ stream (frames.drop (24 * M)) := by
    rw [List.append_assoc, ← stream_append, List.take_append_drop]
  rw [SbusDecoder.feedAll_refines SbusDecoder.holds_reset, hcalls]
  by_cases hM : 24 * M ≤ frames.length
  · rw [List.length_append, stream_length, List.length_take, Nat.min_eq_left hM] at hfront
    rw [hsplit, Framing.feed_append, ← List.map_drop, List.drop_left' hfront, Framing.feed_append,
      ← ownReports_decoded]
    exact congrArg (List.map _) hsync
  · rw [List.drop_eq_nil_of_le (show frames.length ≤ 24 * M by omega), List.drop_eq_nil_of_le]
    · rfl
    · rw [List.length_map, Framing.feed_length, List.length_append, stream_length]
      omega

/-- A frame without a start byte inside. -/
def quiet : TransmittedFrame where
  bytes := ⟨#[0x0f, 0, 0, 0, 0, 0, 0, 0, 0, 0, 0, 0, 0, 0, 0, 0, 0, 0, 0, 0, 0, 0, 0, 0, 0], rfl⟩
  start := by decide
  finish := by decide

/-- Quiet frames after the end of a deceptive one: the frame behind the first 24 is understood. -/
theorem synchronised_quiet :
    (SbusDecoder.reset.feedAll {}
        ((deceptiveEnd ++ stream (List.replicate 25 quiet)).map fun byte => (byte, 0))).drop
          (23 + 25 * (24 * 1)) =
      List.replicate 24 none ++ [some (SbusDecoder.decodedFrame quiet.bytes)] := by
  refine synchronised (M := 1) deceptiveEnd (List.replicate 25 quiet) ?_ {} ?_
  · intro i hi k hpos hk
    refine ⟨quiet, ?_, ?_⟩
    · rw [List.length_replicate] at hi
      simp only [List.drop_replicate, List.take_replicate, List.mem_replicate]
      exact ⟨by omega, trivial⟩
    · rintro ⟨_, hstart⟩
      revert hstart
      have hquiet : ∀ k : Fin 25, 0 < k.val →
          quiet.bytes.getD k.val 0 ≠ SbusDecoder.SbusStartByte := by decide
      exact hquiet ⟨k, hk⟩ hpos
  · rw [List.map_map]
    exact List.map_id _

end TransmittedFrame

end DualMagneticWheel
