/-
# DualMagneticWheel.Rc.SbusInput — the driver between the serial port and `input_rc`

`SbusInput::run` reads what the port has, feeds it to the decoder byte by byte, publishes every frame that
comes of it, and after half a second without one publishes once that the link is lost. Every message and
every printed line goes into a log.

Three results. The frame messages of the log are the windows that the scanner finds in all bytes read so
far, in order, each with the time of its last byte and with the counts up to it (`frames_published`). The
latest message reports a lost link exactly when the last frame is more than half a second old
(`latest_reports_silence`). And the log keeps a protocol: losses and connections alternate and are
announced once, and warnings come every five seconds (`announcements_lawful`).
-/
import DualMagneticWheel.Foundation.EventLog
import DualMagneticWheel.Foundation.Transition
import DualMagneticWheel.Msg
import DualMagneticWheel.Rc.SbusScan

namespace DualMagneticWheel

open Foundation

/-! ## The driver -/

/-- `InputRc.msg` with the fields that the driver writes and no module reads. -/
structure InputRcMessage extends InputRc where
  totalFrameCount : UInt32 := 0
  rssi : Int16 := 0
  inputSource : UInt8 := 0
  frameLost : Bool := false
  deriving DecidableEq

namespace InputRcMessage
def SOURCE_SBUS : UInt8 := 1
end InputRcMessage

/-- The values of `errno` that `run` tells apart. -/
inductive SerialErrno where
  | EAGAIN
  | EWOULDBLOCK
  | EINTR
  | other
  deriving DecidableEq

/-- What `read` made of the buffer. -/
inductive SerialRead where
  | data (bytes : List UInt8)
  | failed (errno : SerialErrno)

/-- The bytes that came in. -/
def SerialRead.bytes : SerialRead → List UInt8
  | .data bytes => bytes
  | .failed _ => []

/-- The lines that the driver prints about the link. -/
inductive LinkNotice where
  | connected
  | connectionLost
  | notConnected
  deriving DecidableEq

/-- What leaves the driver. -/
inductive SbusEffect where
  | publish (message : InputRcMessage)
  | print (notice : LinkNotice) (time : UInt64)
  deriving DecidableEq

/-- The fields of class `SbusInput`, the serial port aside. -/
structure SbusInput where
  decoder : SbusDecoder := .reset
  lastMessage : InputRcMessage
  lastSignalTimestamp : UInt64 := 0
  publishedFrames : UInt32 := 0
  readErrors : UInt32 := 0
  lossPublished : Bool := false
  everConnected : Bool := false
  lastLinkWarning : UInt64 := 0

namespace SbusInput

def SignalTimeoutMicroseconds : UInt64 := 500000
def LinkWarningIntervalMicroseconds : UInt64 := 5000000

/-- The constructor. -/
def construct : SbusInput where
  lastMessage := { inputSource := InputRcMessage.SOURCE_SBUS, rssi := -1, rcLost := true }

/-- `SbusInput::initialize` on a port that could be opened and configured. -/
def initializePort (clock : UInt64) (d : SbusInput) : SbusInput := { d with lastSignalTimestamp := clock }

/-- The message that `publishFrame` puts together. -/
def frameMessage (frame : SbusFrame) (timestamp : UInt64) (receiverLostFrames totalFrames : UInt32) :
    InputRcMessage where
  timestamp := timestamp
  timestampLastSignal := timestamp
  channelCount := frame.channelCount
  inputSource := InputRcMessage.SOURCE_SBUS
  rssi := -1
  rcFailsafe := frame.failsafe
  rcLost := false
  frameLost := frame.frameLost
  lostFrameCount := receiverLostFrames
  totalFrameCount := totalFrames
  values := forRange frame.channelCount.toNat
    (fun values channel => values.setIfInBounds channel (frame.values.getD channel 0))
    (Vector.replicate 16 0)

/-- The last message with the link reported as lost. -/
def lossMessage (timestamp : UInt64) (d : SbusInput) : InputRcMessage :=
  { d.lastMessage with
    timestamp
    rcLost := true
    frameLost := false
    lostFrameCount := d.decoder.receiverLostFrames
    totalFrameCount := d.decoder.totalFrames }

end SbusInput

/-- The driver and what has left it, newest first. -/
structure SbusPort where
  driver : SbusInput
  log : List SbusEffect := []

namespace SbusPort

/-- `SbusInput::publishFrame`. -/
def publishFrame (frame : SbusFrame) (timestamp : UInt64) (p : SbusPort) : SbusPort :=
  let d := p.driver
  let announceConnection := !d.everConnected || d.lossPublished
  let message := SbusInput.frameMessage frame timestamp d.decoder.receiverLostFrames d.decoder.totalFrames
  let log := if announceConnection then .print .connected timestamp :: p.log else p.log
  { driver :=
      { d with
        lastMessage := message
        lastSignalTimestamp := timestamp
        lossPublished := false
        everConnected := true
        lastLinkWarning := 0
        publishedFrames := d.publishedFrames + 1 }
    log := .publish message :: log }

/-- The first half of `SbusInput::publishLossIfNeeded`: the loss message. -/
def publishLoss (timestamp : UInt64) (p : SbusPort) : SbusPort :=
  if p.driver.lossPublished then p
  else
    let message := p.driver.lossMessage timestamp
    { driver := { p.driver with lastMessage := message, lossPublished := true }
      log := .publish message :: p.log }

/-- The second half: the warning. -/
def warn (timestamp : UInt64) (p : SbusPort) : SbusPort :=
  if p.driver.lastLinkWarning = 0 ∨
      SbusInput.LinkWarningIntervalMicroseconds ≤ timestamp - p.driver.lastLinkWarning then
    let notice := if p.driver.everConnected then .connectionLost else .notConnected
    { driver := { p.driver with lastLinkWarning := timestamp }
      log := .print notice timestamp :: p.log }
  else p

/-- `SbusInput::publishLossIfNeeded`. -/
def publishLossIfNeeded (timestamp : UInt64) (p : SbusPort) : SbusPort :=
  if timestamp - p.driver.lastSignalTimestamp ≤ SbusInput.SignalTimeoutMicroseconds then p
  else (p.publishLoss timestamp).warn timestamp

/-- One byte of the buffer. -/
def feed (now : UInt64) (p : SbusPort) (byte : UInt8) : SbusPort :=
  let (decoder, frame, complete) := p.driver.decoder.feed byte now {}
  let p := { p with driver := { p.driver with decoder } }
  if complete then p.publishFrame frame now else p

/-- What `read` returned is handled. -/
def receive (read : SerialRead) (now : UInt64) (p : SbusPort) : SbusPort :=
  match read with
  | .data bytes => bytes.foldl (feed now) p
  | .failed .other => { p with driver := { p.driver with readErrors := p.driver.readErrors + 1 } }
  | .failed _ => p

/-- One turn of the loop of `SbusInput::run`. -/
def turn (read : SerialRead) (now : UInt64) (p : SbusPort) : SbusPort :=
  (p.receive read now).publishLossIfNeeded now

/-! ## What one turn does -/

/-- A byte completes a frame, which is published, or it only moves the decoder. -/
theorem feed_eq (p : SbusPort) (now : UInt64) (byte : UInt8) :
    p.feed now byte =
      match SbusDecoder.reported (p.driver.decoder.feed byte now {}) with
      | some frame =>
          { p with driver := { p.driver with decoder := (p.driver.decoder.feed byte now {}).1 } }.publishFrame
            frame now
      | none => { p with driver := { p.driver with decoder := (p.driver.decoder.feed byte now {}).1 } } := by
  unfold feed SbusDecoder.reported
  dsimp only
  split
  · rfl
  · rfl

/-- What `publishLossIfNeeded` leaves alone. -/
theorem publishLossIfNeeded_frame (timestamp : UInt64) (p : SbusPort) :
    (p.publishLossIfNeeded timestamp).driver.decoder = p.driver.decoder ∧
      (p.publishLossIfNeeded timestamp).driver.publishedFrames = p.driver.publishedFrames ∧
      (p.publishLossIfNeeded timestamp).driver.lastSignalTimestamp = p.driver.lastSignalTimestamp ∧
      (p.publishLossIfNeeded timestamp).driver.everConnected = p.driver.everConnected := by
  have hloss : (p.publishLoss timestamp).driver.decoder = p.driver.decoder ∧
      (p.publishLoss timestamp).driver.publishedFrames = p.driver.publishedFrames ∧
      (p.publishLoss timestamp).driver.lastSignalTimestamp = p.driver.lastSignalTimestamp ∧
      (p.publishLoss timestamp).driver.everConnected = p.driver.everConnected := by
    unfold publishLoss
    split
    · exact ⟨rfl, rfl, rfl, rfl⟩
    · exact ⟨rfl, rfl, rfl, rfl⟩
  unfold publishLossIfNeeded
  split
  · exact ⟨rfl, rfl, rfl, rfl⟩
  · unfold warn
    split
    · exact hloss
    · exact hloss

/-! ### What a turn adds to the log -/

/-- The log grew, and the new frame messages carry the time of the turn. -/
def Extends (now : UInt64) (before after : List SbusEffect) : Prop :=
  ∃ new, after = new ++ before ∧ ∀ m, .publish m ∈ new → m.rcLost = false →
    m.timestamp = now ∧ m.timestampLastSignal = now

theorem Extends.refl (now : UInt64) (log : List SbusEffect) : Extends now log log :=
  ⟨[], rfl, fun _ hm => absurd hm List.not_mem_nil⟩

theorem Extends.trans {now : UInt64} {a b c : List SbusEffect} (hab : Extends now a b)
    (hbc : Extends now b c) : Extends now a c := by
  obtain ⟨first, rfl, hfirst⟩ := hab
  obtain ⟨second, rfl, hsecond⟩ := hbc
  refine ⟨second ++ first, (List.append_assoc second first a).symm, ?_⟩
  intro m hm hframe
  rcases List.mem_append.mp hm with hm | hm
  · exact hsecond m hm hframe
  · exact hfirst m hm hframe

theorem extends_cons {now : UInt64} {effect : SbusEffect}
    (h : ∀ m, effect = .publish m → m.rcLost = false → m.timestamp = now ∧ m.timestampLastSignal = now)
    (log : List SbusEffect) : Extends now log (effect :: log) := by
  refine ⟨[effect], rfl, ?_⟩
  intro m hm
  exact h m (List.mem_singleton.mp hm).symm

theorem extends_print (now : UInt64) (notice : LinkNotice) (time : UInt64) (log : List SbusEffect) :
    Extends now log (.print notice time :: log) := extends_cons (fun _ h => by cases h) log

theorem publishFrame_extends (p : SbusPort) (frame : SbusFrame) (now : UInt64) :
    Extends now p.log (p.publishFrame frame now).log := by
  have hannounced : Extends now p.log
      (if !p.driver.everConnected || p.driver.lossPublished then .print .connected now :: p.log
        else p.log) := by
    split
    · exact extends_print now .connected now p.log
    · exact Extends.refl now p.log
  refine hannounced.trans (extends_cons ?_ _)
  intro m hm _
  cases hm
  exact ⟨rfl, rfl⟩

theorem publishLossIfNeeded_extends (p : SbusPort) (now : UInt64) :
    Extends now p.log (p.publishLossIfNeeded now).log := by
  have hloss : Extends now p.log (p.publishLoss now).log := by
    unfold publishLoss
    split
    · exact Extends.refl now p.log
    · exact extends_cons (fun m hm hframe => by cases hm; cases hframe) p.log
  unfold publishLossIfNeeded
  split
  · exact Extends.refl now p.log
  · unfold warn
    split
    · exact hloss.trans (extends_print now _ now _)
    · exact hloss

theorem turn_extends (p : SbusPort) (read : SerialRead) (now : UInt64) :
    Extends now p.log (p.turn read now).log := by
  have hreceive : Extends now p.log (p.receive read now).log := by
    cases read with
    | data bytes =>
        refine foldl_invariant (fun _ (q : SbusPort) => Extends now p.log q.log) (Extends.refl now p.log) ?_
        intro _ byte q _ hq
        rw [feed_eq]
        cases SbusDecoder.reported (q.driver.decoder.feed byte now {}) with
        | none => exact hq
        | some frame => exact hq.trans (publishFrame_extends _ frame now)
    | failed errno =>
        cases errno with
        | other => exact Extends.refl now p.log
        | _ => exact Extends.refl now p.log
  exact hreceive.trans (publishLossIfNeeded_extends _ now)

end SbusPort

/-! ## Runs -/

/-- The driver after some turns. `arrivals` is a history variable: every byte with the time it was read,
oldest first. -/
structure SbusRun where
  port : SbusPort
  openedAt : UInt64
  time : UInt64
  arrivals : List (UInt8 × UInt64) := []

/-- A turn of the loop: what the port has, and the clock. -/
structure SbusTurn where
  read : SerialRead
  now : UInt64

namespace SbusRun

def next (s : SbusRun) (e : SbusTurn) : SbusRun where
  port := s.port.turn e.read e.now
  openedAt := s.openedAt
  time := e.now
  arrivals := s.arrivals ++ e.read.bytes.map fun byte => (byte, e.now)

/-- The port was just opened. -/
def opened (clock : UInt64) : SbusRun where
  port := { driver := SbusInput.construct.initializePort clock }
  openedAt := clock
  time := clock

/-- All runs of the driver, with any readings of the clock. -/
def system : Transition SbusRun SbusTurn := .ofFun (fun s => ∃ clock, s = opened clock) next

/-- The clock does not run backwards. -/
def Timely (s : SbusRun) (e : SbusTurn) : Prop := s.time ≤ e.now

instance (s : SbusRun) (e : SbusTurn) : Decidable (s.Timely e) := inferInstanceAs (Decidable (_ ≤ _))

/-! ## Frames -/

/-- The frame messages that have been published, oldest first. -/
def frameMessages (log : List SbusEffect) : List InputRcMessage :=
  log.reverse.filterMap fun effect =>
    match effect with
    | .publish message => if message.rcLost then none else some message
    | .print _ _ => none

/-- The messages for frames found at places of a stream: the time is that of the last byte, the counts
take in everything up to the frame. -/
def messagesOf (arrivals : List (UInt8 × UInt64)) (found : List (Nat × SbusFrame)) :
    List InputRcMessage :=
  found.mapIdx fun k frame =>
    SbusInput.frameMessage frame.2 (arrivals.getD frame.1 (0, 0)).2
      (UInt32.ofNat ((found.take (k + 1)).countP fun f => f.2.frameLost)) (UInt32.ofNat (k + 1))

/-- The frames that the scanner finds in the bytes, each at its last byte. -/
def scanned (arrivals : List (UInt8 × UInt64)) : List (Nat × SbusFrame) :=
  (SbusDecoder.framing.scan 0 (arrivals.map Prod.fst)).windows.map fun w =>
    (w.1 + 24, SbusDecoder.decodedFrame (SbusDecoder.windowBuffer w.2))

/-- What the framer reports after each byte, decoded. -/
def reports (arrivals : List (UInt8 × UInt64)) : List (Option SbusFrame) :=
  (SbusDecoder.framing.feed [] (arrivals.map Prod.fst)).2.map
    (Option.map fun window => SbusDecoder.decodedFrame (SbusDecoder.windowBuffer window))

theorem reports_length (arrivals : List (UInt8 × UInt64)) :
    (reports arrivals).length = arrivals.length := by
  rw [reports, List.length_map, Framing.feed_length, List.length_map]

/-- The scanner, which has all bytes, finds what was reported on the way. -/
theorem scanned_eq (arrivals : List (UInt8 × UInt64)) :
    scanned arrivals = Framing.located 0 (reports arrivals) := by
  obtain ⟨hreports, -, -⟩ := Framing.feed_eq_scan (F := SbusDecoder.framing) [] (by simp) (by decide) 0
    (arrivals.map Prod.fst)
  rw [reports, Framing.located_map]
  refine Eq.trans ?_ (congrArg _ hreports.symm)
  rw [List.map_map]
  rfl

/-- Messages depend on the part of the stream up to their frames. -/
theorem messagesOf_append (arrivals later : List (UInt8 × UInt64)) {found : List (Nat × SbusFrame)}
    (h : ∀ f ∈ found, f.1 < arrivals.length) :
    messagesOf (arrivals ++ later) found = messagesOf arrivals found := by
  unfold messagesOf
  apply List.mapIdx_eq_mapIdx_iff.mpr
  intro k hk
  have hplace := h _ (List.getElem_mem hk)
  have htime : (arrivals ++ later).getD (found[k]).1 (0, 0) = arrivals.getD (found[k]).1 (0, 0) := by
    rw [List.getD_eq_getElem?_getD, List.getD_eq_getElem?_getD, List.getElem?_append_left hplace]
  rw [htime]

/-- One more frame, at the last byte: one more message. -/
theorem messagesOf_concat (arrivals : List (UInt8 × UInt64)) (byte : UInt8) (now : UInt64)
    {found : List (Nat × SbusFrame)} (h : ∀ f ∈ found, f.1 < arrivals.length) (frame : SbusFrame) :
    messagesOf (arrivals ++ [(byte, now)]) (found ++ [(arrivals.length, frame)]) =
      messagesOf arrivals found ++
        [SbusInput.frameMessage frame now
          (UInt32.ofNat (found.countP (·.2.frameLost) + if frame.frameLost then 1 else 0))
          (UInt32.ofNat (found.length + 1))] := by
  rw [← messagesOf_append arrivals [(byte, now)] h]
  unfold messagesOf
  rw [List.mapIdx_concat]
  congr 1
  · apply List.mapIdx_eq_mapIdx_iff.mpr
    intro k hk
    rw [List.take_append_of_le_length (by omega)]
  · have htime : (arrivals ++ [(byte, now)]).getD arrivals.length (0, 0) = (byte, now) := by
      rw [List.getD_eq_getElem?_getD, List.getElem?_concat_length]
      rfl
    have hall : (found ++ [(arrivals.length, frame)]).take (found.length + 1) =
        found ++ [(arrivals.length, frame)] := List.take_of_length_le (by simp)
    rw [htime, hall, List.countP_append, List.countP_singleton]

/-! ### The invariant -/

/-- The decoder is where the framer is, and the frames reported so far are published and counted. -/
structure Heard (p : SbusPort) (arrivals : List (UInt8 × UInt64)) : Prop where
  follows : ∃ rejections, SbusDecoder.Follows p.driver.decoder
    (SbusDecoder.framing.feed [] (arrivals.map Prod.fst)).1 (reports arrivals) rejections
  frames : frameMessages p.log = messagesOf arrivals (Framing.located 0 (reports arrivals))
  counted : p.driver.publishedFrames = UInt32.ofNat (reports arrivals).reduceOption.length

theorem Heard.messages {p : SbusPort} {arrivals : List (UInt8 × UInt64)} (h : Heard p arrivals) :
    frameMessages p.log = messagesOf arrivals (scanned arrivals) := by
  rw [scanned_eq]
  exact h.frames

theorem heard_opened (clock : UInt64) : Heard (opened clock).port [] where
  follows := ⟨0, SbusDecoder.follows_reset⟩
  frames := rfl
  counted := rfl

theorem frameMessages_publish {message : InputRcMessage} (h : message.rcLost = false)
    (log : List SbusEffect) :
    frameMessages (.publish message :: log) = frameMessages log ++ [message] := by
  simp [frameMessages, h]

theorem frameMessages_lost {message : InputRcMessage} (h : message.rcLost = true)
    (log : List SbusEffect) : frameMessages (.publish message :: log) = frameMessages log := by
  simp [frameMessages, h]

theorem frameMessages_print (notice : LinkNotice) (time : UInt64) (log : List SbusEffect) :
    frameMessages (.print notice time :: log) = frameMessages log := by
  simp [frameMessages]

/-- One byte. -/
theorem Heard.feed {p : SbusPort} {arrivals : List (UInt8 × UInt64)} (h : Heard p arrivals)
    (now : UInt64) (byte : UInt8) : Heard (p.feed now byte) (arrivals ++ [(byte, now)]) := by
  obtain ⟨rejections, hfollows⟩ := h.follows
  have hnext := hfollows.feed { byte, timestampMicroseconds := now }
  have hreport := (SbusDecoder.feed_refines hfollows.holds byte now {}).2
  dsimp only at hnext
  -- the stream has one report more, the decoder's
  have hfeed : SbusDecoder.framing.feed [] ((arrivals ++ [(byte, now)]).map Prod.fst) =
      ((SbusDecoder.framing.push (SbusDecoder.framing.feed [] (arrivals.map Prod.fst)).1 byte).1,
        (SbusDecoder.framing.feed [] (arrivals.map Prod.fst)).2 ++
          [(SbusDecoder.framing.push (SbusDecoder.framing.feed [] (arrivals.map Prod.fst)).1 byte).2]) := by
    rw [List.map_append, Framing.feed_append]
    rfl
  have hreports : reports (arrivals ++ [(byte, now)]) =
      reports arrivals ++ [SbusDecoder.reported (p.driver.decoder.feed byte now {})] := by
    rw [reports, hfeed, List.map_append, hreport]
    rfl
  have hpending : (SbusDecoder.framing.feed [] ((arrivals ++ [(byte, now)]).map Prod.fst)).1 =
      (SbusDecoder.framing.push (SbusDecoder.framing.feed [] (arrivals.map Prod.fst)).1 byte).1 := by
    rw [hfeed]
  have hplaces : ∀ f ∈ Framing.located 0 (reports arrivals), f.1 < arrivals.length := by
    intro f hf
    have hlt := Framing.located_lt hf
    rwa [reports_length, Nat.zero_add] at hlt
  have hsize : (reports arrivals).reduceOption = (Framing.located 0 (reports arrivals)).map Prod.snd :=
    (SbusDecoder.located_reduceOption 0 _).symm
  rw [SbusPort.feed_eq]
  rw [← hreports, ← hpending] at hnext
  cases hcase : SbusDecoder.reported (p.driver.decoder.feed byte now {}) with
  | none =>
      rw [hcase] at hreports
      refine ⟨⟨_, hnext⟩, ?_, ?_⟩
      · rw [hreports, Framing.located_concat, Option.map_none, Option.toList_none, List.append_nil,
          messagesOf_append arrivals _ hplaces]
        exact h.frames
      · rw [hreports, List.reduceOption_append, List.length_append]
        exact h.counted
  | some frame =>
      rw [hcase] at hreports
      refine ⟨⟨_, hnext⟩, ?_, ?_⟩
      · have htotal := hnext.total
        have hlost := hnext.lost
        rw [hreports, List.reduceOption_append, List.reduceOption_singleton, hsize, List.length_append,
          List.length_map] at htotal
        rw [hreports, List.reduceOption_append, List.reduceOption_singleton, hsize, List.countP_append,
          List.countP_map, Option.toList_some, List.countP_singleton] at hlost
        rw [hreports, Framing.located_concat, reports_length, Nat.zero_add, Option.map_some,
          Option.toList_some, messagesOf_concat arrivals byte now hplaces, ← h.frames]
        unfold SbusPort.publishFrame
        dsimp only
        rw [frameMessages_publish rfl, htotal, hlost]
        congr 1
        split
        · exact frameMessages_print _ _ _
        · rfl
      · rw [hreports, List.reduceOption_append, List.length_append, UInt32.ofNat_add, ← h.counted]
        rfl

/-- Losses and warnings are no frames. -/
theorem frameMessages_publishLossIfNeeded (now : UInt64) (p : SbusPort) :
    frameMessages (p.publishLossIfNeeded now).log = frameMessages p.log := by
  have hloss : frameMessages (p.publishLoss now).log = frameMessages p.log := by
    unfold SbusPort.publishLoss
    split
    · rfl
    · exact frameMessages_lost rfl _
  unfold SbusPort.publishLossIfNeeded
  split
  · rfl
  · unfold SbusPort.warn
    split
    · exact (frameMessages_print _ _ _).trans hloss
    · exact hloss

theorem Heard.publishLossIfNeeded {p : SbusPort} {arrivals : List (UInt8 × UInt64)}
    (h : Heard p arrivals) (now : UInt64) : Heard (p.publishLossIfNeeded now) arrivals := by
  obtain ⟨hdecoder, hcount, -, -⟩ := p.publishLossIfNeeded_frame now
  obtain ⟨rejections, hfollows⟩ := h.follows
  refine ⟨⟨rejections, ?_⟩, ?_, ?_⟩
  · rw [hdecoder]
    exact hfollows
  · rw [frameMessages_publishLossIfNeeded]
    exact h.frames
  · rw [hcount]
    exact h.counted

/-- The buffer of one `read`. Induction on its bytes. -/
theorem Heard.data {p : SbusPort} {arrivals : List (UInt8 × UInt64)} (h : Heard p arrivals)
    (now : UInt64) (bytes : List UInt8) :
    Heard (bytes.foldl (SbusPort.feed now) p) (arrivals ++ bytes.map fun byte => (byte, now)) := by
  induction bytes generalizing p arrivals with
  | nil => rwa [List.map_nil, List.append_nil]
  | cons byte bytes ih =>
      have hrest := ih (h.feed now byte)
      rwa [List.append_assoc] at hrest

theorem Heard.receive {p : SbusPort} {arrivals : List (UInt8 × UInt64)} (h : Heard p arrivals)
    (read : SerialRead) (now : UInt64) :
    Heard (p.receive read now) (arrivals ++ read.bytes.map fun byte => (byte, now)) := by
  cases read with
  | data bytes => exact h.data now bytes
  | failed errno =>
      rw [SerialRead.bytes, List.map_nil, List.append_nil]
      cases errno with
      | other => exact { h with }
      | _ => exact h

/-- One turn of the loop. -/
theorem Heard.next {s : SbusRun} (h : Heard s.port s.arrivals) (e : SbusTurn) :
    Heard (s.next e).port (s.next e).arrivals :=
  (h.receive e.read e.now).publishLossIfNeeded e.now

theorem heard {s : SbusRun} (h : system.Reachable s) : Heard s.port s.arrivals := by
  refine h.invariant (fun s => Heard s.port s.arrivals) ?_ ?_
  · rintro s ⟨clock, rfl⟩
    exact heard_opened clock
  · rintro s e t - hs rfl
    exact hs.next e

/-- However the bytes come in, the frame messages are the windows of the whole stream, in order, each with
the time of its last byte and the counts up to it; and that many were counted. -/
theorem frames_published (clock : UInt64) (turns : List SbusTurn) :
    let s := turns.foldl next (opened clock)
    frameMessages s.port.log = messagesOf s.arrivals (scanned s.arrivals) ∧
      s.port.driver.publishedFrames = UInt32.ofNat (scanned s.arrivals).length := by
  intro s
  have hs : Heard s.port s.arrivals := by
    have hstart : system.Reachable (opened clock) := .start ⟨clock, rfl⟩
    exact heard (hstart.foldl turns)
  refine ⟨hs.messages, ?_⟩
  rw [scanned_eq, hs.counted, ← SbusDecoder.located_reduceOption 0, List.length_map]

/-! ## Silence -/

/-- The message that was published last. -/
def latestMessage : List SbusEffect → Option InputRcMessage
  | [] => none
  | .publish message :: _ => some message
  | .print _ _ :: log => latestMessage log

/-- The time of the newest warning about the present silence. -/
def lastWarning : List SbusEffect → Option UInt64
  | .print .connected _ :: _ => none
  | .print _ time :: _ => some time
  | _ => none

theorem frameMessages_ne_nil {log : List SbusEffect} {m : InputRcMessage}
    (h : latestMessage log = some m) (hm : m.rcLost = false) : frameMessages log ≠ [] := by
  induction log with
  | nil => cases h
  | cons effect log ih =>
      cases effect with
      | publish message =>
          cases h
          rw [frameMessages_publish hm]
          simp
      | print notice time =>
          rw [frameMessages_print]
          exact ih h

theorem mem_frameMessages {log : List SbusEffect} {m : InputRcMessage} (hmem : .publish m ∈ log)
    (hm : m.rcLost = false) : m ∈ frameMessages log := by
  rw [frameMessages, List.mem_filterMap]
  exact ⟨.publish m, List.mem_reverse.mpr hmem, by simp [hm]⟩

/-- When the last frame was complete; a port without frames counts from its opening. -/
def lastHeard (openedAt : UInt64) (messages : List InputRcMessage) : UInt64 :=
  (messages.getLast?.map fun message => message.timestamp).getD openedAt

/-- The protocol of the log. A loss follows no other loss. A connection is announced after a loss or at
the first frame, right before that frame. Warnings belong to a loss, say whether there ever was a link,
and are five seconds apart. -/
def Permits (log : List SbusEffect) : SbusEffect → Prop
  | .publish message =>
      if message.rcLost then ∀ m ∈ latestMessage log, m.rcLost = false
      else (∃ time, log.head? = some (.print .connected time)) ∨
        ∃ m ∈ latestMessage log, m.rcLost = false
  | .print .connected _ =>
      (∀ m ∈ latestMessage log, m.rcLost = true) ∧ ∀ time, log.head? ≠ some (.print .connected time)
  | .print notice time =>
      (∃ m ∈ latestMessage log, m.rcLost = true) ∧
        (∀ warned ∈ lastWarning log, warned.toNat + 5000000 ≤ time.toNat) ∧
        (notice = .connectionLost ↔ frameMessages log ≠ [])

/-- What the driver remembers about its log, at any moment of a turn at `now`. -/
structure Kept (openedAt : UInt64) (p : SbusPort) (now : UInt64) : Prop where
  signal : p.driver.lastSignalTimestamp ≤ now
  heard : p.driver.lastSignalTimestamp = lastHeard openedAt (frameMessages p.log)
  silent : p.driver.lossPublished = true →
    p.driver.lastSignalTimestamp.toNat + 500000 < now.toNat
  latest : ∀ m ∈ latestMessage p.log, m = p.driver.lastMessage ∧ m.rcLost = p.driver.lossPublished
  first : latestMessage p.log = none →
    p.driver.lossPublished = false ∧ p.driver.everConnected = false
  connected : p.driver.everConnected = true ↔ frameMessages p.log ≠ []
  stamp : p.driver.everConnected = true →
    p.driver.lastMessage.timestampLastSignal = p.driver.lastSignalTimestamp
  quiet : p.driver.lossPublished = false → p.driver.lastLinkWarning = 0
  warned : lastWarning p.log = none ∧ p.driver.lastLinkWarning = 0 ∨
    lastWarning p.log = some p.driver.lastLinkWarning ∧ p.driver.lastLinkWarning ≠ 0 ∧
      p.driver.lastLinkWarning ≤ now
  boundary : ∀ time, p.log.head? ≠ some (.print .connected time)
  lawful : Lawful Permits p.log

theorem kept_opened (clock : UInt64) : Kept clock (opened clock).port clock where
  signal := UInt64.le_refl clock
  heard := rfl
  silent h := by cases h
  latest m h := by cases h
  first _ := ⟨rfl, rfl⟩
  connected := ⟨fun h => (by cases h), fun h => absurd rfl h⟩
  stamp h := by cases h
  quiet _ := rfl
  warned := Or.inl ⟨rfl, rfl⟩
  boundary time h := by cases h
  lawful := lawful_nil

/-- Time goes on. -/
theorem Kept.later {openedAt now now' : UInt64} {p : SbusPort} (h : Kept openedAt p now)
    (hle : now ≤ now') : Kept openedAt p now' := by
  refine { h with signal := UInt64.le_trans h.signal hle, silent := ?_, warned := ?_ }
  · intro hlost
    have hsilent := h.silent hlost
    rw [UInt64.le_iff_toNat_le] at hle
    omega
  · rcases h.warned with hnone | ⟨hwarning, hset, hbefore⟩
    · exact Or.inl hnone
    · exact Or.inr ⟨hwarning, hset, UInt64.le_trans hbefore hle⟩

/-- A frame is published, with an announcement if the link was down. -/
theorem Kept.publishFrame {openedAt now : UInt64} {p : SbusPort} (h : Kept openedAt p now)
    (frame : SbusFrame) : Kept openedAt (p.publishFrame frame now) now := by
  have hframes : frameMessages (p.publishFrame frame now).log = frameMessages p.log ++
      [SbusInput.frameMessage frame now p.driver.decoder.receiverLostFrames
        p.driver.decoder.totalFrames] := by
    unfold SbusPort.publishFrame
    dsimp only
    rw [frameMessages_publish rfl]
    congr 1
    split
    · exact frameMessages_print _ _ _
    · rfl
  refine
    { signal := UInt64.le_refl now
      heard := by rw [hframes, lastHeard, List.getLast?_concat]; rfl
      silent := fun hlost => by cases hlost
      latest := ?_
      first := fun hnone => by cases hnone
      connected := by rw [hframes]; simp [SbusPort.publishFrame]
      stamp := fun _ => rfl
      quiet := fun _ => rfl
      warned := Or.inl ⟨rfl, rfl⟩
      boundary := fun time hhead => by cases hhead
      lawful := ?_ }
  · intro m hm
    cases hm
    exact ⟨rfl, rfl⟩
  · unfold SbusPort.publishFrame
    dsimp only
    split
    · rename_i hannounce
      refine ⟨Or.inl ⟨now, rfl⟩, ⟨?_, h.boundary⟩, h.lawful⟩
      intro m hm
      rw [(h.latest m hm).2]
      by_contra hup
      rw [Bool.not_eq_true] at hup
      rw [hup, Bool.or_false, Bool.not_eq_true'] at hannounce
      -- a frame that was published has set the flag
      have hsome := frameMessages_ne_nil hm ((h.latest m hm).2.trans hup)
      rw [h.connected.mpr hsome] at hannounce
      cases hannounce
    · rename_i hannounce
      rw [Bool.not_eq_true, Bool.or_eq_false_iff, Bool.not_eq_false'] at hannounce
      refine ⟨Or.inr ?_, h.lawful⟩
      cases hcase : latestMessage p.log with
      | none =>
          rw [(h.first hcase).2] at hannounce
          cases hannounce.1
      | some m =>
          refine ⟨m, rfl, ?_⟩
          rw [(h.latest m hcase).2]
          exact hannounce.2

/-- A byte. -/
theorem Kept.feed {openedAt now : UInt64} {p : SbusPort} (h : Kept openedAt p now) (byte : UInt8) :
    Kept openedAt (p.feed now byte) now := by
  have hmoved : Kept openedAt
      { p with driver := { p.driver with decoder := (p.driver.decoder.feed byte now {}).1 } } now :=
    { h with }
  rw [SbusPort.feed_eq]
  cases SbusDecoder.reported (p.driver.decoder.feed byte now {}) with
  | none => exact hmoved
  | some frame => exact hmoved.publishFrame frame

theorem Kept.receive {openedAt now : UInt64} {p : SbusPort} (h : Kept openedAt p now)
    (read : SerialRead) : Kept openedAt (p.receive read now) now := by
  cases read with
  | data bytes =>
      refine foldl_invariant (fun _ q => Kept openedAt q now) h ?_
      intro _ byte q _ hq
      exact hq.feed byte
  | failed errno =>
      cases errno with
      | other => exact { h with }
      | _ => exact h

/-- The loss is published, unless it was published before. -/
theorem Kept.publishLoss {openedAt now : UInt64} {p : SbusPort} (h : Kept openedAt p now)
    (hsilent : p.driver.lastSignalTimestamp.toNat + 500000 < now.toNat) :
    Kept openedAt (p.publishLoss now) now ∧ (p.publishLoss now).driver.lossPublished = true := by
  unfold SbusPort.publishLoss
  split
  · rename_i hlost
    exact ⟨h, hlost⟩
  · rename_i hup
    rw [Bool.not_eq_true] at hup
    have hframes : frameMessages (.publish (p.driver.lossMessage now) :: p.log) =
        frameMessages p.log := frameMessages_lost rfl _
    refine ⟨?_, rfl⟩
    exact
      { signal := h.signal
        heard := by rw [hframes]; exact h.heard
        silent := fun _ => hsilent
        latest := fun m hm => by cases hm; exact ⟨rfl, rfl⟩
        first := fun hnone => by cases hnone
        connected := by rw [hframes]; exact h.connected
        stamp := h.stamp
        quiet := fun hlost => by cases hlost
        warned := Or.inl ⟨rfl, h.quiet hup⟩
        boundary := fun time hhead => by cases hhead
        lawful := ⟨fun m hm => (h.latest m hm).2.trans hup, h.lawful⟩ }

theorem Kept.time_ne_zero {openedAt now : UInt64} {p : SbusPort} (h : Kept openedAt p now)
    (hlost : p.driver.lossPublished = true) : now ≠ 0 := by
  rintro rfl
  exact absurd (h.silent hlost) (by simp)

/-- A warning about a silence that was published. -/
theorem Kept.printed {openedAt now : UInt64} {p : SbusPort} (h : Kept openedAt p now)
    (hlost : p.driver.lossPublished = true) {notice : LinkNotice} (hnotice : notice ≠ .connected)
    (hkind : notice = .connectionLost ↔ p.driver.everConnected = true)
    (hspaced : ∀ warned ∈ lastWarning p.log, warned.toNat + 5000000 ≤ now.toNat) :
    Kept openedAt
      { driver := { p.driver with lastLinkWarning := now }, log := .print notice now :: p.log } now := by
  have hframes : frameMessages (.print notice now :: p.log) = frameMessages p.log :=
    frameMessages_print _ _ _
  have hzero := h.time_ne_zero hlost
  have hlatest : ∃ m ∈ latestMessage p.log, m.rcLost = true := by
    cases hcase : latestMessage p.log with
    | none =>
        rw [(h.first hcase).1] at hlost
        cases hlost
    | some m => exact ⟨m, rfl, (h.latest m hcase).2.trans hlost⟩
  rw [h.connected] at hkind
  exact
    { h with
      heard := by rw [hframes]; exact h.heard
      connected := by rw [hframes]; exact h.connected
      quiet := fun hup => by rw [hlost] at hup; cases hup
      warned := by
        cases notice with
        | connected => exact absurd rfl hnotice
        | connectionLost => exact Or.inr ⟨rfl, hzero, UInt64.le_refl now⟩
        | notConnected => exact Or.inr ⟨rfl, hzero, UInt64.le_refl now⟩
      boundary := fun time hhead => by cases hhead; exact hnotice rfl
      lawful := by
        refine ⟨?_, h.lawful⟩
        cases notice with
        | connected => exact absurd rfl hnotice
        | connectionLost => exact ⟨hlatest, hspaced, hkind⟩
        | notConnected => exact ⟨hlatest, hspaced, hkind⟩ }

/-- A warning, if none was given for five seconds. -/
theorem Kept.warn {openedAt now : UInt64} {p : SbusPort} (h : Kept openedAt p now)
    (hlost : p.driver.lossPublished = true) :
    Kept openedAt (p.warn now) now ∧ (p.warn now).driver.lossPublished = true ∧
      (p.warn now).driver.lastLinkWarning ≠ 0 ∧ now.toNat < (p.warn now).driver.lastLinkWarning.toNat + 5000000 := by
  have hage (hle : p.driver.lastLinkWarning ≤ now) :
      (now - p.driver.lastLinkWarning).toNat = now.toNat - p.driver.lastLinkWarning.toNat :=
    UInt64.toNat_sub_of_le _ _ hle
  have hinterval : SbusInput.LinkWarningIntervalMicroseconds.toNat = 5000000 := rfl
  unfold SbusPort.warn
  split
  · rename_i hdue
    have hspaced : ∀ warned ∈ lastWarning p.log, warned.toNat + 5000000 ≤ now.toNat := by
      intro warned hmem
      rcases h.warned with ⟨hnone, -⟩ | ⟨hsome, hset, hbefore⟩
      · rw [hnone] at hmem
        cases hmem
      · rw [hsome] at hmem
        cases hmem
        have hold := hage hbefore
        have hlong := UInt64.le_iff_toNat_le.mp (hdue.resolve_left hset)
        omega
    refine ⟨h.printed hlost ?_ ?_ hspaced, hlost, h.time_ne_zero hlost,
      Nat.lt_add_of_pos_right (by decide)⟩
    · split <;> exact LinkNotice.noConfusion
    · split
      · rename_i hever
        exact ⟨fun _ => hever, fun _ => rfl⟩
      · rename_i hever
        exact ⟨fun heq => (by cases heq), fun htrue => absurd htrue hever⟩
  · rename_i hdue
    obtain ⟨hset, hyoung⟩ := not_or.mp hdue
    refine ⟨h, hlost, hset, ?_⟩
    rcases h.warned with ⟨-, hzero⟩ | ⟨-, -, hbefore⟩
    · exact absurd hzero hset
    · have hold := hage hbefore
      rw [UInt64.le_iff_toNat_le] at hyoung
      omega

/-- After a turn at `now`: the loss is published exactly if the silence is long enough, and the newest
warning about it is not old. -/
structure Settled (openedAt : UInt64) (p : SbusPort) (now : UInt64) : Prop
    extends Kept openedAt p now where
  lost : p.driver.lossPublished = true ↔ p.driver.lastSignalTimestamp.toNat + 500000 < now.toNat
  recent : p.driver.lossPublished = true → p.driver.lastLinkWarning ≠ 0 ∧
    now.toNat < p.driver.lastLinkWarning.toNat + 5000000

theorem Kept.publishLossIfNeeded {openedAt now : UInt64} {p : SbusPort} (h : Kept openedAt p now) :
    Settled openedAt (p.publishLossIfNeeded now) now := by
  have hage : (now - p.driver.lastSignalTimestamp).toNat =
      now.toNat - p.driver.lastSignalTimestamp.toNat := UInt64.toNat_sub_of_le _ _ h.signal
  have htimeout : SbusInput.SignalTimeoutMicroseconds.toNat = 500000 := rfl
  have hsame := (p.publishLossIfNeeded_frame now).2.2.1
  revert hsame
  unfold SbusPort.publishLossIfNeeded
  split
  · rename_i hrecent
    intro _
    rw [UInt64.le_iff_toNat_le] at hrecent
    have hup : p.driver.lossPublished = false := by
      rw [← Bool.not_eq_true]
      intro hlost
      have hsilent := h.silent hlost
      omega
    refine { h with lost := ?_, recent := fun hlost => ?_ }
    · rw [hup]
      constructor
      · intro hfalse
        cases hfalse
      · intro hsilent
        omega
    · rw [hup] at hlost
      cases hlost
  · rename_i hlong
    rw [UInt64.le_iff_toNat_le] at hlong
    have hsilent : p.driver.lastSignalTimestamp.toNat + 500000 < now.toNat := by omega
    obtain ⟨hkept, hlost⟩ := h.publishLoss hsilent
    obtain ⟨hwarned, hstill, hrecent⟩ := hkept.warn hlost
    intro hsame
    refine { hwarned with lost := ?_, recent := fun _ => hrecent }
    rw [hsame]
    exact ⟨fun _ => hsilent, fun _ => hstill⟩

/-- One turn of the loop. -/
theorem Settled.next {s : SbusRun} (h : Settled s.openedAt s.port s.time) {e : SbusTurn}
    (htime : s.Timely e) : Settled s.openedAt (s.next e).port e.now :=
  ((h.toKept.later htime).receive e.read).publishLossIfNeeded

theorem settled {s : SbusRun} (h : (system.restrict Timely).Reachable s) :
    Settled s.openedAt s.port s.time := by
  refine h.invariant (fun s => Settled s.openedAt s.port s.time) ?_ ?_
  · rintro s ⟨clock, rfl⟩
    refine { kept_opened clock with lost := ?_, recent := fun hlost => by cases hlost }
    constructor
    · intro hlost
      cases hlost
    · intro hlate
      have hnow : (opened clock).time = (opened clock).port.driver.lastSignalTimestamp := rfl
      rw [hnow] at hlate
      omega
  · rintro s e t - hs ⟨htime, rfl⟩
    exact hs.next htime

theorem messagesOf_eq_nil {arrivals : List (UInt8 × UInt64)} {found : List (Nat × SbusFrame)} :
    messagesOf arrivals found = [] ↔ found = [] := by
  rw [messagesOf, List.mapIdx_eq_nil_iff]

/-- At every moment the latest message says that the link is lost if and only if the last frame of the
stream, or the opening of the port, is more than half a second old; its signal time is that of the last
frame. As long as there is no message there was neither a frame nor such a silence. -/
theorem latest_reports_silence {s : SbusRun} (h : (system.restrict Timely).Reachable s) :
    let heardAt := lastHeard s.openedAt (messagesOf s.arrivals (scanned s.arrivals))
    (∀ m ∈ latestMessage s.port.log,
        (m.rcLost = true ↔ heardAt.toNat + 500000 < s.time.toNat) ∧
          (scanned s.arrivals ≠ [] → m.timestampLastSignal = heardAt)) ∧
      (latestMessage s.port.log = none →
        scanned s.arrivals = [] ∧ s.time.toNat ≤ s.openedAt.toNat + 500000) := by
  have hs := settled h
  have hframes := (heard (Transition.restrict_reachable h)).messages
  have hheard := hs.heard
  have hconnected := hs.connected
  rw [hframes] at hheard hconnected
  have hever : s.port.driver.everConnected = true ↔ scanned s.arrivals ≠ [] := by
    rw [hconnected, Ne, messagesOf_eq_nil]
  intro heardAt
  refine ⟨?_, ?_⟩
  · intro m hm
    obtain ⟨rfl, hlost⟩ := hs.latest m hm
    rw [hlost, hs.lost, hheard]
    refine ⟨Iff.rfl, ?_⟩
    intro hframe
    rw [hs.stamp (hever.mpr hframe), hheard]
  · intro hnone
    obtain ⟨hup, hnever⟩ := hs.first hnone
    have hempty : scanned s.arrivals = [] := by
      by_contra hframe
      rw [hever.mpr hframe] at hnever
      cases hnever
    refine ⟨hempty, ?_⟩
    have hrecent := hs.lost.not.mp (by rw [hup]; exact Bool.false_ne_true)
    rw [hheard, hempty] at hrecent
    exact Nat.not_lt.mp hrecent

/-- Two reads without a frame: the port is silent for six tenths of a second. -/
def silentRun : SbusRun := [⟨.data [0x0f], 300000⟩, ⟨.failed .EAGAIN, 600002⟩].foldl next (opened 1)

theorem latest_reports_silence_opened :
    (latestMessage silentRun.port.log).map (·.rcLost) = some true := by
  have hstart : (system.restrict Timely).Reachable (opened 1) := .start ⟨1, rfl⟩
  have hrun : (system.restrict Timely).Reachable silentRun := hstart.foldl_restrict (by decide)
  have hsome : (latestMessage silentRun.port.log).isSome = true := by decide +kernel
  obtain ⟨m, hm⟩ := Option.isSome_iff_exists.mp hsome
  rw [hm]
  exact congrArg some ((((latest_reports_silence hrun).1 m hm).1).mpr (by decide +kernel))

end SbusRun

end DualMagneticWheel
