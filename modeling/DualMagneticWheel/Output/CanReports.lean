/-
# DualMagneticWheel.Output.CanReports — the published status tells what the motors reported

The arrays of the status message are a cache of the log: the entry of an actuator is the latest report on
it, whatever configurations were loaded in between (`reports_refine`). Under a clock that does not run
backwards a published `online` flag is then a statement about time, with the 500 ms of the test and the
100 ms between two publications (`presence_detected`), and a queue that is never overrun is read to its
end in every turn (`nothing_waits`). Whether a report is credited to the motor that sent it is a question
of the configuration alone: `distinct_iff` says when.
-/
import DualMagneticWheel.Output.CanStatus

namespace DualMagneticWheel

open Foundation

/-! ## The operations on the message -/

namespace ActuatorStatus

variable {K : Type} [Scalar K]

theorem record_actuator (now : UInt64) (feedback : DamiaoFeedback K) (status : ActuatorStatus K)
    {index : Nat} (h : index < 16) (other : Nat) :
    (status.record now index feedback).actuator other =
      if index = other then .ofFeedback now feedback true else status.actuator other := by
  unfold actuator record
  rw [getD_setIfInBounds]
  simp only [h, and_true]

/-- The loop of `publishStatus` touches the flags of the four channels. -/
theorem refreshOnline_actuator (now : UInt64) (status : ActuatorStatus K) (index : Nat) :
    (status.refreshOnline now).actuator index =
      if index < CanOutput.ChannelCount then
        { status.actuator index with online := recent now (status.actuator index).timestampSample }
      else status.actuator index := by
  unfold refreshOnline
  refine forRange_invariant (fun m (s : ActuatorStatus K) => ∀ index, s.actuator index =
    if index < m then
      { status.actuator index with online := recent now (status.actuator index).timestampSample }
    else status.actuator index) ?_ ?_ index
  · intro index
    rfl
  · intro m s hm ih index
    have hwithin : m < 16 := Nat.lt_trans hm (by decide)
    have hset : ∀ x, ActuatorStatus.actuator { s with actuators := s.actuators.setIfInBounds m x } index =
        if m = index then x else s.actuator index := by
      intro x
      unfold actuator
      rw [getD_setIfInBounds]
      simp only [hwithin, and_true]
    rw [hset]
    by_cases hsame : m = index
    · subst hsame
      rw [if_pos rfl, if_pos (Nat.lt_succ_self m), ih m, if_neg (Nat.lt_irrefl m)]
    · rw [if_neg hsame, ih index]
      have hiff : index < m + 1 ↔ index < m := by omega
      simp only [hiff]

/-- Nothing but the flags changes. -/
theorem refreshOnline_frame (now : UInt64) (status : ActuatorStatus K) :
    (status.refreshOnline now).timestamp = status.timestamp ∧
      (status.refreshOnline now).rxCount = status.rxCount ∧
      (status.refreshOnline now).errorCount = status.errorCount := by
  refine forRange_invariant (fun _ (s : ActuatorStatus K) => s.timestamp = status.timestamp ∧
    s.rxCount = status.rxCount ∧ s.errorCount = status.errorCount) ⟨rfl, rfl, rfl⟩ ?_
  intro i s _ ih
  exact ih

theorem recent_iff (now timestampSample : UInt64) : recent now timestampSample = true ↔
    timestampSample ≠ 0 ∧ timestampSample ≤ now ∧ now.toNat ≤ timestampSample.toNat + 500000 := by
  unfold recent
  simp only [Bool.and_eq_true, bne_iff_ne, decide_eq_true_eq, and_assoc]
  refine and_congr_right fun _ => and_congr_right fun hle => ?_
  rw [UInt64.le_iff_toNat_le, UInt64.toNat_sub_of_le _ _ hle]
  have hbound : (500000 : UInt64).toNat = 500000 := rfl
  have hle' : timestampSample.toNat ≤ now.toNat := hle
  omega

theorem recent_zero (now : UInt64) : recent now 0 = false := rfl

end ActuatorStatus

variable {K : Type} [Add K] [Sub K] [Mul K] [Div K] [Neg K] [Scalar K]

/-! ## A frame and a channel -/

/-- When a channel takes a frame. -/
theorem feedback_isSome_iff {config : CanChannelConfig K} {frame : CanFrame} :
    (config.feedback frame).isSome = true ↔ config.protocol = .Damiao ∧
      (config.feedbackId = 0 ∨ config.feedbackId.toUInt32 = frame.id) ∧
      DamiaoProtocol.feedbackAccepted frame config.limits = true ∧
      (frame.data.getD 0 0 &&& 0x0f).toUInt16 = config.motorId &&& 0x0f := by
  have hfirst : frame.data.getD 0 0 = frame.data[0] := by
    rw [getD_eq, Vector.getElem?_eq_getElem (by decide), Option.getD_some]
  rw [hfirst]
  unfold CanChannelConfig.feedback
  by_cases hprotocol : config.protocol = .Damiao
  · by_cases hid : config.feedbackId = 0 ∨ config.feedbackId.toUInt32 = frame.id
    · have hgate : ¬ (config.protocol ≠ .Damiao ∨
          (config.feedbackId ≠ 0 ∧ config.feedbackId.toUInt32 ≠ frame.id)) := by
        simp only [not_or, not_and_or, not_not]
        exact ⟨hprotocol, hid⟩
      rw [if_neg hgate, DamiaoProtocol.decodeFeedback]
      cases DamiaoProtocol.feedbackAccepted frame config.limits with
      | false => simp
      | true => simp [hprotocol, hid]
    · rw [if_pos (Or.inr (not_or.mp hid))]
      simp [hid]
  · rw [if_pos (Or.inl hprotocol)]
    simp [hprotocol]

/-- Two channels that one frame could be meant for: the low four bits of the motor id decide, unless
the feedback ids tell them apart. -/
def CanChannelConfig.Alike (a b : CanChannelConfig K) : Prop :=
  a.protocol = .Damiao ∧ b.protocol = .Damiao ∧
    (a.feedbackId = 0 ∨ b.feedbackId = 0 ∨ a.feedbackId = b.feedbackId) ∧
    a.motorId &&& 0x0f = b.motorId &&& 0x0f

instance (a b : CanChannelConfig K) : Decidable (a.Alike b) :=
  inferInstanceAs (Decidable (_ ∧ _ ∧ (_ ∨ _ ∨ _) ∧ _))

theorem alike_of_feedback {a b : CanChannelConfig K} {frame : CanFrame}
    (ha : (a.feedback frame).isSome = true) (hb : (b.feedback frame).isSome = true) : a.Alike b := by
  obtain ⟨hpa, hida, -, hma⟩ := feedback_isSome_iff.mp ha
  obtain ⟨hpb, hidb, -, hmb⟩ := feedback_isSome_iff.mp hb
  refine ⟨hpa, hpb, ?_, hma.symm.trans hmb⟩
  rcases hida with hzero | hida
  · exact Or.inl hzero
  · rcases hidb with hzero | hidb
    · exact Or.inr (Or.inl hzero)
    · refine Or.inr (Or.inr ?_)
      exact UInt16.toNat_inj.mp (congrArg UInt32.toNat (hida.trans hidb.symm))

/-- Limits under which `decodeFeedback` accepts every frame of eight bytes. -/
def DamiaoLimits.Positive (limits : DamiaoLimits K) : Prop :=
  Scalar.lt (Scalar.ofNat 0) limits.positionMax = true ∧ Scalar.lt (Scalar.ofNat 0) limits.velocityMax = true ∧
    Scalar.lt (Scalar.ofNat 0) limits.torqueMax = true

/-- `loadChannel` accepts no other limits. -/
theorem positive_of_accepted {config : CanChannelConfig Float32} (h : config.accepted = true) :
    config.limits.Positive := by
  have hzero : (0.0 : Float32) = Scalar.ofNat 0 := rfl
  unfold CanChannelConfig.accepted at h
  simp only [Bool.and_eq_true, hzero] at h
  exact ⟨h.1.1.1.2, h.1.1.2, h.1.2⟩

/-- A frame for two channels that are alike: it carries the low four bits of the motor id, and the
feedback id of the one that asks for one. -/
def CanChannelConfig.sharedFrame (a b : CanChannelConfig K) : CanFrame where
  id := if a.feedbackId = 0 then b.feedbackId.toUInt32 else a.feedbackId.toUInt32
  length := 8
  data := #v[(a.motorId &&& 0x0f).toUInt8, 0, 0, 0, 0, 0, 0, 0]

theorem low_four_bits (id : UInt16) : ((id &&& 0x0f).toUInt8 &&& 0x0f).toUInt16 = id &&& 0x0f := by
  apply UInt16.toNat_inj.mp
  have hmask : ∀ n : Nat, n &&& 15 = n % 16 := fun n => Nat.and_two_pow_sub_one_eq_mod n 4
  have hlow : (id &&& 0x0f).toNat = id.toNat % 16 := (UInt16.toNat_and id 0x0f).trans (hmask _)
  have hbyte : ((id &&& 0x0f).toUInt8 &&& 0x0f).toNat = id.toNat % 16 % 256 % 16 := by
    rw [← hlow]
    exact (UInt8.toNat_and _ _).trans (hmask _)
  rw [hlow]
  show ((id &&& 0x0f).toUInt8 &&& 0x0f).toNat = _
  omega

theorem sharedFrame_feedback {a b : CanChannelConfig K} (h : a.Alike b) (ha : a.limits.Positive)
    (hb : b.limits.Positive) : (a.feedback (a.sharedFrame b)).isSome = true ∧
      (b.feedback (a.sharedFrame b)).isSome = true := by
  obtain ⟨hpa, hpb, hids, hmotors⟩ := h
  have haccepted : ∀ limits : DamiaoLimits K, limits.Positive →
      DamiaoProtocol.feedbackAccepted (a.sharedFrame b) limits = true := by
    rintro limits ⟨hp, hv, ht⟩
    unfold DamiaoProtocol.feedbackAccepted
    rw [hp, hv, ht]
    rfl
  refine ⟨feedback_isSome_iff.mpr ⟨hpa, ?_, haccepted _ ha, low_four_bits _⟩,
    feedback_isSome_iff.mpr ⟨hpb, ?_, haccepted _ hb, (low_four_bits _).trans hmotors⟩⟩
  · by_cases hzero : a.feedbackId = 0
    · exact Or.inl hzero
    · exact Or.inr (if_neg hzero).symm
  · by_cases hzero : a.feedbackId = 0
    · exact Or.inr (if_pos hzero).symm
    · rcases hids with hzero' | hzero' | hsame
      · exact absurd hzero' hzero
      · exact Or.inl hzero'
      · exact Or.inr (hsame ▸ (if_neg hzero).symm)

variable [OfScientific K]

/-! ## What the log says -/

/-- The report in a result of `read`: the actuator, the time, and the feedback. -/
def CanReading.report (dlc2bytes : UInt8 → UInt8) (reading : CanReading K) :
    Option (Nat × UInt64 × DamiaoFeedback K) :=
  match reading.read with
  | .message message =>
      let frame := message.frame (dlc2bytes message.dlc)
      if 8 < frame.length then none
      else (route reading.channels frame).map fun r => (r.1, reading.now, r.2)
  | .failed => none
  | .nothing => none

/-- The results of `read` that count as errors. -/
def CanReading.faulty (dlc2bytes : UInt8 → UInt8) (reading : CanReading K) : Bool :=
  match reading.read with
  | .message message => decide (8 < (message.frame (dlc2bytes message.dlc)).length)
  | .failed => true
  | .nothing => false

namespace CanNote

variable (dlc2bytes : UInt8 → UInt8)

def read : CanNote K → Option CanRead
  | .heard reading => some reading.read
  | .published _ => none

def report : CanNote K → Option (Nat × UInt64 × DamiaoFeedback K)
  | .heard reading => reading.report dlc2bytes
  | .published _ => none

def faulty : CanNote K → Bool
  | .heard reading => reading.faulty dlc2bytes
  | .published _ => false

/-- When a note was written. -/
def stamp : CanNote K → UInt64
  | .heard reading => reading.now
  | .published status => status.timestamp

end CanNote

/-- What a log knows about an actuator. -/
def known (dlc2bytes : UInt8 → UInt8) (log : List (CanNote K)) (index : Nat) :
    Option (UInt64 × DamiaoFeedback K) := latest (CanNote.report dlc2bytes) log index

/-- The entry of an actuator that is known by a report, or not at all. -/
def ActuatorReport.of (sample : Option (UInt64 × DamiaoFeedback K)) (online : Bool) : ActuatorReport K :=
  let (now, feedback) := sample.getD (0, .initial)
  .ofFeedback now feedback online

/-! ## Routing -/

/-- A frame goes to one of the four channels, the first one that takes it. -/
theorem route_eq_some_iff {channels : Vector (CanChannelConfig K) 4} {frame : CanFrame} {index : Nat}
    {feedback : DamiaoFeedback K} : route channels frame = some (index, feedback) ↔
      index < CanOutput.ChannelCount ∧ (channels.getD index .initial).feedback frame = some feedback ∧
        ∀ earlier < index, (channels.getD earlier .initial).feedback frame = none := by
  unfold route
  rw [findSome?_range]
  constructor
  · rintro ⟨found, hfound, hpair, hbefore⟩
    obtain ⟨feedback', hfeedback, hsame⟩ := Option.map_eq_some_iff.mp hpair
    cases hsame
    exact ⟨hfound, hfeedback, fun earlier hearlier => Option.map_eq_none_iff.mp (hbefore earlier hearlier)⟩
  · rintro ⟨hindex, hfeedback, hbefore⟩
    refine ⟨index, hindex, by rw [hfeedback]; rfl, fun earlier hearlier => ?_⟩
    rw [hbefore earlier hearlier]
    rfl

/-- The reports of every motor are credited to its own channel exactly when no two channels are alike. -/
theorem distinct_iff (channels : Vector (CanChannelConfig K) 4)
    (hlimits : ∀ index < CanOutput.ChannelCount, (channels.getD index .initial).limits.Positive) :
    (∀ i < CanOutput.ChannelCount, ∀ j < CanOutput.ChannelCount, i ≠ j →
        ¬ (channels.getD i .initial).Alike (channels.getD j .initial)) ↔
      ∀ frame index feedback, index < CanOutput.ChannelCount →
        (channels.getD index .initial).feedback frame = some feedback →
          route channels frame = some (index, feedback) := by
  constructor
  · intro hdistinct frame index feedback hindex hfeedback
    refine route_eq_some_iff.mpr ⟨hindex, hfeedback, fun earlier hearlier => ?_⟩
    rw [← Option.not_isSome_iff_eq_none]
    intro htakes
    exact hdistinct earlier (Nat.lt_trans hearlier hindex) index hindex (Nat.ne_of_lt hearlier)
      (alike_of_feedback htakes (by rw [hfeedback]; rfl))
  · intro hroute i hi j hj hne halike
    obtain ⟨hfirst, hsecond⟩ := sharedFrame_feedback halike (hlimits i hi) (hlimits j hj)
    obtain ⟨feedback, hfeedback⟩ := Option.isSome_iff_exists.mp hfirst
    obtain ⟨feedback', hfeedback'⟩ := Option.isSome_iff_exists.mp hsecond
    have hsame := (hroute _ i feedback hi hfeedback).symm.trans (hroute _ j feedback' hj hfeedback')
    exact hne (Prod.mk.inj (Option.some_inj.mp hsame)).1

/-! ## The cache and the log -/

section Cache

variable {dlc2bytes : UInt8 → UInt8}

theorem known_heard_of_none {reading : CanReading K} (h : reading.report dlc2bytes = none)
    (log : List (CanNote K)) (index : Nat) :
    known dlc2bytes (.heard reading :: log) index = known dlc2bytes log index :=
  latest_cons_of_none (show CanNote.report dlc2bytes (.heard reading) = none from h) log index

theorem known_heard_of_some {reading : CanReading K} {reported : Nat} {sample : UInt64 × DamiaoFeedback K}
    (h : reading.report dlc2bytes = some (reported, sample)) (log : List (CanNote K)) (index : Nat) :
    known dlc2bytes (.heard reading :: log) index =
      if reported = index then some sample else known dlc2bytes log index :=
  latest_cons_of_some
    (show CanNote.report dlc2bytes (.heard reading) = some (reported, sample) from h) log index

theorem known_published (status : ActuatorStatus K) (log : List (CanNote K)) (index : Nat) :
    known dlc2bytes (.published status :: log) index = known dlc2bytes log index :=
  latest_cons_of_none rfl log index

/-- The entries of a message hold what the log knows; an actuator that never reported is offline. -/
def Mirrors (dlc2bytes : UInt8 → UInt8) (log : List (CanNote K)) (status : ActuatorStatus K) : Prop :=
  ∀ index, ∃ online, status.actuator index = .of (known dlc2bytes log index) online ∧
    (known dlc2bytes log index = none → online = false)

/-- What is published: the flags follow from the times of the reports. -/
def Announces (dlc2bytes : UInt8 → UInt8) (log : List (CanNote K)) (status : ActuatorStatus K) : Prop :=
  ∀ index, status.actuator index = .of (known dlc2bytes log index)
    (ActuatorStatus.recent status.timestamp ((known dlc2bytes log index).map Prod.fst |>.getD 0))

/-- The account that the receiving half keeps, with the errors counted elsewhere. -/
structure Accounts (dlc2bytes : UInt8 → UInt8) (errors : UInt32) (r : CanReceiver K) : Prop where
  mirrors : Mirrors dlc2bytes r.log r.status
  received : r.status.rxCount = UInt32.ofNat (r.log.countP fun note => (note.report dlc2bytes).isSome)
  faults : r.status.errorCount = errors + UInt32.ofNat (r.log.countP (·.faulty dlc2bytes))
  published : Lawful (fun earlier note => ∀ status, note = .published status →
    Announces dlc2bytes earlier status) r.log

theorem Mirrors.congr {log log' : List (CanNote K)} {status status' : ActuatorStatus K}
    (h : Mirrors dlc2bytes log status) (hlog : ∀ index, known dlc2bytes log' index = known dlc2bytes log index)
    (hstatus : status'.actuators = status.actuators) : Mirrors dlc2bytes log' status' := by
  intro index
  rw [hlog index]
  have hentry : status'.actuator index = status.actuator index := by
    unfold ActuatorStatus.actuator
    rw [hstatus]
  rw [hentry]
  exact h index

/-- A report that was recorded. -/
theorem Mirrors.record {log : List (CanNote K)} {status : ActuatorStatus K} (h : Mirrors dlc2bytes log status)
    {reading : CanReading K} {index : Nat} {feedback : DamiaoFeedback K} (hindex : index < 16)
    (hreport : reading.report dlc2bytes = some (index, reading.now, feedback)) :
    Mirrors dlc2bytes (.heard reading :: log) (status.record reading.now index feedback) := by
  intro other
  rw [known_heard_of_some hreport, ActuatorStatus.record_actuator _ _ _ hindex]
  by_cases hsame : index = other
  · simp only [if_pos hsame]
    exact ⟨true, rfl, nofun⟩
  · simp only [if_neg hsame]
    exact h other

/-- Setting the flags makes the message one that may be published. -/
theorem Mirrors.announces {log : List (CanNote K)} {status : ActuatorStatus K} (h : Mirrors dlc2bytes log status)
    (hroutes : ∀ index, CanOutput.ChannelCount ≤ index → known dlc2bytes log index = none) (now : UInt64) :
    Announces dlc2bytes log ({ status with timestamp := now }.refreshOnline now) := by
  intro index
  obtain ⟨online, hentry, hsilent⟩ := h index
  have htime : ({ status with timestamp := now }.refreshOnline now).timestamp = now :=
    (ActuatorStatus.refreshOnline_frame now _).1
  rw [ActuatorStatus.refreshOnline_actuator, htime]
  have hsame : ActuatorStatus.actuator { status with timestamp := now } index = status.actuator index := rfl
  rw [hsame, hentry]
  by_cases hchannel : index < CanOutput.ChannelCount
  · rw [if_pos hchannel]
    cases known dlc2bytes log index <;> rfl
  · have hnone := hroutes index (Nat.le_of_not_lt hchannel)
    rw [if_neg hchannel, hsilent hnone, hnone]
    rfl

theorem Announces.mirrors {log : List (CanNote K)} {status : ActuatorStatus K}
    (h : Announces dlc2bytes log status) : Mirrors dlc2bytes log status := by
  intro index
  refine ⟨_, h index, fun hnone => ?_⟩
  rw [hnone]
  exact ActuatorStatus.recent_zero _

theorem report_eq {reading : CanReading K} {index : Nat} {sample : UInt64 × DamiaoFeedback K}
    (h : reading.report dlc2bytes = some (index, sample)) :
    index < CanOutput.ChannelCount ∧ sample.1 = reading.now := by
  unfold CanReading.report at h
  split at h
  · dsimp only at h
    split at h
    · cases h
    · obtain ⟨⟨found, feedback⟩, hroute, hsame⟩ := Option.map_eq_some_iff.mp h
      cases hsame
      exact ⟨(route_eq_some_iff.mp hroute).1, rfl⟩
  · cases h
  · cases h

/-- Only the four channels report. -/
theorem known_lt {log : List (CanNote K)} {index : Nat} {sample : UInt64 × DamiaoFeedback K}
    (h : known dlc2bytes log index = some sample) : index < CanOutput.ChannelCount := by
  obtain ⟨note, -, hnote⟩ := exists_of_latest h
  cases note with
  | heard reading => exact (report_eq hnote).1
  | published status => cases hnote

/-! ## One result of `read` -/

theorem used_accounts {errors : UInt32} {r : CanReceiver K} (h : Accounts dlc2bytes errors r)
    (channels : Vector (CanChannelConfig K) 4) (now : UInt64) (read : CanRead) (pending : List CanRead) :
    Accounts dlc2bytes errors (r.used dlc2bytes channels now read pending) := by
  unfold CanReceiver.used
  have hlawful : Lawful (fun earlier note => ∀ status, note = .published status →
      Announces dlc2bytes earlier status) (.heard ⟨now, channels, read⟩ :: r.log) :=
    ⟨nofun, h.published⟩
  -- what a reading without a report leaves alone
  have hsilent : CanReading.report dlc2bytes ⟨now, channels, read⟩ = none → ∀ status : ActuatorStatus K,
      status.actuators = r.status.actuators →
      Mirrors dlc2bytes (.heard ⟨now, channels, read⟩ :: r.log) status := by
    intro hnone status hstatus
    exact h.mirrors.congr (known_heard_of_none hnone r.log) hstatus
  have hcount : ∀ p : CanNote K → Bool, (CanNote.heard ⟨now, channels, read⟩ :: r.log).countP p =
      r.log.countP p + if p (.heard ⟨now, channels, read⟩) then 1 else 0 := fun p => List.countP_cons
  have hsuccessor : ∀ n : Nat, UInt32.ofNat (n + 1) = UInt32.ofNat n + 1 := fun n =>
    UInt32.ofNat_add n 1
  cases read with
  | nothing => exact ⟨hsilent rfl _ rfl, h.received, h.faults, hlawful⟩
  | failed =>
      refine ⟨hsilent rfl _ rfl, h.received, ?_, hlawful⟩
      show r.status.errorCount + 1 = _
      rw [hcount, h.faults]
      exact (UInt32.add_assoc _ _ _).trans (congrArg _ (hsuccessor _).symm)
  | message message =>
      by_cases hlong : 8 < (message.frame (dlc2bytes message.dlc)).length
      · -- an oversized message counts as an error
        have hreport : CanReading.report dlc2bytes ⟨now, channels, .message message⟩ = none := if_pos hlong
        have hfaulty : CanNote.faulty dlc2bytes (.heard ⟨now, channels, .message message⟩) = true :=
          decide_eq_true hlong
        have hturn : CanReceiver.receiveTurn dlc2bytes channels now (.message message) r.status =
            (true, r.status.countError) := if_pos hlong
        rw [hturn]
        refine ⟨hsilent hreport _ rfl, ?_, ?_, hlawful⟩
        · rw [hcount]
          simp only [CanNote.report, hreport]
          exact h.received
        · show r.status.errorCount + 1 = _
          rw [hcount, hfaulty, h.faults]
          exact (UInt32.add_assoc _ _ _).trans (congrArg _ (hsuccessor _).symm)
      · have hturn : CanReceiver.receiveTurn dlc2bytes channels now (.message message) r.status =
            (true, (handleFeedback channels (message.frame (dlc2bytes message.dlc)) now r.status).2) :=
          if_neg hlong
        have hreport : CanReading.report dlc2bytes ⟨now, channels, .message message⟩ =
            (route channels (message.frame (dlc2bytes message.dlc))).map fun r => (r.1, now, r.2) :=
          if_neg hlong
        have hfaulty : CanNote.faulty dlc2bytes (.heard ⟨now, channels, .message message⟩) = false :=
          decide_eq_false hlong
        rw [hturn, handleFeedback]
        cases hroute : route channels (message.frame (dlc2bytes message.dlc)) with
        | none =>
            rw [hroute] at hreport
            refine ⟨hsilent hreport _ rfl, ?_, ?_, hlawful⟩
            · rw [hcount]
              simp only [CanNote.report, hreport]
              exact h.received
            · rw [hcount, hfaulty]
              exact h.faults
        | some found =>
            rw [hroute] at hreport
            have hindex : found.1 < 16 := Nat.lt_trans (route_eq_some_iff.mp hroute).1 (by decide)
            refine ⟨h.mirrors.record hindex hreport, ?_, ?_, hlawful⟩
            · show r.status.rxCount + 1 = _
              rw [hcount, h.received]
              simp only [CanNote.report, hreport]
              exact (hsuccessor _).symm
            · rw [hcount, hfaulty]
              exact h.faults

/-! ## A turn of the receiving half -/

namespace CanReceiver

/-- What has reached the device: what was read, oldest first, and what waits. -/
def delivered (r : CanReceiver K) : List CanRead := (r.log.filterMap CanNote.read).reverse ++ r.pending

/-- The loop rule of `receiveFrames`. -/
theorem receiveLoop_invariant {P : CanReceiver K → Prop} {channels : Vector (CanChannelConfig K) 4}
    {now : UInt64} (hstep : ∀ r read pending, r.pending = read :: pending → P r →
      P (r.used dlc2bytes channels now read pending)) (left : Nat) {r : CanReceiver K} (h : P r) :
    P (receiveLoop dlc2bytes channels now left r) := by
  induction left generalizing r with
  | zero => exact h
  | succ left ih =>
      unfold receiveLoop
      split
      · exact h
      · rename_i read pending hpending
        have hnext := hstep r read pending hpending h
        split
        · exact ih hnext
        · exact hnext

theorem receiveFrames_invariant {P : CanReceiver K → Prop} {channels : Vector (CanChannelConfig K) 4}
    {now : UInt64} (canFd : Int) (hstep : ∀ r read pending, r.pending = read :: pending → P r →
      P (r.used dlc2bytes channels now read pending)) {r : CanReceiver K} (h : P r) :
    P (receiveFrames dlc2bytes canFd channels now r) := by
  unfold receiveFrames
  split
  · exact h
  · exact receiveLoop_invariant hstep 32 h

theorem receiveFrames_accounts {errors : UInt32} {r : CanReceiver K} (h : Accounts dlc2bytes errors r)
    (canFd : Int) (channels : Vector (CanChannelConfig K) 4) (now : UInt64) :
    Accounts dlc2bytes errors (r.receiveFrames dlc2bytes canFd channels now) :=
  receiveFrames_invariant (P := Accounts dlc2bytes errors) canFd
    (fun _ read pending _ haccounts => used_accounts haccounts channels now read pending) h

variable (dlc2bytes) in
/-- Reading moves a result from the queue to the log. -/
theorem receiveFrames_delivered (r : CanReceiver K) (canFd : Int)
    (channels : Vector (CanChannelConfig K) 4) (now : UInt64) :
    (r.receiveFrames dlc2bytes canFd channels now).delivered = r.delivered := by
  refine receiveFrames_invariant (P := fun r' => r'.delivered = r.delivered) canFd ?_ rfl
  intro r' read pending hpending ih
  rw [← ih]
  have hread : (r'.used dlc2bytes channels now read pending).log.filterMap CanNote.read =
      read :: r'.log.filterMap CanNote.read := rfl
  unfold delivered
  rw [hread, List.reverse_cons, hpending, List.append_assoc]
  rfl

theorem publishStatus_accounts {errors : UInt32} {r : CanReceiver K} (h : Accounts dlc2bytes errors r)
    (now : UInt64) : Accounts dlc2bytes errors (r.publishStatus now) := by
  have hannounces := h.mirrors.announces (fun index hindex => ?_) now
  · obtain ⟨-, hrx, herrors⟩ :=
      ActuatorStatus.refreshOnline_frame now { r.status with timestamp := now }
    refine ⟨hannounces.mirrors.congr (known_published _ r.log) rfl, ?_, ?_, ?_⟩
    · exact hrx.trans h.received
    · exact herrors.trans h.faults
    · refine ⟨fun status hstatus => ?_, h.published⟩
      cases hstatus
      exact hannounces
  · rw [Option.eq_none_iff_forall_ne_some]
    intro sample hknown
    exact absurd (known_lt hknown) (Nat.not_lt.mpr hindex)

theorem runOnce_accounts {errors : UInt32} {r : CanReceiver K} (h : Accounts dlc2bytes errors r)
    (canFd : Int) (channels : Vector (CanChannelConfig K) 4) (now : UInt64) :
    Accounts dlc2bytes errors (r.runOnce dlc2bytes canFd channels now) := by
  have hread : Accounts dlc2bytes errors
      ({ r with time := now }.receiveFrames dlc2bytes canFd channels now) :=
    receiveFrames_accounts (r := { r with time := now })
      ⟨h.mirrors, h.received, h.faults, h.published⟩ canFd channels now
  unfold runOnce
  dsimp only
  split
  · have hdone := publishStatus_accounts hread now
    exact ⟨hdone.mirrors, hdone.received, hdone.faults, hdone.published⟩
  · exact hread

theorem runOnce_delivered (r : CanReceiver K) (canFd : Int) (channels : Vector (CanChannelConfig K) 4)
    (now : UInt64) : (r.runOnce dlc2bytes canFd channels now).delivered = r.delivered := by
  have hread := receiveFrames_delivered dlc2bytes { r with time := now } canFd channels now
  unfold runOnce
  dsimp only
  split
  · exact hread
  · exact hread

/-! ## Times -/

/-- The log is in the order of time, and the topic holds the last publication. -/
structure Timely (r : CanReceiver K) : Prop where
  sorted : r.log.Pairwise fun newer older => older.stamp ≤ newer.stamp
  past : ∀ note ∈ r.log, 0 < note.stamp ∧ note.stamp ≤ r.time
  latest : r.lastStatusPublish ≠ 0 → r.lastStatusPublish ≤ r.time ∧ r.topic.advertised = true ∧
    r.topic.message.timestamp = r.lastStatusPublish ∧
      ∃ newer earlier, r.log = newer ++ .published r.topic.message :: earlier

omit [Add K] [Sub K] [Mul K] [Div K] [Neg K] [Scalar K] [OfScientific K] in
/-- A note of the present goes on top. -/
theorem Timely.note {r : CanReceiver K} (h : Timely r) (r' : CanReceiver K) {note : CanNote K} (hlog : r'.log = note :: r.log)
    (htime : r'.time = r.time) (hnote : 0 < note.stamp ∧ note.stamp = r.time) :
    (r'.log.Pairwise fun newer older => older.stamp ≤ newer.stamp) ∧
      ∀ note ∈ r'.log, 0 < note.stamp ∧ note.stamp ≤ r'.time := by
  rw [hlog, htime, List.pairwise_cons]
  refine ⟨⟨fun older holder => ?_, h.sorted⟩, fun note' hnote' => ?_⟩
  · rw [hnote.2]
    exact (h.past older holder).2
  · rcases List.mem_cons.mp hnote' with rfl | hold
    · exact ⟨hnote.1, hnote.2 ▸ UInt64.le_refl _⟩
    · exact h.past note' hold

variable (dlc2bytes) in
theorem receiveFrames_timely {r : CanReceiver K} (h : Timely r) (hpositive : 0 < r.time) (canFd : Int)
    (channels : Vector (CanChannelConfig K) 4) :
    Timely (r.receiveFrames dlc2bytes canFd channels r.time) ∧
      (r.receiveFrames dlc2bytes canFd channels r.time).time = r.time ∧
      (r.receiveFrames dlc2bytes canFd channels r.time).lastStatusPublish = r.lastStatusPublish := by
  refine receiveFrames_invariant (P := fun r' => Timely r' ∧ r'.time = r.time ∧
    r'.lastStatusPublish = r.lastStatusPublish) canFd ?_ ⟨h, rfl, rfl⟩
  rintro r' read pending - ⟨htimely, htime, hlast⟩
  obtain ⟨hsorted, hpast⟩ := htimely.note (r'.used dlc2bytes channels r.time read pending) rfl rfl
    ⟨hpositive, htime.symm⟩
  refine ⟨⟨hsorted, hpast, fun hset => ?_⟩, htime, hlast⟩
  obtain ⟨hle, hadvertised, hstamp, newer, earlier, hsplit⟩ := htimely.latest hset
  exact ⟨hle, hadvertised, hstamp, _ :: newer, earlier, congrArg _ hsplit⟩

omit [Add K] [Sub K] [Mul K] [Div K] [Neg K] [OfScientific K] in
theorem publishStatus_timely {r : CanReceiver K} (h : Timely r) (hpositive : 0 < r.time) :
    Timely { r.publishStatus r.time with lastStatusPublish := r.time } := by
  have hstamp : (CanNote.published ({ r.status with timestamp := r.time }.refreshOnline r.time)).stamp =
      r.time := (ActuatorStatus.refreshOnline_frame r.time _).1
  obtain ⟨hsorted, hpast⟩ := h.note (r.publishStatus r.time) rfl rfl
    ⟨by rw [hstamp]; exact hpositive, hstamp⟩
  exact ⟨hsorted, hpast, fun _ => ⟨UInt64.le_refl _, rfl, hstamp, [], r.log, rfl⟩⟩

variable (dlc2bytes) in
/-- After a turn the last publication is less than 100 ms old. -/
theorem runOnce_timely {r : CanReceiver K} (h : Timely r) {now : UInt64} (hpositive : 0 < now)
    (hnow : r.time ≤ now) (canFd : Int) (channels : Vector (CanChannelConfig K) 4) :
    Timely (r.runOnce dlc2bytes canFd channels now) ∧
      (r.runOnce dlc2bytes canFd channels now).time = now ∧
      (r.runOnce dlc2bytes canFd channels now).lastStatusPublish ≠ 0 ∧
      now.toNat < (r.runOnce dlc2bytes canFd channels now).lastStatusPublish.toNat + 100000 := by
  have hset : Timely { r with time := now } := by
    refine ⟨h.sorted, fun note hnote => ?_, fun hlast => ?_⟩
    · exact ⟨(h.past note hnote).1, UInt64.le_trans (h.past note hnote).2 hnow⟩
    · obtain ⟨hle, hrest⟩ := h.latest hlast
      exact ⟨UInt64.le_trans hle hnow, hrest⟩
  obtain ⟨hread, htime, hlast⟩ := receiveFrames_timely dlc2bytes hset hpositive canFd channels
  unfold runOnce
  dsimp only at hread htime hlast ⊢
  generalize CanReceiver.receiveFrames dlc2bytes canFd channels now { r with time := now } = r' at *
  split
  · subst htime
    refine ⟨publishStatus_timely hread hpositive, rfl, ?_, ?_⟩
    · exact (UInt64.ne_of_lt hpositive).symm
    · exact Nat.lt_add_of_pos_right (by decide)
  · rename_i hdue
    obtain ⟨hnever, hrecent⟩ := not_or.mp hdue
    have hle := (hread.latest hnever).1
    rw [htime] at hle
    rw [UInt64.not_le, UInt64.lt_iff_toNat_lt, UInt64.toNat_sub_of_le _ _ hle] at hrecent
    have hbound : (100000 : UInt64).toNat = 100000 := rfl
    refine ⟨hread, htime, hnever, ?_⟩
    omega

end CanReceiver

/-- A published flag goes back to a report. -/
theorem Announces.of_online {log : List (CanNote K)} {status : ActuatorStatus K}
    (h : Announces dlc2bytes log status) {index : Nat} (honline : (status.actuator index).online = true) :
    ∃ reading feedback, .heard reading ∈ log ∧
      reading.report dlc2bytes = some (index, reading.now, feedback) ∧
      status.timestamp.toNat ≤ reading.now.toNat + 500000 ∧
      status.actuator index = .ofFeedback reading.now feedback true := by
  have hentry := h index
  cases hknown : known dlc2bytes log index with
  | none =>
      rw [hentry, hknown] at honline
      exact absurd ((ActuatorStatus.recent_zero status.timestamp).symm.trans honline) (by decide)
  | some sample =>
      rw [hknown] at hentry
      rw [hentry] at honline
      obtain ⟨note, hnote, hreport⟩ := exists_of_latest hknown
      cases note with
      | published other => cases hreport
      | heard reading =>
          obtain ⟨sampled, feedback⟩ := sample
          obtain rfl : sampled = reading.now := (report_eq hreport).2
          obtain ⟨-, -, hrecent⟩ := (ActuatorStatus.recent_iff _ _).mp honline
          exact ⟨reading, feedback, hnote, hreport, hrecent, hentry.trans (congrArg _ honline)⟩

/-- A report from before the publication, or a newer one, is what the flag was set from. -/
theorem Announces.online_of_heard {log newer earlier : List (CanNote K)} {status : ActuatorStatus K}
    (h : Announces dlc2bytes earlier status)
    (hsorted : log.Pairwise fun newer older => older.stamp ≤ newer.stamp)
    (hpast : ∀ note ∈ log, 0 < note.stamp) (hsplit : log = newer ++ .published status :: earlier)
    {reading : CanReading K} (hheard : .heard reading ∈ log) {index : Nat} {feedback : DamiaoFeedback K}
    (hreport : reading.report dlc2bytes = some (index, reading.now, feedback))
    (hold : reading.now < status.timestamp)
    (hyoung : status.timestamp.toNat ≤ reading.now.toNat + 500000) :
    (status.actuator index).online = true := by
  rw [hsplit] at hsorted hpast hheard
  rw [List.pairwise_append, List.pairwise_cons] at hsorted
  obtain ⟨-, ⟨hbelow, horder⟩, habove⟩ := hsorted
  have hbefore : .heard reading ∈ earlier := by
    rcases List.mem_append.mp hheard with hnewer | hrest
    · exact absurd (habove _ hnewer _ List.mem_cons_self) (UInt64.not_le.mpr hold)
    · rcases List.mem_cons.mp hrest with heq | hbefore
      · cases heq
      · exact hbefore
  obtain ⟨later, note, older, sample, hcut, hnote, hknown, hmem⟩ := exists_latest_of_mem hbefore
    (show CanNote.report dlc2bytes (.heard reading) = some (index, reading.now, feedback) from hreport)
  have hin : note ∈ earlier := by
    rw [hcut]
    exact List.mem_append_right _ List.mem_cons_self
  cases note with
  | published other => cases hnote
  | heard latest =>
      have hsample : sample.1 = latest.now := (report_eq hnote).2
      have hpositive : 0 < latest.now :=
        hpast _ (List.mem_append_right _ (List.mem_cons_of_mem _ hin))
      have hbound : latest.now ≤ status.timestamp := hbelow _ hin
      have hnewest : reading.now ≤ latest.now := by
        rcases List.mem_cons.mp hmem with heq | holder
        · cases heq
          exact UInt64.le_refl _
        · rw [hcut, List.pairwise_append, List.pairwise_cons] at horder
          exact horder.2.1.1 _ holder
      have hentry := h index
      rw [show known dlc2bytes earlier index = some sample from hknown] at hentry
      rw [hentry]
      refine (ActuatorStatus.recent_iff _ _).mpr ?_
      simp only [Option.map_some, Option.getD_some, hsample]
      rw [UInt64.le_iff_toNat_le] at hnewest
      exact ⟨(UInt64.ne_of_lt hpositive).symm, hbound, by omega⟩

/-! ## The queue -/

namespace CanReceiver

/-- A queue of messages no longer than the number of turns left is read to its end. -/
theorem receiveLoop_drains (channels : Vector (CanChannelConfig K) 4) (now : UInt64) {left : Nat}
    {r : CanReceiver K} (hlength : r.pending.length ≤ left)
    (hmessages : ∀ read ∈ r.pending, ∃ message, read = .message message) :
    (receiveLoop dlc2bytes channels now left r).pending = [] := by
  induction left generalizing r with
  | zero => exact List.length_eq_zero_iff.mp (Nat.le_zero.mp hlength)
  | succ left ih =>
      unfold receiveLoop
      split
      · assumption
      · rename_i read pending hpending
        rw [hpending] at hlength hmessages
        obtain ⟨message, rfl⟩ := hmessages _ List.mem_cons_self
        have hgoes : (receiveTurn dlc2bytes channels now (.message message) r.status).1 = true := by
          unfold receiveTurn
          dsimp only
          split <;> rfl
        rw [if_pos hgoes]
        exact ih (Nat.le_of_succ_le_succ hlength) fun read hread =>
          hmessages read (List.mem_cons_of_mem _ hread)

end CanReceiver

end Cache

/-! ## Whole runs -/

namespace CanNode

variable {dlc2bytes : UInt8 → UInt8}

theorem initial_accounts : Accounts dlc2bytes 0 (CanReceiver.initial : CanReceiver Float32) := by
  refine ⟨fun index => ⟨false, ?_, fun _ => rfl⟩, rfl, rfl, lawful_nil⟩
  exact getD_replicate 16 index _

theorem failuresSince_add {d d' d'' : CanDriver} (h : CanDriver.FailuresKept d d')
    (h' : CanDriver.FailuresKept d' d'') :
    failuresSince d d' + failuresSince d' d'' = failuresSince d d'' := by
  have hle := h.length_le
  have hle' := h'.length_le
  unfold failuresSince
  omega

/-- One input. -/
theorem next_accounts {errors : UInt32} {n : CanNode} (h : Accounts dlc2bytes errors n.receiver)
    (e : Event) :
    Accounts dlc2bytes (errors + UInt32.ofNat (failuresSince n.task.driver (n.task.next e.event).driver))
        (n.next dlc2bytes e).receiver ∧
      (n.next dlc2bytes e).receiver.delivered = n.receiver.delivered ++ e.arrivals := by
  have hsend : Accounts dlc2bytes
      (errors + UInt32.ofNat (failuresSince n.task.driver (n.task.next e.event).driver))
      (n.send e).receiver := by
    refine ⟨h.mirrors.congr (fun _ => rfl) rfl, h.received, ?_, h.published⟩
    show n.receiver.status.errorCount + UInt32.ofNat _ = _
    rw [h.faults, UInt32.add_assoc, UInt32.add_assoc, UInt32.add_comm (UInt32.ofNat (failuresSince _ _))]
    rfl
  have hqueue : (n.send e).receiver.delivered = n.receiver.delivered ++ e.arrivals :=
    (List.append_assoc _ _ _).symm
  unfold next
  dsimp only
  split
  · exact ⟨CanReceiver.runOnce_accounts hsend _ _ _,
      (CanReceiver.runOnce_delivered _ _ _ _).trans hqueue⟩
  · exact ⟨hsend, hqueue⟩

/-- The state after a sequence of inputs. -/
def after (dlc2bytes : UInt8 → UInt8) (t₀ : CanTask) (es : List Event) : CanNode :=
  es.foldl (next dlc2bytes) { task := t₀, receiver := .initial }

theorem next_task (n : CanNode) (e : Event) : (n.next dlc2bytes e).task = n.task.next e.event := by
  unfold next
  dsimp only
  split <;> rfl

/-- For every sequence of inputs, with reloads of the configuration anywhere in it: every result of `read`
was used once and in order, the entries of the message are the latest reports, the counters count the
reports and the errors of both halves, and every publication announced what was known at the time. -/
theorem reports_refine (dlc2bytes : UInt8 → UInt8) (t₀ : CanTask) (es : List Event) :
    ((after dlc2bytes t₀ es).receiver.log.filterMap CanNote.read).reverse ++
        (after dlc2bytes t₀ es).receiver.pending = es.flatMap (·.arrivals) ∧
      (∀ index, ∃ online, (after dlc2bytes t₀ es).receiver.status.actuator index =
        .of (known dlc2bytes (after dlc2bytes t₀ es).receiver.log index) online) ∧
      (after dlc2bytes t₀ es).receiver.status.rxCount =
        UInt32.ofNat ((after dlc2bytes t₀ es).receiver.log.countP (·.report dlc2bytes |>.isSome)) ∧
      (after dlc2bytes t₀ es).receiver.status.errorCount =
        UInt32.ofNat (failuresSince t₀.driver (after dlc2bytes t₀ es).task.driver) +
          UInt32.ofNat ((after dlc2bytes t₀ es).receiver.log.countP (·.faulty dlc2bytes)) ∧
      ∀ newer status earlier, (after dlc2bytes t₀ es).receiver.log = newer ++ .published status :: earlier →
        Announces dlc2bytes earlier status := by
  have hrun : CanDriver.FailuresKept t₀.driver (after dlc2bytes t₀ es).task.driver ∧
      Accounts dlc2bytes (UInt32.ofNat (failuresSince t₀.driver (after dlc2bytes t₀ es).task.driver))
        (after dlc2bytes t₀ es).receiver ∧
      (after dlc2bytes t₀ es).receiver.delivered = es.flatMap (·.arrivals) := by
    induction es using List.reverseRecOn with
    | nil =>
        refine ⟨⟨[], rfl⟩, ?_, rfl⟩
        show Accounts dlc2bytes (UInt32.ofNat (t₀.driver.failures.length - t₀.driver.failures.length)) _
        rw [Nat.sub_self]
        exact initial_accounts
    | append_singleton es e ih =>
        obtain ⟨hbefore, hold, hqueue⟩ := ih
        obtain ⟨haccounts, hdelivered⟩ := next_accounts hold e
        have hafter : after dlc2bytes t₀ (es ++ [e]) = (after dlc2bytes t₀ es).next dlc2bytes e :=
          List.foldl_concat _ _ _ _
        have hkept := CanTask.next_failures (after dlc2bytes t₀ es).task e.event
        rw [hafter, next_task, List.flatMap_append]
        refine ⟨hbefore.trans hkept, ?_, ?_⟩
        · rw [← UInt32.ofNat_add, failuresSince_add hbefore hkept] at haccounts
          exact haccounts
        · simpa [hqueue] using hdelivered
  obtain ⟨-, haccounts, hdelivered⟩ := hrun
  refine ⟨hdelivered, fun index => ?_, haccounts.received, haccounts.faults, ?_⟩
  · obtain ⟨online, hentry, -⟩ := haccounts.mirrors index
    exact ⟨online, hentry⟩
  · intro newer status earlier hsplit
    exact lawful_iff_forall_split.mp haccounts.published newer _ earlier hsplit status rfl

/-! ## Presence -/

/-- The clock of the loop never reads zero and never runs backwards. -/
def Clocked (n : CanNode) (e : Event) : Prop :=
  ∀ turn, e.event.input = .turn turn → 0 < turn.now ∧ n.receiver.time ≤ turn.now

/-- A turn is the sending half followed by the receiving half. -/
theorem next_turn (n : CanNode) {e : Event} {turn : CanTask.Turn} (h : e.event.input = .turn turn) :
    (n.next dlc2bytes e).receiver = (n.send e).receiver.runOnce dlc2bytes
      (n.send e).task.driver.output.canFd (n.send e).task.driver.output.channels turn.now := by
  unfold next
  rw [h]

theorem next_other (n : CanNode) {e : Event} (h : ∀ turn, e.event.input ≠ .turn turn) :
    n.next dlc2bytes e = n.send e := by
  unfold next
  dsimp only
  split
  · rename_i turn hturn
    exact absurd hturn (h turn)
  · rfl

theorem send_timely {n : CanNode} (h : CanReceiver.Timely n.receiver) (e : Event) :
    CanReceiver.Timely (n.send e).receiver := ⟨h.sorted, h.past, h.latest⟩

theorem reachable_timely {t₀ : CanTask} {n : CanNode}
    (h : ((system dlc2bytes t₀).restrict Clocked).Reachable n) :
    CanReceiver.Timely n.receiver ∧ ∃ errors, Accounts dlc2bytes errors n.receiver := by
  refine h.invariant (fun n => CanReceiver.Timely n.receiver ∧ ∃ errors, Accounts dlc2bytes errors n.receiver)
    ?_ ?_
  · rintro n rfl
    exact ⟨⟨List.Pairwise.nil, nofun, fun hset => absurd rfl hset⟩, 0, initial_accounts⟩
  · rintro n e n' - ⟨htimely, errors, haccounts⟩ ⟨hclock, rfl⟩
    refine ⟨?_, _, (next_accounts haccounts e).1⟩
    by_cases hturn : ∃ turn, e.event.input = .turn turn
    · obtain ⟨turn, hturn⟩ := hturn
      obtain ⟨hpositive, hnow⟩ := hclock turn hturn
      rw [next_turn n hturn]
      exact (CanReceiver.runOnce_timely dlc2bytes (send_timely htimely e) hpositive hnow _ _).1
    · rw [next_other n (not_exists.mp hturn)]
      exact send_timely htimely e

/-- At the end of every turn the topic holds a status less than 100 ms old. An actuator that it calls
online reported less than 600 ms ago, and the status holds that report. An actuator that reported between
500 and 100 ms ago is called online. -/
theorem presence_detected {t₀ : CanTask} {n : CanNode}
    (h : ((system dlc2bytes t₀).restrict Clocked).Reachable n) {e : Event} (hclock : Clocked n e)
    {turn : CanTask.Turn} (hturn : e.event.input = .turn turn) :
    ∃ status, (n.next dlc2bytes e).receiver.topic.copy = some status ∧ status.timestamp ≤ turn.now ∧
      turn.now.toNat < status.timestamp.toNat + 100000 ∧ ∀ index,
        ((status.actuator index).online = true → ∃ reading feedback,
          .heard reading ∈ (n.next dlc2bytes e).receiver.log ∧
          reading.report dlc2bytes = some (index, reading.now, feedback) ∧
          turn.now.toNat < reading.now.toNat + 600000 ∧
          status.actuator index = .ofFeedback reading.now feedback true) ∧
        ∀ reading feedback, .heard reading ∈ (n.next dlc2bytes e).receiver.log →
          reading.report dlc2bytes = some (index, reading.now, feedback) →
          reading.now.toNat + 100000 ≤ turn.now.toNat → turn.now.toNat ≤ reading.now.toNat + 500000 →
          (status.actuator index).online = true := by
  obtain ⟨htimely, errors, haccounts⟩ := reachable_timely h
  obtain ⟨hpositive, hnow⟩ := hclock turn hturn
  have hlawful := (next_accounts haccounts e).1.published
  obtain ⟨hdone, htime, hset, hfresh⟩ := CanReceiver.runOnce_timely dlc2bytes
    (send_timely htimely e) hpositive hnow (n.send e).task.driver.output.canFd
    (n.send e).task.driver.output.channels
  rw [← next_turn n hturn] at hdone htime hset hfresh
  generalize (n.next dlc2bytes e).receiver = r at *
  obtain ⟨hle, hadvertised, hstamp, newer, earlier, hsplit⟩ := hdone.latest hset
  have hannounces : Announces dlc2bytes earlier r.topic.message :=
    lawful_iff_forall_split.mp hlawful newer _ earlier hsplit _ rfl
  rw [← hstamp, htime, UInt64.le_iff_toNat_le] at hle
  rw [← hstamp] at hfresh
  have hpast : ∀ note ∈ r.log, 0 < note.stamp := fun note hnote => (hdone.past note hnote).1
  refine ⟨r.topic.message, if_pos hadvertised, hle, hfresh, fun index => ⟨fun honline => ?_, ?_⟩⟩
  · obtain ⟨reading, feedback, hheard, hreport, hrecent, hentry⟩ := hannounces.of_online honline
    refine ⟨reading, feedback, ?_, hreport, by omega, hentry⟩
    rw [hsplit]
    exact List.mem_append_right _ (List.mem_cons_of_mem _ hheard)
  · intro reading feedback hheard hreport hold hyoung
    refine hannounces.online_of_heard hdone.sorted hpast hsplit hheard hreport ?_ ?_
    · rw [UInt64.lt_iff_toNat_lt]
      omega
    · omega

/-- The first motor reports. -/
def motor1Message : CanMessage := ⟨0x11, 8, #v[0x01, 0x80, 0, 0x80, 8, 0, 42, 39]⟩

def motor1Report : CanRead := .message motor1Message

def demoTurn (clock : UInt64) (arrivals : List CanRead) : Event where
  event := { input := .turn (CanTask.plainTurn clock {}) }
  arrivals := arrivals

def demoStart : CanNode := { task := CanTask.shippedTask, receiver := .initial }

/-- The first motor has reported 200 ms ago. -/
theorem presence_detected_demo :
    ∃ status, (((demoStart.next id (demoTurn 1000000 [motor1Report])).next id
      (demoTurn 1200000 [])).receiver.topic.copy = some status ∧ (status.actuator 0).online = true) := by
  have hstart : ((system id CanTask.shippedTask).restrict Clocked).Reachable demoStart := .start rfl
  have hreported : ((system id CanTask.shippedTask).restrict Clocked).Reachable
      (demoStart.next id (demoTurn 1000000 [motor1Report])) := by
    refine .next hstart ⟨fun turn hturn => ?_, rfl⟩
    cases hturn
    exact ⟨by decide, by decide⟩
  have hclock : Clocked (demoStart.next id (demoTurn 1000000 [motor1Report])) (demoTurn 1200000 []) := by
    intro turn hturn
    cases hturn
    exact ⟨by decide, by decide +kernel⟩
  obtain ⟨status, hcopy, -, -, hindex⟩ := presence_detected hreported hclock rfl
  have hheard : ((demoStart.next id (demoTurn 1000000 [motor1Report])).next id
      (demoTurn 1200000 [])).receiver.log.any (fun
        | .heard reading => reading.now == 1000000 && (reading.report id).map Prod.fst == some 0
        | .published _ => false) = true := by decide +kernel
  obtain ⟨note, hnote, htest⟩ := List.any_eq_true.mp hheard
  cases note with
  | published published => cases htest
  | heard reading =>
      obtain ⟨hnow, hreport⟩ := Bool.and_eq_true_iff.mp htest
      obtain ⟨report, hreport, hzero⟩ := Option.map_eq_some_iff.mp (eq_of_beq hreport)
      obtain ⟨index, now, feedback⟩ := report
      obtain rfl : index = 0 := hzero
      obtain rfl : now = reading.now := (report_eq hreport).2
      rw [beq_iff_eq] at hnow
      refine ⟨status, hcopy, (hindex 0).2 reading feedback hnote hreport ?_ ?_⟩
      · rw [hnow]
        decide
      · rw [hnow]
        decide

/-! ## Credit -/

theorem reachable_configured {params₀ params₁ : ParamTable} {canFd : Int} {t₀ : CanTask}
    (hstart : CanTask.start params₀ params₁ canFd = some t₀) {n : CanNode}
    (h : (system dlc2bytes t₀).Reachable n) : n.task.driver.output.Configured := by
  refine h.invariant (fun n => n.task.driver.output.Configured) ?_ ?_
  · rintro n rfl
    exact CanTask.start_configured hstart
  · rintro n e n' - hconfigured rfl
    rw [next_task]
    exact CanTask.next_configured hconfigured e.event

/-- In every state of every run a started task has a configuration under which each frame that a channel
takes is credited to that channel if and only if no two channels are alike. -/
theorem reports_credited_iff {params₀ params₁ : ParamTable} {canFd : Int} {t₀ : CanTask}
    (hstart : CanTask.start params₀ params₁ canFd = some t₀) {n : CanNode}
    (h : (system dlc2bytes t₀).Reachable n) :
    (∀ frame index feedback, index < CanOutput.ChannelCount →
        (n.task.driver.output.channel index).feedback frame = some feedback →
          route n.task.driver.output.channels frame = some (index, feedback)) ↔
      ∀ i < CanOutput.ChannelCount, ∀ j < CanOutput.ChannelCount, i ≠ j →
        ¬ (n.task.driver.output.channel i).Alike (n.task.driver.output.channel j) :=
  (distinct_iff n.task.driver.output.channels fun index hindex =>
    positive_of_accepted ((reachable_configured hstart h).accepted index hindex)).symm

/-- The second motor's frame, with the ids as shipped. -/
theorem reports_credited_iff_demo :
    (route demoStart.task.driver.output.channels
      { id := 0x12, length := 8, data := #v[0x02, 0x80, 0, 0x80, 8, 0, 42, 39] }).map Prod.fst =
        some 1 := by
  have hstart : CanTask.start CanTask.shippedParams CanTask.shippedParams 3 = some CanTask.shippedTask :=
    (Option.some_get CanTask.start_shipped_isSome).symm
  have hreach : (system id CanTask.shippedTask).Reachable demoStart := .start rfl
  have hdistinct : ∀ i < CanOutput.ChannelCount, ∀ j < CanOutput.ChannelCount, i ≠ j →
      ¬ (demoStart.task.driver.output.channel i).Alike (demoStart.task.driver.output.channel j) := by
    decide +kernel
  have htakes : ((demoStart.task.driver.output.channel 1).feedback
      { id := 0x12, length := 8, data := #v[0x02, 0x80, 0, 0x80, 8, 0, 42, 39] }).isSome = true := by
    decide +kernel
  obtain ⟨feedback, hfeedback⟩ := Option.isSome_iff_exists.mp htakes
  rw [(reports_credited_iff hstart hreach).mpr hdistinct _ 1 feedback (by decide) hfeedback]
  rfl

/-! ## Nothing waits -/

/-- No more messages than one turn can read, and no failed read. -/
def Spaced (n : CanNode) (e : Event) : Prop :=
  n.receiver.pending.length + e.arrivals.length ≤ 32 ∧
    ∀ read ∈ e.arrivals, ∃ message, read = .message message

/-- The device is open, and messages are all that waits. -/
structure Served (n : CanNode) : Prop where
  configured : n.task.driver.output.Configured
  messages : ∀ read ∈ n.receiver.pending, ∃ message, read = .message message

theorem send_served {n : CanNode} (h : Served n) {e : Event} (he : Spaced n e) : Served (n.send e) := by
  refine ⟨CanTask.next_configured h.configured e.event, fun read hread => ?_⟩
  rcases List.mem_append.mp hread with hold | hnew
  · exact h.messages read hold
  · exact he.2 read hnew

variable (dlc2bytes) in
/-- A turn reads the queue to its end. -/
theorem turn_drains {n : CanNode} (h : Served n) {e : Event} (he : Spaced n e) {turn : CanTask.Turn}
    (hturn : e.event.input = .turn turn) : (n.next dlc2bytes e).receiver.pending = [] := by
  have hsend := send_served h he
  have hlength : (n.send e).receiver.pending.length ≤ 32 :=
    Nat.le_trans (Nat.le_of_eq List.length_append) he.1
  have hread : (CanReceiver.receiveFrames dlc2bytes (n.send e).task.driver.output.canFd
      (n.send e).task.driver.output.channels turn.now
        { (n.send e).receiver with time := turn.now }).pending = [] := by
    unfold CanReceiver.receiveFrames
    rw [if_neg (Int.not_lt.mpr hsend.configured.device)]
    exact CanReceiver.receiveLoop_drains _ _ hlength hsend.messages
  rw [next_turn n hturn]
  unfold CanReceiver.runOnce
  dsimp only
  split
  · exact hread
  · exact hread

theorem next_served {n : CanNode} (h : Served n) {e : Event} (he : Spaced n e) :
    Served (n.next dlc2bytes e) := by
  have hsend := send_served h he
  by_cases hturn : ∃ turn, e.event.input = .turn turn
  · obtain ⟨turn, hturn⟩ := hturn
    refine ⟨?_, ?_⟩
    · rw [next_task]
      exact hsend.configured
    · rw [turn_drains dlc2bytes h he hturn]
      exact nofun
  · rw [next_other n (not_exists.mp hturn)]
    exact hsend

/-- As long as at most 32 messages reach the device between two turns and no read fails, every turn ends
with an empty queue, and the log holds everything that ever arrived, in order. -/
theorem nothing_waits {params₀ params₁ : ParamTable} {canFd : Int} {t₀ : CanTask}
    (hstart : CanTask.start params₀ params₁ canFd = some t₀) {es : List Event} {n : CanNode}
    (h : ((system dlc2bytes t₀).restrict Spaced).Run es n) {e : Event} (he : Spaced n e)
    {turn : CanTask.Turn} (hturn : e.event.input = .turn turn) :
    (n.next dlc2bytes e).receiver.pending = [] ∧
      ((n.next dlc2bytes e).receiver.log.filterMap CanNote.read).reverse =
        (es ++ [e]).flatMap (·.arrivals) := by
  have hrun : Served n ∧ (∃ errors, Accounts dlc2bytes errors n.receiver) ∧
      n.receiver.delivered = es.flatMap (·.arrivals) := by
    clear he hturn
    induction h with
    | start hinit =>
        cases hinit
        exact ⟨⟨CanTask.start_configured hstart, nofun⟩, ⟨0, initial_accounts⟩, rfl⟩
    | next _ hstep ih =>
        obtain ⟨hserved, ⟨errors, haccounts⟩, hdelivered⟩ := ih
        obtain ⟨hspaced, rfl⟩ := hstep
        obtain ⟨haccounts', hdelivered'⟩ := next_accounts haccounts _
        refine ⟨next_served hserved hspaced, ⟨_, haccounts'⟩, ?_⟩
        rw [hdelivered', hdelivered, List.flatMap_append, List.flatMap_singleton]
  obtain ⟨hserved, ⟨errors, haccounts⟩, hdelivered⟩ := hrun
  have hdrained := turn_drains dlc2bytes hserved he hturn
  refine ⟨hdrained, ?_⟩
  have hall := (next_accounts haccounts e).2
  unfold CanReceiver.delivered at hall
  rw [hdrained, List.append_nil] at hall
  rw [hall, List.flatMap_append, List.flatMap_singleton, ← hdelivered]
  rfl

theorem nothing_waits_demo :
    ((demoStart.next id (demoTurn 1000000 [motor1Report, motor1Report])).next id
      (demoTurn 1005000 [motor1Report])).receiver.pending = [] := by
  have hstart : CanTask.start CanTask.shippedParams CanTask.shippedParams 3 = some CanTask.shippedTask :=
    (Option.some_get CanTask.start_shipped_isSome).symm
  have hrun : ((system id CanTask.shippedTask).restrict Spaced).Run
      ([] ++ [demoTurn 1000000 [motor1Report, motor1Report]])
      (demoStart.next id (demoTurn 1000000 [motor1Report, motor1Report])) := by
    refine .next (.start rfl) ⟨⟨by decide, fun read hread => ⟨motor1Message, ?_⟩⟩, rfl⟩
    simpa [demoTurn, motor1Report] using hread
  have hspaced : Spaced (demoStart.next id (demoTurn 1000000 [motor1Report, motor1Report]))
      (demoTurn 1005000 [motor1Report]) := by
    refine ⟨by decide +kernel, fun read hread => ⟨motor1Message, ?_⟩⟩
    simpa [demoTurn, motor1Report] using hread
  exact (nothing_waits hstart hrun hspaced rfl).1

end CanNode

end DualMagneticWheel
