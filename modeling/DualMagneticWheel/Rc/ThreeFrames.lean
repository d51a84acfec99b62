/-
# DualMagneticWheel.Rc.ThreeFrames — how many good frames stand behind a valid stick message

The runs of this module feed any receiver messages to `RcUpdate` at any times, with any silences. The
history keeps every processed message and every reported timeout. `ThreeGood` is what validity is meant
to witness: the newest three entries are good frames with one channel count.

The counter does not look at the loss flags, and a timeout does not forget the channel count, so one good
frame right after a lost one, or two after a timeout, can be enough; `loss_not_counted` is a run of the
first kind. `valid_three_good` holds in the runs in which every good frame that follows a lost frame or a
timeout comes with a new channel count.
-/
import DualMagneticWheel.Rc.RcUpdate
import DualMagneticWheel.Foundation.Transition

namespace DualMagneticWheel

open Foundation

/-- What `RcUpdate` has gone through: a processed message or a reported timeout. -/
inductive RcEntry where
  | frame (input : InputRc)
  | timeout
  deriving DecidableEq

/-- A frame without any loss flag and with enough channels. -/
def InputRc.Good (input : InputRc) : Prop :=
  input.rcLost = false ∧ input.rcFailsafe = false ∧ 4 ≤ input.channelCount

instance (input : InputRc) : Decidable input.Good := inferInstanceAs (Decidable (_ ∧ _))

/-- The newest three entries are good frames with the same channel count. -/
def ThreeGood (history : List RcEntry) : Prop :=
  ∃ a b c rest, history = .frame a :: .frame b :: .frame c :: rest ∧ a.Good ∧ b.Good ∧ c.Good ∧
    a.channelCount = b.channelCount ∧ b.channelCount = c.channelCount

/-- The module with its topics and its history, newest entry first. -/
structure RcRun where
  params : ParamTable
  bus : Topics
  rcUpdate : RcUpdate
  history : List RcEntry := []

/-- What can happen around the module. -/
inductive RcEvent where
  | publishInput (message : InputRc)
  | setParams (params : ParamTable)
  | notifyParams (notice : ParameterUpdate)
  | run (clock : UInt64)

namespace RcRun

/-- The message the next `Run` would process, if there is news. -/
def incoming (s : RcRun) : Option InputRc :=
  let reading := s.rcUpdate.inputSubscription.update s.bus.inputRc {}
  if reading.updated then some reading.message else none

/-- One event. -/
def next (s : RcRun) : RcEvent → RcRun
  | .publishInput message => { s with bus := { s.bus with inputRc := s.bus.inputRc.publish message } }
  | .setParams params => { s with params }
  | .notifyParams notice =>
      { s with bus := { s.bus with parameterUpdate := s.bus.parameterUpdate.publish notice } }
  | .run clock =>
      let (rcUpdate, bus) := s.rcUpdate.Run s.params clock s.bus
      { s with
        rcUpdate, bus
        history :=
          match s.incoming with
          | some input => .frame input :: s.history
          | none => if s.rcUpdate.timeoutDue clock then .timeout :: s.history else s.history }

/-- A module that was just started, with nothing published. -/
def Start (s : RcRun) : Prop :=
  ∃ clock, s.rcUpdate = (RcUpdate.construct s.params).initWorkQueue clock ∧ s.bus = {} ∧
    s.history = []

/-- All runs of the module. -/
def system : Transition RcRun RcEvent := .ofFun Start next

/-- Whatever was last published as valid rests on three good frames. -/
def Validated (s : RcRun) : Prop :=
  s.bus.manualControl.message.valid = true ∨ s.bus.manualControlSwitches.message.valid = true →
    ThreeGood s.history

/-! ## A run with a single good frame -/

/-- Calibration and mapping of the four sticks. -/
def stickParams : ParamTable :=
  (List.range 4).flatMap (fun channel =>
    [⟨RcConfig.channelName (channel + 1) "_MIN", .float, .ofReal 1000, .ofReal 1000⟩,
      ⟨RcConfig.channelName (channel + 1) "_MAX", .float, .ofReal 2000, .ofReal 2000⟩,
      ⟨RcConfig.channelName (channel + 1) "_TRIM", .float, .ofReal 1500, .ofReal 1500⟩,
      ⟨RcConfig.channelName (channel + 1) "_DZ", .float, .ofReal 20, .ofReal 20⟩,
      ⟨RcConfig.channelName (channel + 1) "_REV", .float, .ofReal 1, .ofReal 1⟩]) ++
  [⟨cstr "RC_MAP_THROTTLE", .int32, .ofInteger 3, .ofInteger 3⟩,
    ⟨cstr "RC_MAP_ROLL", .int32, .ofInteger 1, .ofInteger 1⟩,
    ⟨cstr "RC_MAP_PITCH", .int32, .ofInteger 2, .ofInteger 2⟩,
    ⟨cstr "RC_MAP_YAW", .int32, .ofInteger 4, .ofInteger 4⟩]

/-- A module that was started at time 1. -/
def started : RcRun :=
  { params := stickParams, bus := {}
    rcUpdate := (RcUpdate.construct stickParams).initWorkQueue 1 }

theorem started_reachable : system.Reachable started := .start ⟨1, rfl, rfl, rfl⟩

/-- A good frame with sixteen channels in the middle position. -/
def goodInput (stamp : UInt64) : InputRc :=
  { timestamp := stamp, timestampLastSignal := stamp, values := Vector.replicate 16 1500
    channelCount := 16 }

/-- The frame the driver publishes when the link is lost keeps its sixteen channels. -/
def lostInput (stamp : UInt64) : InputRc := { goodInput stamp with rcLost := true }

/-- Three good frames, a lost one, and a single good one. -/
def lossRun : RcRun :=
  [.publishInput (goodInput 1000), .run 1000, .publishInput (goodInput 11000), .run 11000,
    .publishInput (goodInput 21000), .run 21000, .publishInput (lostInput 31000), .run 31000,
    .publishInput (goodInput 41000), .run 41000].foldl next started

/-- After a loss message one good frame makes the sticks valid again. -/
theorem loss_not_counted : ¬ ∀ s, system.Reachable s → Validated s := by
  intro h
  have hvalid : lossRun.bus.manualControl.message.valid = true := by decide +kernel
  have hsecond : lossRun.history[1]? = some (.frame (lostInput 31000)) := by decide +kernel
  obtain ⟨a, b, c, rest, heq, _, hgood, _⟩ := h _ (started_reachable.foldl _) (Or.inl hvalid)
  rw [show lossRun.history = _ from heq] at hsecond
  cases hsecond
  cases hgood.1

/-! ## The runs without such frames -/

/-- The number of newest entries that are good frames with one channel count. -/
def goodRun : List RcEntry → Nat
  | .frame a :: .frame b :: rest =>
      if a.Good then
        if b.Good ∧ a.channelCount = b.channelCount then goodRun (.frame b :: rest) + 1 else 1
      else 0
  | .frame a :: _ => if a.Good then 1 else 0
  | _ => 0

theorem goodRun_bad {input : InputRc} (h : ¬ input.Good) (history : List RcEntry) :
    goodRun (.frame input :: history) = 0 := by
  rcases history with _ | ⟨_ | _, rest⟩ <;> simp [goodRun, h]

theorem goodRun_pos {input : InputRc} (h : input.Good) (history : List RcEntry) :
    0 < goodRun (.frame input :: history) := by
  rcases history with _ | ⟨_ | _, rest⟩
  · simp [goodRun, h]
  · simp only [goodRun, if_pos h]
    split <;> omega
  · simp [goodRun, h]

theorem goodRun_cons {a b : InputRc} (ha : a.Good) (hb : b.Good)
    (hcount : a.channelCount = b.channelCount) (rest : List RcEntry) :
    goodRun (.frame a :: .frame b :: rest) = goodRun (.frame b :: rest) + 1 := by
  rw [goodRun, if_pos ha, if_pos ⟨hb, hcount⟩]

/-- A longer good run continues with a good frame of the same channel count. -/
theorem goodRun_tail {a : InputRc} {history : List RcEntry}
    (h : 2 ≤ goodRun (.frame a :: history)) : ∃ b rest, history = .frame b :: rest ∧ a.Good ∧
      b.Good ∧ a.channelCount = b.channelCount ∧
      goodRun (.frame a :: history) = goodRun history + 1 := by
  rcases history with _ | ⟨b | _, rest⟩
  · simp only [goodRun] at h
    split at h <;> omega
  · have hgood : a.Good := by
      by_contra hbad
      rw [goodRun_bad hbad] at h
      omega
    have hnext : b.Good ∧ a.channelCount = b.channelCount := by
      by_contra hbad
      rw [goodRun, if_pos hgood, if_neg hbad] at h
      omega
    exact ⟨b, rest, rfl, hgood, hnext.1, hnext.2, goodRun_cons hgood hnext.1 hnext.2 rest⟩
  · simp only [goodRun] at h
    split at h <;> omega

theorem threeGood_of_goodRun {history : List RcEntry} (h : 3 ≤ goodRun history) :
    ThreeGood history := by
  rcases history with _ | ⟨a | _, history⟩
  · simp [goodRun] at h
  · have hsecond : 2 ≤ goodRun (.frame a :: history) := by omega
    obtain ⟨b, history, rfl, ha, hb, hab, hrun⟩ := goodRun_tail hsecond
    have hthird : 2 ≤ goodRun (.frame b :: history) := by omega
    obtain ⟨c, rest, rfl, _, hc, hbc, _⟩ := goodRun_tail hthird
    exact ⟨a, b, c, rest, rfl, ha, hb, hc, hab, hbc⟩
  · simp [goodRun] at h

/-- The newest entry is a lost frame, a frame in receiver failsafe, or a timeout. -/
def Interrupted : List RcEntry → Prop
  | .frame last :: _ => last.rcLost = true ∨ last.rcFailsafe = true
  | .timeout :: _ => True
  | [] => False

instance : (history : List RcEntry) → Decidable (Interrupted history)
  | .frame _ :: _ => inferInstanceAs (Decidable (_ ∨ _))
  | .timeout :: _ => .isTrue trivial
  | [] => .isFalse id

/-- A good frame that comes right after a lost frame or a timeout has another channel count than the
frame before it. -/
def CountChanges (s : RcRun) : RcEvent → Prop
  | .run _ => ∀ input ∈ s.incoming, input.Good → Interrupted s.history →
      input.channelCount ≠ s.rcUpdate.previousChannelCount
  | _ => True

/-- The counter stays below the good run it belongs to. -/
structure Counted (s : RcRun) : Prop where
  previous : ∀ last rest, s.history = .frame last :: rest →
    s.rcUpdate.previousChannelCount = last.channelCount
  fresh : s.history = [] → s.rcUpdate.previousChannelCount = 0
  counter : goodRun s.history = 0 ∨ s.rcUpdate.stableFrameCount.toNat < goodRun s.history
  validated : s.Validated

theorem Start.counted {s : RcRun} (h : Start s) : Counted s := by
  obtain ⟨clock, hmodule, hbus, hhistory⟩ := h
  refine ⟨?_, ?_, ?_, ?_⟩
  · intro last rest hhead
    rw [hhistory] at hhead
    cases hhead
  · intro _
    rw [hmodule]
    rfl
  · rw [hhistory]
    exact Or.inl rfl
  · intro hvalid
    rw [hbus] at hvalid
    rcases hvalid with hvalid | hvalid <;> cases hvalid

/-- Processing a frame: the counter is compared with the good run before and after it. -/
theorem Counted.processInput {s : RcRun} (h : Counted s) {input : InputRc} {clock : UInt64}
    {u : RcUpdate} (hstable : u.stableFrameCount = s.rcUpdate.stableFrameCount)
    (hprevious : u.previousChannelCount = s.rcUpdate.previousChannelCount)
    (hchanges : input.Good → Interrupted s.history →
      input.channelCount ≠ s.rcUpdate.previousChannelCount) :
    Counted
      { s with
        rcUpdate := (u.processInput input clock s.bus).1
        bus := (u.processInput input clock s.bus).2
        history := .frame input :: s.history } := by
  obtain ⟨hlast, hcount⟩ := u.processInput_count input clock s.bus
  obtain ⟨hswitches, hvalid⟩ := u.processInput_valid input clock s.bus
  rw [hstable, hprevious] at hcount
  have hcounter : goodRun (.frame input :: s.history) = 0 ∨
      (u.processInput input clock s.bus).1.stableFrameCount.toNat <
        goodRun (.frame input :: s.history) := by
    by_cases hgood : input.Good
    · by_cases hsame : input.channelCount = s.rcUpdate.previousChannelCount ∧
          4 ≤ input.channelCount
      · -- the count matched, so the newest entry is a good frame and the run goes on
        rw [if_pos hsame] at hcount
        have hquiet : ¬ Interrupted s.history := fun hint => hchanges hgood hint hsame.1
        obtain ⟨last, rest, hhead⟩ : ∃ last rest, s.history = .frame last :: rest := by
          rcases hcase : s.history with _ | ⟨last | _, rest⟩
          · rw [h.fresh hcase] at hsame
            rw [hsame.1] at hsame
            exact absurd hsame.2 (by decide)
          · exact ⟨last, rest, rfl⟩
          · rw [hcase] at hquiet
            exact absurd trivial hquiet
        rw [hhead] at hquiet
        rw [h.previous last rest hhead] at hsame
        have hlastGood : last.Good :=
          ⟨by simpa using fun hl => hquiet (Or.inl hl), by simpa using fun hf => hquiet (Or.inr hf),
            hsame.1 ▸ hsame.2⟩
        rw [hhead, goodRun_cons hgood hlastGood hsame.1, ← hhead]
        -- the counter wraps at worst, and is never ahead of the run of good frames
        have hpos := goodRun_pos hlastGood rest
        rw [← hhead] at hpos
        have hup : (u.processInput input clock s.bus).1.stableFrameCount.toNat ≤
            s.rcUpdate.stableFrameCount.toNat + 1 := by
          rw [hcount]
          split
          · rw [UInt8.toNat_add]
            exact Nat.mod_le _ _
          · omega
        rcases h.counter with hzero | hlt
        · omega
        · omega
      · rw [if_neg hsame] at hcount
        rw [hcount]
        exact Or.inr (goodRun_pos hgood _)
    · exact Or.inl (goodRun_bad hgood _)
  refine ⟨?_, ?_, hcounter, ?_⟩
  · intro last rest hhead
    cases hhead
    exact hlast
  · intro hnil
    cases hnil
  · intro hpublished
    rw [hswitches, or_self] at hpublished
    obtain ⟨hlink, _, htwo⟩ := hvalid.mp hpublished
    simp only [RcUpdate.inputLost, Bool.or_eq_false_iff, decide_eq_false_iff_not] at hlink
    have hgood : input.Good := ⟨hlink.1.1, hlink.1.2, UInt8.not_lt.mp hlink.2⟩
    have hpos := goodRun_pos hgood s.history
    -- a counter of two is reached in the third good frame at the earliest
    have htwo' : 2 ≤ (u.processInput input clock s.bus).1.stableFrameCount.toNat :=
      UInt8.le_iff_toNat_le.mp htwo
    apply threeGood_of_goodRun
    show 3 ≤ goodRun (.frame input :: s.history)
    rcases hcounter with hzero | hlt
    · omega
    · omega

/-- Silence: nothing happens, or the timeout is reported and the good run ends. -/
theorem Counted.silence {s : RcRun} (h : Counted s) {clock : UInt64} {u : RcUpdate}
    (hstable : u.stableFrameCount = s.rcUpdate.stableFrameCount)
    (hprevious : u.previousChannelCount = s.rcUpdate.previousChannelCount)
    (hdue : u.timeoutDue clock = s.rcUpdate.timeoutDue clock) :
    Counted
      { s with
        rcUpdate := (u.publishTimeoutIfNeeded clock s.bus).1
        bus := (u.publishTimeoutIfNeeded clock s.bus).2
        history := if s.rcUpdate.timeoutDue clock then .timeout :: s.history else s.history } := by
  by_cases htimeout : s.rcUpdate.timeoutDue clock = true
  · obtain ⟨_, hmanual, hswitches⟩ :=
      RcUpdate.publishTimeoutIfNeeded_due s.bus (hdue.trans htimeout)
    rw [if_pos htimeout]
    refine ⟨?_, ?_, Or.inl rfl, ?_⟩
    · intro last rest hhead
      cases hhead
    · intro hnil
      cases hnil
    · intro hpublished
      simp only [hmanual, hswitches, Bool.false_eq_true, or_self] at hpublished
  · have hquiet : u.publishTimeoutIfNeeded clock s.bus = (u, s.bus) := by
      rw [RcUpdate.publishTimeoutIfNeeded, hdue, if_neg htimeout]
    rw [if_neg htimeout, hquiet]
    refine ⟨?_, ?_, ?_, h.validated⟩
    · intro last rest hhead
      exact hprevious.trans (h.previous last rest hhead)
    · intro hnil
      exact hprevious.trans (h.fresh hnil)
    · rw [hstable]
      exact h.counter

/-- Three good frames stand behind every valid stick or switch message, in every run in which a good
frame right after a loss or a timeout comes with a new channel count. -/
theorem valid_three_good {s : RcRun} (h : (system.restrict CountChanges).Reachable s) :
    Validated s := by
  refine (h.invariant Counted (fun s hs => Start.counted hs) ?_).validated
  rintro s e t - hs ⟨hchanges, rfl⟩
  cases e with
  | publishInput message => exact { hs with }
  | setParams params => exact { hs with }
  | notifyParams notice => exact { hs with }
  | run clock =>
      obtain ⟨config, parameterSubscription, hread⟩ :=
        s.rcUpdate.readParams_frame s.params s.bus
      simp only [next, RcUpdate.Run, hread, incoming]
      by_cases hnews : (s.rcUpdate.inputSubscription.update s.bus.inputRc {}).updated = true
      · rw [if_pos hnews, if_pos hnews]
        refine hs.processInput rfl rfl fun hgood => hchanges _ ?_ hgood
        simp only [incoming, if_pos hnews, Option.mem_def]
      · rw [if_neg hnews, if_neg hnews]
        exact hs.silence rfl rfl rfl

/-- Three good frames from the start, where the condition asks nothing. -/
theorem valid_three_good_started :
    Validated ([.publishInput (goodInput 1000), .run 1000, .publishInput (goodInput 11000),
      .run 11000, .publishInput (goodInput 21000), .run 21000].foldl next started) := by
  have hstart : (system.restrict CountChanges).Reachable started := .start ⟨1, rfl, rfl, rfl⟩
  refine valid_three_good (hstart.foldl_restrict ?_)
  refine ⟨trivial, ?_, trivial, ?_, trivial, ?_, trivial⟩ <;>
    simp only [CountChanges] <;> decide +kernel

end RcRun

end DualMagneticWheel
