/-
# DualMagneticWheel.System.LinkFlicker — two readers of one stick topic

Failsafe detector and robot control read the same latest-value topic, each when it is scheduled. The
detector may judge a good message that robot control never sees, because an invalid one has replaced it
by then; robot control then works from the message it remembered, outside failsafe, however old that is.

`flicker_stale` is such a run. `flicker_bounded` is what does hold: as long as robot control, whenever it
finds the link reported as good, works from a message at least as new as one the detector judged for that
report, no target outside failsafe is older than the timeout plus half a second.
-/
import DualMagneticWheel.Modules.Failsafe
import DualMagneticWheel.Modules.RobotControl
import DualMagneticWheel.Foundation.Transition

namespace DualMagneticWheel

open Foundation

/-- Detector and robot control on their topics. Two history variables: every published status with the
stick message it was judged on, and every published motion target. -/
structure Link where
  time : UInt64
  params : ParamTable
  bus : Topics
  failsafe : Failsafe
  robotControl : RobotControl
  verdicts : List (FailsafeStatus × ManualControl) := []
  targets : List RobotControlSetpoint := []

/-- A publication, a parameter change, or an update of one of the two modules. -/
inductive LinkEvent where
  | publishManual (message : ManualControl)
  | setParams (params : ParamTable)
  | notifyParams (notice : ParameterUpdate)
  | updateFailsafe (clock arg : UInt64)
  | updateRobotControl (clock arg : UInt64)

/-- The clock reading of an event, if it makes one. -/
def LinkEvent.now? : LinkEvent → Option UInt64
  | .updateFailsafe clock arg => some (effectiveNow clock arg)
  | .updateRobotControl clock arg => some (effectiveNow clock arg)
  | _ => none

namespace Link

/-- One event, leaving the clock aside. -/
def next (s : Link) : LinkEvent → Link
  | .publishManual message =>
      { s with bus := { s.bus with manualControl := s.bus.manualControl.publish message } }
  | .setParams params => { s with params }
  | .notifyParams notice =>
      { s with bus := { s.bus with parameterUpdate := s.bus.parameterUpdate.publish notice } }
  | .updateFailsafe clock arg =>
      let (failsafe, bus) := s.failsafe.update s.params clock arg s.bus
      { s with failsafe, bus, verdicts := (failsafe.status, failsafe.manual) :: s.verdicts }
  | .updateRobotControl clock arg =>
      let (robotControl, bus) := s.robotControl.update s.params clock arg s.bus
      { s with robotControl, bus, targets := robotControl.setpoint :: s.targets }

/-- One event with the clock moved to its reading. -/
def tick (s : Link) (e : LinkEvent) : Link := { s.next e with time := e.now?.getD s.time }

/-- The clock does not run backwards, and the RC timeout parameter stays `r`. -/
def Admits (r : Float32) (s : Link) (e : LinkEvent) : Prop :=
  (∀ now, e.now? = some now → s.time ≤ now) ∧
    ∀ params, e = .setParams params →
      s.params.SameShape params ∧ params.lookupFloat (cstr "FS_RC_TMO") = some r

/-- Both modules constructed, nothing published. -/
def Start (r : Float32) (s : Link) : Prop :=
  s.params.lookupFloat (cstr "FS_RC_TMO") = some r ∧ s.bus = {} ∧
    s.failsafe = .construct s.params ∧ s.robotControl = .construct s.params ∧
    s.verdicts = [] ∧ s.targets = []

/-- All runs of the two modules. -/
def system (r : Float32) : Transition Link LinkEvent :=
  (Transition.ofFun (Start r) tick).restrict (Admits r)

/-- No target outside failsafe carries a sample older than the timeout and half a second. -/
def Recent (r : Float32) (s : Link) : Prop :=
  ∀ target ∈ s.targets, target.valid = true → target.failsafe = false →
    target.timestampSample ≤ target.timestamp ∧
      target.timestamp.toNat - target.timestampSample.toNat ≤
        (Failsafe.policyTimeout r).toNat + 500000

/-! ## The stale run -/

/-- A link whose only parameter is the timeout, at its default of half a second. -/
def flickerStart : Link :=
  let params : ParamTable := [⟨cstr "FS_RC_TMO", .float, .ofReal 0.5, .ofReal 0.5⟩]
  { time := 0, params, bus := {}, failsafe := .construct params, robotControl := .construct params }

/-- Full throttle, nine seconds of silence, one good message that only the detector sees, and an
invalid one that robot control reads in its place. -/
def flickerRun : List LinkEvent :=
  [.publishManual { timestampSample := 1000000, throttle := 1, valid := true },
    .updateFailsafe 1000000 0, .updateRobotControl 1000000 0,
    .updateFailsafe 5000000 0, .updateRobotControl 5000000 0,
    .publishManual { timestampSample := 10000000, valid := true },
    .updateFailsafe 10000000 0,
    .publishManual { timestampSample := 10000000, valid := false },
    .updateRobotControl 10010000 0]

theorem flickerRun_reachable : (system 0.5).Reachable (flickerRun.foldl tick flickerStart) := by
  have hstart : (system 0.5).Reachable flickerStart :=
    .start ⟨by decide +kernel, rfl, rfl, rfl, rfl, rfl⟩
  refine hstart.foldl_restrict ?_
  refine ⟨⟨?_, ?_⟩, ⟨?_, ?_⟩, ⟨?_, ?_⟩, ⟨?_, ?_⟩, ⟨?_, ?_⟩, ⟨?_, ?_⟩, ⟨?_, ?_⟩, ⟨?_, ?_⟩,
    ⟨?_, ?_⟩, trivial⟩ <;>
    first
    | (rintro now ⟨⟩; decide)
    | rintro params ⟨⟩

/-- The run ends with full speed outside failsafe, on a sample that is nine seconds old. -/
theorem flicker_stale : ¬ ∀ s, (system 0.5).Reachable s → Recent 0.5 s := by
  intro h
  have hrecent := h _ flickerRun_reachable
  have hbad : ∃ target ∈ (flickerRun.foldl tick flickerStart).targets, target.valid = true ∧
      target.failsafe = false ∧ target.speed = 1 ∧
      ¬ (target.timestamp.toNat - target.timestampSample.toNat ≤
        (Failsafe.policyTimeout 0.5).toNat + 500000) := by
    decide +kernel
  obtain ⟨target, hmem, hvalid, hactive, _, hold⟩ := hbad
  exact hold (hrecent target hmem hvalid hactive).2

/-! ## The runs without it -/

/-- The stick message that an update of robot control would find in its copy. -/
def visibleManual (s : Link) : ManualControl :=
  (s.robotControl.manualSubscription.update s.bus.manualControl s.robotControl.manual).message

/-- The status that an update of robot control would find in its copy. -/
def visibleStatus (s : Link) : FailsafeStatus :=
  (s.robotControl.failsafeSubscription.update s.bus.failsafeStatus s.robotControl.failsafe).message

/-- The stick message an update at `now` has to work from: the visible one if it qualifies, else the
remembered one, else none. -/
def worksFrom (s : Link) (now : UInt64) : Option ManualControl :=
  if RobotControl.usable s.visibleManual now then some s.visibleManual
  else if s.robotControl.haveValidInput then some s.robotControl.lastValidManual
  else none

/-- When robot control finds a fresh report that the link is good, the message it has to work from is at
least as new as one the detector judged for that report. -/
def Judged (s : Link) : LinkEvent → Prop
  | .updateRobotControl clock arg =>
      s.visibleStatus.active = false →
      RobotControl.fresh s.visibleStatus.timestamp (effectiveNow clock arg) = true →
      ∀ manual ∈ s.worksFrom (effectiveNow clock arg),
        ∃ verdict ∈ s.verdicts, verdict.1 = s.visibleStatus ∧
          verdict.2.timestampSample ≤ manual.timestampSample
  | _ => True

/-- What the bound needs besides itself. -/
structure Sound (r : Float32) (s : Link) : Prop where
  timeoutParam : s.params.lookupFloat (cstr "FS_RC_TMO") = some r
  timeout : s.failsafe.TimeoutIs s.params r
  verdicts : ∀ verdict ∈ s.verdicts, verdict.1.active = false →
    verdict.1.timestamp.toNat ≤
      verdict.2.timestampSample.toNat + (Failsafe.policyTimeout r).toNat
  remembered : s.robotControl.haveValidInput = true →
    s.robotControl.lastValidManual.timestampSample ≤ s.time
  recent : s.Recent r

theorem Start.sound {r : Float32} {s : Link} (h : Start r s) : Sound r s := by
  obtain ⟨hparam, _, hfailsafe, hrobot, hverdicts, htargets⟩ := h
  refine ⟨hparam, ?_, ?_, ?_, ?_⟩
  · rw [hfailsafe]
    exact Failsafe.construct_timeoutIs hparam
  · rw [hverdicts]
    exact fun _ hmem => nomatch hmem
  · rw [hrobot]
    exact fun hhave => nomatch hhave
  · rw [Recent, htargets]
    exact fun _ hmem => nomatch hmem

theorem Sound.updateFailsafe {r : Float32} {s : Link} (h : Sound r s) {clock arg : UInt64}
    (htime : s.time ≤ effectiveNow clock arg) : Sound r (s.tick (.updateFailsafe clock arg)) := by
  have htimeout := Failsafe.readTopics_timeoutIs s.bus h.timeout h.timeoutParam
  refine ⟨h.timeoutParam, ⟨htimeout.name, htimeout.coherent, htimeout.inForce⟩, ?_, ?_, h.recent⟩
  · intro verdict hmem hactive
    rcases List.mem_cons.mp hmem with rfl | hmem
    · obtain ⟨_, _, _, hage⟩ := Failsafe.detect_inactive hactive
      rw [htimeout.inForce] at hage
      exact hage
    · exact h.verdicts verdict hmem hactive
  · exact fun hhave => UInt64.le_trans (h.remembered hhave) htime

/-- The remembered message after an update is the one the update had to work from. -/
theorem remembered_eq (s : Link) (now : UInt64)
    (hhave : ((s.robotControl.readTopics s.params s.bus).rememberValid now).haveValidInput = true) :
    s.worksFrom now =
      some ((s.robotControl.readTopics s.params s.bus).rememberValid now).lastValidManual := by
  have hmanual := RobotControl.readTopics_manual s.params s.bus s.robotControl
  obtain ⟨hlast, hhave'⟩ := RobotControl.readTopics_remembered s.params s.bus s.robotControl
  unfold RobotControl.rememberValid at hhave ⊢
  unfold worksFrom visibleManual
  rw [hmanual] at hhave ⊢
  split
  · rfl
  · rename_i hunusable
    rw [if_neg hunusable, hhave'] at hhave
    rw [if_pos hhave, hlast]

theorem worksFrom_le {r : Float32} {s : Link} (h : Sound r s) {now : UInt64}
    (htime : s.time ≤ now) {manual : ManualControl} (hworks : s.worksFrom now = some manual) :
    manual.timestampSample ≤ now := by
  unfold worksFrom at hworks
  split at hworks
  · rename_i husable
    cases hworks
    simp only [RobotControl.usable, Bool.and_eq_true, decide_eq_true_eq] at husable
    exact husable.2
  · split at hworks
    · rename_i hhave
      cases hworks
      exact UInt64.le_trans (h.remembered hhave) htime
    · cases hworks

theorem Sound.updateRobotControl {r : Float32} {s : Link} (h : Sound r s) {clock arg : UInt64}
    (htime : s.time ≤ effectiveNow clock arg)
    (hjudged : s.Judged (.updateRobotControl clock arg)) :
    Sound r (s.tick (.updateRobotControl clock arg)) := by
  refine ⟨h.timeoutParam, h.timeout, h.verdicts, ?_, ?_⟩
  · intro hhave
    exact worksFrom_le h htime (s.remembered_eq _ hhave)
  · intro target hmem hvalid hactive
    rcases List.mem_cons.mp hmem with rfl | hmem
    · obtain ⟨hhave, hsample⟩ := RobotControl.makeSetpoint_sample hvalid
      have hworks := s.remembered_eq _ hhave
      have hle := worksFrom_le h htime hworks
      have hgood := (RobotControl.makeSetpoint_failsafe _ _).symm.trans hactive
      obtain ⟨_, hfresh, hinactive⟩ := RobotControl.failsafeActive_false.mp hgood
      rw [RobotControl.rememberValid_failsafe, RobotControl.readTopics_failsafe] at hfresh hinactive
      obtain ⟨⟨status, judged⟩, hmem, rfl, hnewer⟩ := hjudged hinactive hfresh _ hworks
      have hverdict := h.verdicts _ hmem hinactive
      dsimp only at hnewer hverdict
      have hage := RobotControl.fresh_age hfresh
      rw [UInt64.le_iff_toNat_le] at hnewer
      have htimestamp := RobotControl.makeSetpoint_timestamp
        ((s.robotControl.readTopics s.params s.bus).rememberValid (effectiveNow clock arg))
        (effectiveNow clock arg)
      -- the sample is no older than the judged one, which the timeout ties to the status
      refine ⟨?_, Nat.sub_le_of_le_add ?_⟩
      · change (RobotControl.makeSetpoint _ _).timestampSample ≤
          (RobotControl.makeSetpoint _ _).timestamp
        rw [hsample, htimestamp]
        exact hle
      calc (RobotControl.makeSetpoint _ _).timestamp.toNat
          = (effectiveNow clock arg).toNat := by rw [htimestamp]
        _ ≤ s.visibleStatus.timestamp.toNat + 500000 := hage
        _ ≤ judged.timestampSample.toNat + (Failsafe.policyTimeout r).toNat + 500000 :=
            Nat.add_le_add_right hverdict _
        _ ≤ _ := by
            rw [hsample]
            omega
    · exact h.recent target hmem hvalid hactive

/-- No stale target in any run in which robot control works, on every update that finds the link
reported as good, from a message at least as new as one judged for that report. -/
theorem flicker_bounded {r : Float32} {s : Link}
    (h : ((system r).restrict Judged).Reachable s) : Recent r s := by
  refine (h.invariant (Sound r) (fun s hs => Start.sound hs) ?_).recent
  rintro s e t - hs ⟨hjudged, hadmits, rfl⟩
  cases e with
  | publishManual message => exact { hs with }
  | setParams params =>
      obtain ⟨hshape, hparam⟩ := hadmits.2 params rfl
      exact
        { hs with
          timeoutParam := hparam
          timeout := ⟨hs.timeout.name, hs.timeout.coherent.congr hshape, hs.timeout.inForce⟩ }
  | notifyParams notice => exact { hs with }
  | updateFailsafe clock arg => exact hs.updateFailsafe (hadmits.1 _ rfl)
  | updateRobotControl clock arg => exact hs.updateRobotControl (hadmits.1 _ rfl) hjudged

/-- The first three events of the stale run, where the one update of robot control is judged. -/
theorem flicker_bounded_prefix : Recent 0.5 ((flickerRun.take 3).foldl tick flickerStart) := by
  have hstart : ((system 0.5).restrict Judged).Reachable flickerStart :=
    .start ⟨by decide +kernel, rfl, rfl, rfl, rfl, rfl⟩
  have hpublish := hstart.next
    (a := LinkEvent.publishManual
      { timestampSample := 1000000, throttle := 1, valid := true })
    ⟨trivial, ⟨nofun, nofun⟩, rfl⟩
  have hdetect := hpublish.next (a := LinkEvent.updateFailsafe 1000000 0)
    ⟨trivial, ⟨by rintro now ⟨⟩; decide, nofun⟩, rfl⟩
  have hcontrol := hdetect.next (a := LinkEvent.updateRobotControl 1000000 0)
    ⟨by simp only [Judged]; decide +kernel, ⟨by rintro now ⟨⟩; decide, nofun⟩, rfl⟩
  exact flicker_bounded hcontrol

end Link

end DualMagneticWheel
