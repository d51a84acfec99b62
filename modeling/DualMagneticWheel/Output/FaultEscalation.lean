/-
# DualMagneticWheel.Output.FaultEscalation — what bad actuator data leads to

While the gate is open and the source data is invalid, `update` sends zeros or a stop, as `OUT_FAIL_ACT`
says, and measures the time since the fault with `dataFaultSince`. Here every update of a run is written
down: its time, what it found, and the driver calls it made. The updates with an open gate and invalid
data are the faulty ones, which `GateOpen` and `DataValid` spell out in terms of the messages; a maximal
stretch of them is a block of the log that `takeWhile` cuts off.
`FaultRun.escalates` is the law for every faulty update of every run, with the start of its stretch read
off the log.
-/
import DualMagneticWheel.Foundation.EventLog
import DualMagneticWheel.Output.SafetyGate

namespace DualMagneticWheel

open Foundation

namespace MixingOutput

variable {D : Type} [OutputInterface D]

open OutputInterface

/-! ## Bad data, from the messages -/

/-- A message can be used: it says that it is valid, and is at most half a second old. -/
def Usable (controls : ActuatorControls) (now : UInt64) : Prop :=
  controls.valid = true ∧ controls.timestamp ≠ 0 ∧ controls.timestamp.toNat ≤ now.toNat ∧
    now.toNat ≤ controls.timestamp.toNat + 500000

/-- The gate, in terms of the arming state and the functions of the channels. -/
structure GateOpen (m : MixingOutput) (now : UInt64) : Prop where
  armed : m.armed.armed = true ∧ m.armed.lockdown = false
  fresh : m.armed.timestamp ≠ 0 ∧ m.armed.timestamp.toNat ≤ now.toNat ∧
    now.toNat ≤ m.armed.timestamp.toNat + 500000
  assigned : ∃ channel < m.maxOutputs, m.functions.getD channel .Disabled ≠ .Disabled

/-- Good source data: every message that a channel needs can be used and has a finite control for it. -/
structure DataValid (m : MixingOutput) (now : UInt64) : Prop where
  motors : ∀ channel < m.maxOutputs, outputFunctionIsMotor (m.functions.getD channel .Disabled) = true →
    Usable m.motors now
  servos : ∀ channel < m.maxOutputs, outputFunctionIsServo (m.functions.getD channel .Disabled) = true →
    Usable m.servos now
  controls : ∀ channel < m.maxOutputs,
    let assigned := m.functions.getD channel .Disabled
    let index := outputFunctionIndex assigned
    assigned ≠ .Disabled → index < (m.source assigned).count ∧ index.toNat < 8 ∧
      ((m.source assigned).control.getD index.toNat 0).isFinite = true

theorem gateOpen_eq_true {m : MixingOutput} {now : UInt64} : m.gateOpen now = true ↔ m.GateOpen now := by
  have hassigned : m.hasAssignedFunctions = true ↔
      ∃ channel < m.maxOutputs, m.functions.getD channel .Disabled ≠ .Disabled := by
    simp only [hasAssignedFunctions, isFunctionSet, List.any_eq_true, List.mem_range, Bool.and_eq_true,
      decide_eq_true_eq, bne_iff_ne]
    exact exists_congr fun channel => and_congr_right fun hlt => and_iff_right hlt
  have hfresh : fresh m.armed.timestamp now = true ↔ m.armed.timestamp ≠ 0 ∧
      m.armed.timestamp.toNat ≤ now.toNat ∧ now.toNat ≤ m.armed.timestamp.toNat + 500000 := freshWithin_iff
  rw [gateOpen_iff, hassigned, hfresh]
  constructor
  · rintro ⟨⟨harmed, hlock, hfresh⟩, hset⟩
    exact ⟨⟨harmed, hlock⟩, hfresh, hset⟩
  · rintro ⟨⟨harmed, hlock⟩, hfresh, hset⟩
    exact ⟨⟨harmed, hlock, hfresh⟩, hset⟩

theorem sourceDataValid_eq_true {m : MixingOutput} {now : UInt64} :
    m.sourceDataValid now = true ↔ m.DataValid now := by
  have husable : ∀ controls : ActuatorControls,
      controls.valid = true ∧ fresh controls.timestamp now = true ↔ Usable controls now :=
    fun controls => and_congr_right fun _ => freshWithin_iff
  have hchannel : ∀ channel, m.channelDataValid channel = true ↔
      (m.functions.getD channel .Disabled ≠ .Disabled →
        outputFunctionIndex (m.functions.getD channel .Disabled) <
          (m.source (m.functions.getD channel .Disabled)).count ∧
        (outputFunctionIndex (m.functions.getD channel .Disabled)).toNat < 8 ∧
        ((m.source (m.functions.getD channel .Disabled)).control.getD
          (outputFunctionIndex (m.functions.getD channel .Disabled)).toNat 0).isFinite = true) := by
    intro channel
    unfold channelDataValid
    dsimp only
    split
    · rename_i hdisabled
      exact ⟨fun _ hne => absurd hdisabled hne, fun _ => rfl⟩
    · rename_i hset
      simp only [Bool.and_eq_true, decide_eq_true_eq, ne_eq, hset, not_false_eq_true, forall_const,
        and_assoc]
  rw [sourceDataValid_iff]
  simp only [husable, hchannel]
  exact ⟨fun ⟨hmotors, hservos, hcontrols⟩ => ⟨hmotors, hservos, hcontrols⟩,
    fun h => ⟨h.motors, h.servos, h.controls⟩⟩

/-! ## One update in a fault -/

/-- The start of the fault after the bookkeeping of a faulty update. -/
def faultStart (m : MixingOutput) (now : UInt64) : UInt64 :=
  if m.dataFaultSince = 0 then now else m.dataFaultSince

/-- The test for an immediate stop. -/
def stopDue (m : MixingOutput) (now : UInt64) : Bool :=
  m.faultAction == 0 ||
    (m.faultAction == 2 && decide (NeutralBeforeDisableUs ≤ now - m.faultStart now))

theorem faultAction_eq (m : MixingOutput) : m.faultAction =
    if m.paramFailAction.value = 1 then 1 else if m.paramFailAction.value = 2 then 2 else 0 := by
  unfold faultAction
  dsimp only
  generalize m.paramFailAction.value = action
  by_cases hone : action = 1
  · rw [hone]
    rfl
  · by_cases htwo : action = 2
    · rw [htwo]
      rfl
    · rw [if_neg hone, if_neg htwo]
      split
      · rename_i hrange
        rw [Int32.le_iff_toInt_le, Int32.le_iff_toInt_le] at hrange
        rw [← Int32.toInt_inj] at hone htwo ⊢
        change action.toInt ≠ 1 at hone
        change action.toInt ≠ 2 at htwo
        change 0 ≤ action.toInt ∧ action.toInt ≤ 2 at hrange
        show action.toInt = 0
        omega
      · rfl

/-- The immediate stop, as a time in the stretch. -/
theorem stopDue_iff {m : MixingOutput} {now : UInt64} (h : m.faultStart now ≤ now) :
    m.stopDue now = true ↔ (m.paramFailAction.value ≠ 1 ∧ m.paramFailAction.value ≠ 2) ∨
      (m.paramFailAction.value = 2 ∧ (m.faultStart now).toNat + 500000 ≤ now.toNat) := by
  have hperiod : NeutralBeforeDisableUs ≤ now - m.faultStart now ↔
      (m.faultStart now).toNat + 500000 ≤ now.toNat := by
    rw [UInt64.le_iff_toNat_le, UInt64.toNat_sub_of_le _ _ h]
    rw [UInt64.le_iff_toNat_le] at h
    show 500000 ≤ now.toNat - (m.faultStart now).toNat ↔ _
    omega
  rw [stopDue, faultAction_eq, ← hperiod]
  by_cases hone : m.paramFailAction.value = 1
  · simp [hone]
  · by_cases htwo : m.paramFailAction.value = 2
    · simp [htwo]
    · simp [hone, htwo]

/-- What a faulty update leaves behind, for the readings `m` and the time `now`. -/
inductive FaultEffect (m : MixingOutput) (now : UInt64) (driver : D) : MixingOutput × D → Prop
  /-- The period since the newest call is not over. -/
  | quiet : m.stopDue now = false → m.lastOutput ≠ 0 → now - m.lastOutput < OutputPeriodUs →
      FaultEffect m now driver (m.withFaultSince (m.faultStart now), driver)
  /-- The policy says stop. -/
  | stop : m.stopDue now = true →
      FaultEffect m now driver ((m.withFaultSince (m.faultStart now)).stopOutputs now driver).2
  /-- Zeros that the driver took. -/
  | zeros {driver' : D} : m.stopDue now = false →
      updateOutputs (m.withFaultSince (m.faultStart now)) false (some (Vector.replicate 8 0))
        (UInt8.ofNat m.maxOutputs) now driver = (true, driver') →
      FaultEffect m now driver
        ({ m.withFaultSince (m.faultStart now) with stopped := false, lastOutput := now }, driver')
  /-- Zeros that the driver refused. -/
  | refused {driver' : D} : m.stopDue now = false →
      updateOutputs (m.withFaultSince (m.faultStart now)) false (some (Vector.replicate 8 0))
        (UInt8.ofNat m.maxOutputs) now driver = (false, driver') →
      FaultEffect m now driver ((m.withFaultSince (m.faultStart now)).stopOutputs now driver').2

theorem trackFault_true (m : MixingOutput) (now : UInt64) :
    m.trackFault true now = m.withFaultSince (m.faultStart now) := by
  unfold trackFault faultStart
  by_cases h : m.dataFaultSince = 0
  · simp [h, withFaultSince]
  · simp [h, withFaultSince]

theorem update_fault {clock arg : UInt64} {bus : Topics} {m : MixingOutput} (driver : D)
    (hgate : (m.readTopics bus).output.gateOpen (effectiveNow clock arg) = true)
    (hfault : (m.readTopics bus).output.sourceDataValid (effectiveNow clock arg) = false) :
    FaultEffect (m.readTopics bus).output (effectiveNow clock arg) driver
      (m.update clock arg bus driver).2 := by
  unfold update
  generalize m.readTopics bus = readings at hgate hfault ⊢
  obtain ⟨armChanged, motorsChanged, servosChanged, r⟩ := readings
  simp only at hgate hfault ⊢
  generalize effectiveNow clock arg = now at hgate hfault ⊢
  have hopen : ¬ (r.disarm now || !r.hasAssignedFunctions) = true := by
    simpa [gateOpen] using hgate
  rw [if_neg hopen, hfault, Bool.not_false, trackFault_true]
  have hdue : (true && ((r.withFaultSince (r.faultStart now)).faultAction == 0 ||
      ((r.withFaultSince (r.faultStart now)).faultAction == 2 && decide (NeutralBeforeDisableUs ≤
        now - (r.withFaultSince (r.faultStart now)).dataFaultSince)))) = r.stopDue now := rfl
  rw [hdue]
  cases hstop : r.stopDue now with
  | true =>
      rw [if_pos rfl]
      exact .stop hstop
  | false =>
      rw [if_neg Bool.false_ne_true]
      split
      · rename_i hquiet
        simp only [Bool.and_eq_true, bne_iff_ne, decide_eq_true_eq] at hquiet
        exact .quiet hstop hquiet.1.2 hquiet.2
      · simp only [if_true]
        have hcount : (r.withFaultSince (r.faultStart now)).maxOutputs = r.maxOutputs := rfl
        rcases hcall : updateOutputs (r.withFaultSince (r.faultStart now)) false
          (some (Vector.replicate 8 0)) (UInt8.ofNat r.maxOutputs) now driver with ⟨_ | _, driver'⟩
        · simp only [hcount, hcall]
          exact .refused hstop hcall
        · simp only [hcount, hcall]
          exact .zeros hstop hcall

theorem FaultEffect.dataFaultSince {m : MixingOutput} {now : UInt64} {driver : D}
    {out : MixingOutput × D} (h : m.FaultEffect now driver out) :
    out.1.dataFaultSince = m.faultStart now := by
  cases h with
  | quiet _ _ _ => rfl
  | stop _ => rfl
  | zeros _ _ => rfl
  | refused _ _ => rfl

/-- Without a fault the timer is at rest. -/
theorem update_noFault {clock arg : UInt64} {bus : Topics} {m : MixingOutput} (driver : D)
    (h : ((m.readTopics bus).output.gateOpen (effectiveNow clock arg) &&
      !(m.readTopics bus).output.sourceDataValid (effectiveNow clock arg)) = false) :
    (m.update clock arg bus driver).2.1.dataFaultSince = 0 := by
  unfold update
  generalize m.readTopics bus = readings at h ⊢
  obtain ⟨armChanged, motorsChanged, servosChanged, r⟩ := readings
  simp only at h ⊢
  generalize effectiveNow clock arg = now at h ⊢
  split
  · split
    · rfl
    · rfl
  · rename_i hopen
    have hgate : r.gateOpen now = true := by simpa [gateOpen] using hopen
    rw [hgate, Bool.true_and, Bool.not_eq_false'] at h
    have hclear : r.trackFault (!r.sourceDataValid now) now = r.withFaultSince 0 := by
      rw [h]
      rfl
    rw [hclear]
    split
    · rfl
    · split
      · rfl
      · split
        · rfl
        · split
          · rfl
          · rfl

/-- An update that calls the driver leaves the time of the newest call in `lastOutput`. -/
theorem Effect.lastOutput {m : MixingOutput} {now : UInt64} {driver : Recorded D}
    {out : MixingOutput × Recorded D} (h : m.Effect now driver out) :
    ∃ new, out.2.calls = new ++ driver.calls ∧ (∀ c ∈ new, c.now = now) ∧
      out.1.lastOutput = if new = [] then m.lastOutput else now := by
  cases h with
  | quiet since _ _ => exact ⟨[], rfl, by simp, rfl⟩
  | stop since =>
      refine ⟨[_], stopOutputs_calls _ now driver, ?_, rfl⟩
      intro c hc
      rw [List.mem_singleton] at hc
      rw [hc]
  | drive since hgate hpass hcall =>
      refine ⟨[_], Recorded.calls_of_call hcall, ?_, rfl⟩
      intro c hc
      rw [List.mem_singleton] at hc
      rw [hc]
  | refused since hgate hpass hcall =>
      refine ⟨[_, _], (stopOutputs_calls _ now _).trans
        (congrArg (List.cons _) (Recorded.calls_of_call hcall)), ?_, rfl⟩
      intro c hc
      simp only [List.mem_cons, List.not_mem_nil, or_false] at hc
      rcases hc with rfl | rfl
      · rfl
      · rfl

end MixingOutput

/-! ## The log of the updates -/

def DriverCall.IsStop (c : DriverCall) : Prop := c.stopOutputs = true ∧ c.outputs = none

def DriverCall.IsZeros (c : DriverCall) : Prop :=
  c.stopOutputs = false ∧ c.outputs = some (Vector.replicate 8 0)

/-- Neither of them moves a motor. -/
theorem DriverCall.value_zero {c : DriverCall} (h : c.IsStop ∨ c.IsZeros) (channel : Nat) :
    c.value channel = 0 := by
  rcases h with hstop | hzeros
  · rw [DriverCall.value, hstop.2]
    exact getD_replicate 8 channel 0
  · rw [DriverCall.value, hzeros.2]
    exact getD_replicate 8 channel 0

/-- One update: its time, what it found, and the driver calls it made, newest first. -/
structure OutputRecord where
  now : UInt64
  gateOpen : Bool
  dataValid : Bool
  failAction : Int32
  calls : List DriverCall

namespace OutputRecord

/-- The gate was open and the source data invalid. -/
def faulty (r : OutputRecord) : Bool := r.gateOpen && !r.dataValid

/-- The oldest update of the maximal stretch of faulty ones that ends with `r`. -/
def stretchStart (earlier : List OutputRecord) (r : OutputRecord) : OutputRecord :=
  (earlier.takeWhile faulty).getLast?.getD r

/-- Zeros that the driver takes, or refuses and is stopped. -/
def SendsZeros (r : OutputRecord) : Prop :=
  ∃ zeros, zeros.IsZeros ∧ (zeros.reply = true ∧ r.calls = [zeros] ∨
    zeros.reply = false ∧ ∃ stop, stop.IsStop ∧ r.calls = [stop, zeros])

def SendsStop (r : OutputRecord) : Prop := ∃ stop, stop.IsStop ∧ r.calls = [stop]

/-- The policy for an update of a stretch of faulty ones that began at `since`, with the driver calls
before it. -/
structure Escalates (since : UInt64) (before : List DriverCall) (r : OutputRecord) : Prop where
  still : ∀ c ∈ r.calls, ∀ channel, c.value channel = 0
  hold : r.failAction = 1 → r.calls ≠ [] → r.SendsZeros
  early : r.failAction = 2 → r.now.toNat < since.toNat + 500000 → r.calls ≠ [] → r.SendsZeros
  late : r.failAction = 2 → since.toNat + 500000 ≤ r.now.toNat → r.calls ≠ [] → r.SendsStop
  other : r.failAction ≠ 1 → r.failAction ≠ 2 → r.calls ≠ [] → r.SendsStop
  prompt : (∀ c, before.head? = some c → c.now.toNat + 20000 ≤ r.now.toNat) → r.calls ≠ []

/-- The cases in which the policy asks for a stop. -/
def StopAsked (since : UInt64) (r : OutputRecord) : Prop :=
  (r.failAction ≠ 1 ∧ r.failAction ≠ 2) ∨ (r.failAction = 2 ∧ since.toNat + 500000 ≤ r.now.toNat)

theorem Escalates.of_zeros {since : UInt64} {before : List DriverCall} {r : OutputRecord}
    (hasked : ¬ StopAsked since r) (h : r.SendsZeros) : r.Escalates since before := by
  refine ⟨?_, fun _ _ => h, fun _ _ _ => h, fun htwo hlate => ?_, fun hone htwo => ?_, fun _ => ?_⟩
  · obtain ⟨zeros, hzeros, ⟨-, hcalls⟩ | ⟨-, stop, hstop, hcalls⟩⟩ := h
    · intro c hc
      rw [hcalls, List.mem_singleton] at hc
      subst hc
      exact DriverCall.value_zero (Or.inr hzeros)
    · intro c hc
      simp only [hcalls, List.mem_cons, List.not_mem_nil, or_false] at hc
      rcases hc with rfl | rfl
      · exact DriverCall.value_zero (Or.inl hstop)
      · exact DriverCall.value_zero (Or.inr hzeros)
  · exact absurd (Or.inr ⟨htwo, hlate⟩) hasked
  · exact absurd (Or.inl ⟨hone, htwo⟩) hasked
  · obtain ⟨zeros, -, ⟨-, hcalls⟩ | ⟨-, stop, -, hcalls⟩⟩ := h
    · rw [hcalls]
      exact List.cons_ne_nil _ _
    · rw [hcalls]
      exact List.cons_ne_nil _ _

theorem Escalates.of_stop {since : UInt64} {before : List DriverCall} {r : OutputRecord}
    (hasked : StopAsked since r) (h : r.SendsStop) : r.Escalates since before := by
  refine ⟨?_, fun hone _ => ?_, fun htwo hearly _ => ?_, fun _ _ _ => h, fun _ _ _ => h, fun _ => ?_⟩
  · obtain ⟨stop, hstop, hcalls⟩ := h
    intro c hc
    rw [hcalls, List.mem_singleton] at hc
    subst hc
    exact DriverCall.value_zero (Or.inl hstop)
  · rcases hasked with ⟨hother, -⟩ | ⟨htwo, -⟩
    · exact absurd hone hother
    · rw [hone] at htwo
      exact absurd htwo (by decide)
  · rcases hasked with ⟨-, hother⟩ | ⟨-, hlate⟩
    · exact absurd htwo hother
    · omega
  · obtain ⟨stop, -, hcalls⟩ := h
    rw [hcalls]
    exact List.cons_ne_nil _ _

/-- An update without a call may leave nothing undone. -/
theorem Escalates.of_quiet {since : UInt64} {before : List DriverCall} {r : OutputRecord}
    (h : r.calls = []) (hrecent : ∃ c, before.head? = some c ∧ r.now.toNat < c.now.toNat + 20000) :
    r.Escalates since before := by
  have hnone : r.calls ≠ [] → False := fun hcalls => hcalls h
  refine ⟨?_, fun _ hcalls => (hnone hcalls).elim, fun _ _ hcalls => (hnone hcalls).elim,
    fun _ _ hcalls => (hnone hcalls).elim, fun _ _ hcalls => (hnone hcalls).elim, fun hdue => ?_⟩
  · rw [h]
    simp
  · obtain ⟨c, hc, hlt⟩ := hrecent
    have hge := hdue c hc
    omega

/-- The policy holds of what one faulty update did. -/
theorem escalates_of_effect {D : Type} [OutputInterface D] {m : MixingOutput} {now : UInt64}
    {driver : Recorded D} {out : MixingOutput × Recorded D} {r : OutputRecord}
    (h : m.FaultEffect now driver out) (hcalls : out.2.calls = r.calls ++ driver.calls)
    (hnow : r.now = now) (haction : r.failAction = m.paramFailAction.value)
    (hlast : m.lastOutput = (driver.calls.head?.map (·.now)).getD 0)
    (hpast : ∀ c, driver.calls.head? = some c → c.now ≤ now) (hsince : m.faultStart now ≤ now) :
    r.Escalates (m.faultStart now) driver.calls := by
  subst hnow
  have hdue : m.stopDue r.now = true ↔ StopAsked (m.faultStart r.now) r := by
    rw [MixingOutput.stopDue_iff hsince, StopAsked, haction]
  have hasked : m.stopDue r.now = false → ¬ StopAsked (m.faultStart r.now) r := by
    intro hwait hasked
    rw [hdue.mpr hasked] at hwait
    cases hwait
  have hnew : ∀ new : List DriverCall, out.2.calls = new ++ driver.calls → r.calls = new :=
    fun _ hout => List.append_cancel_right (hcalls.symm.trans hout)
  cases h with
  | quiet hwait hlastOutput hperiod =>
      apply Escalates.of_quiet (hnew [] rfl)
      cases hhead : driver.calls.head? with
      | none =>
          rw [hhead] at hlast
          exact absurd hlast hlastOutput
      | some c =>
          rw [hhead, Option.map_some, Option.getD_some] at hlast
          refine ⟨c, rfl, ?_⟩
          have hle := hpast c hhead
          rw [hlast, UInt64.lt_iff_toNat_lt, UInt64.toNat_sub_of_le _ _ hle] at hperiod
          change r.now.toNat - c.now.toNat < 20000 at hperiod
          omega
  | stop hstop =>
      have hstopped := hnew [_] (MixingOutput.stopOutputs_calls _ _ driver)
      exact .of_stop (hdue.mp hstop) ⟨_, ⟨rfl, rfl⟩, hstopped⟩
  | zeros hwait hcall =>
      have htaken := hnew [_] (Recorded.calls_of_call hcall)
      exact .of_zeros (hasked hwait) ⟨_, ⟨rfl, rfl⟩, Or.inl ⟨rfl, htaken⟩⟩
  | refused hwait hcall =>
      have hrefused := hnew [_, _] ((MixingOutput.stopOutputs_calls _ _ _).trans
        (congrArg (List.cons _) (Recorded.calls_of_call hcall)))
      exact .of_zeros (hasked hwait) ⟨_, ⟨rfl, rfl⟩, Or.inr ⟨rfl, _, ⟨rfl, rfl⟩, hrefused⟩⟩

/-- A faulty update follows the policy, for the stretch it ends and the calls of all updates before. -/
def Obeys (earlier : List OutputRecord) (r : OutputRecord) : Prop :=
  r.faulty = true → r.Escalates (stretchStart earlier r).now (earlier.flatMap (·.calls))

end OutputRecord

/-- A run with the log of its updates, newest first. -/
structure FaultRun (D : Type) where
  gate : GateState D
  updates : List OutputRecord := []

namespace FaultRun

variable {D : Type} [OutputInterface D]

/-- What is written down about an update. -/
def record (s : GateState D) (clock now : UInt64) : OutputRecord :=
  let readings := (s.mixing.readTopics s.bus).output
  let now' := effectiveNow clock now
  let after := (s.next (.update clock now)).driver.calls
  { now := now', gateOpen := readings.gateOpen now', dataValid := readings.sourceDataValid now'
    failAction := readings.paramFailAction.value
    calls := after.take (after.length - s.driver.calls.length) }

def next (s : FaultRun D) (e : GateEvent) : FaultRun D where
  gate := s.gate.next e
  updates :=
    match e with
    | .update clock now => record s.gate clock now :: s.updates
    | _ => s.updates

/-- The times passed to `update` are not zero and do not go back. -/
def InOrder (s : FaultRun D) : GateEvent → Prop
  | .update _ now => now ≠ 0 ∧ ∀ r ∈ s.updates.head?, r.now ≤ now
  | _ => True

instance (s : FaultRun D) : (e : GateEvent) → Decidable (s.InOrder e)
  | .update _ now => inferInstanceAs (Decidable (now ≠ 0 ∧ ∀ r ∈ s.updates.head?, r.now ≤ now))
  | .publishArmed _ => .isTrue trivial
  | .publishMotors _ => .isTrue trivial
  | .publishServos _ => .isTrue trivial
  | .reload _ => .isTrue trivial

/-- All runs with times in order. -/
def system (D : Type) [OutputInterface D] : Transition (FaultRun D) GateEvent :=
  (Transition.ofFun (fun s => s.gate.Start ∧ s.updates = []) next).restrict InOrder

/-! ## The invariant -/

/-- The state of the module in terms of the log. -/
structure Tracks (s : FaultRun D) : Prop where
  calls : s.gate.driver.calls = s.updates.flatMap (·.calls)
  lastOutput : s.gate.mixing.lastOutput = (s.gate.driver.calls.head?.map (·.now)).getD 0
  faultSince : s.gate.mixing.dataFaultSince =
    ((s.updates.takeWhile OutputRecord.faulty).getLast?.map (·.now)).getD 0
  times : ∀ r ∈ s.updates, r.now ≠ 0 ∧ (∀ c ∈ r.calls, c.now = r.now) ∧
    ∀ newest, s.updates.head? = some newest → r.now ≤ newest.now
  lawful : Lawful OutputRecord.Obeys s.updates

/-- A stamp that is set, or the default. -/
theorem getLast?_faultStart (log : List OutputRecord) (r : OutputRecord)
    (h : ∀ e ∈ log, e.now ≠ 0) :
    (if ((log.takeWhile OutputRecord.faulty).getLast?.map (·.now)).getD 0 = 0 then r.now
      else ((log.takeWhile OutputRecord.faulty).getLast?.map (·.now)).getD 0) =
      (OutputRecord.stretchStart log r).now := by
  unfold OutputRecord.stretchStart
  cases hlast : (log.takeWhile OutputRecord.faulty).getLast? with
  | none => rfl
  | some first =>
      have hmem : first ∈ log := List.takeWhile_sublist _ |>.subset (List.mem_of_getLast? hlast)
      rw [Option.map_some, Option.getD_some, if_neg (h first hmem)]
      rfl

/-- A faulty update that joins the log has the start of its stretch for its oldest one. -/
theorem getLast?_takeWhile_cons (log : List OutputRecord) {r : OutputRecord} (h : r.faulty = true) :
    ((r :: log).takeWhile OutputRecord.faulty).getLast? =
      some (OutputRecord.stretchStart log r) := by
  rw [List.takeWhile_cons, if_pos h, List.getLast?_cons]
  rfl

/-- What one update writes down, and what it does to the two stamps. -/
theorem record_spec (s : GateState D) (clock : UInt64) {now : UInt64} (hnow : now ≠ 0) :
    (record s clock now).now = now ∧ (∀ c ∈ (record s clock now).calls, c.now = now) ∧
      (s.next (.update clock now)).driver.calls = (record s clock now).calls ++ s.driver.calls ∧
      (s.next (.update clock now)).mixing.lastOutput =
        (if (record s clock now).calls = [] then s.mixing.lastOutput else now) ∧
      (s.next (.update clock now)).mixing.dataFaultSince =
        if (record s clock now).faulty then s.mixing.faultStart now else 0 := by
  have hnow' : effectiveNow clock now = now := effectiveNow_of_ne hnow
  obtain ⟨new, hnew, htimes, hlast⟩ :=
    (MixingOutput.update_effect clock now s.bus s.mixing s.driver).lastOutput
  rw [hnow'] at htimes hlast
  have hcalls : (record s clock now).calls = new := by
    show (s.mixing.update clock now s.bus s.driver).2.2.calls.take
      ((s.mixing.update clock now s.bus s.driver).2.2.calls.length - s.driver.calls.length) = new
    rw [hnew, List.length_append, Nat.add_sub_cancel, List.take_left]
  refine ⟨hnow', ?_, ?_, ?_, ?_⟩
  · rw [hcalls]
    exact htimes
  · rw [hcalls]
    exact hnew
  · rw [hcalls]
    exact hlast
  · have hfaulty : (record s clock now).faulty =
        ((s.mixing.readTopics s.bus).output.gateOpen (effectiveNow clock now) &&
          !(s.mixing.readTopics s.bus).output.sourceDataValid (effectiveNow clock now)) := rfl
    rw [hfaulty]
    split
    · rename_i hfault
      simp only [Bool.and_eq_true, Bool.not_eq_true'] at hfault
      have hstart := (MixingOutput.update_fault s.driver hfault.1 hfault.2).dataFaultSince
      rw [hnow'] at hstart
      exact hstart
    · rename_i hnone
      exact MixingOutput.update_noFault s.driver (Bool.not_eq_true _ ▸ hnone)

theorem Tracks.update {s : FaultRun D} (h : s.Tracks) (clock : UInt64) {now : UInt64}
    (hnow : now ≠ 0) (horder : ∀ r, s.updates.head? = some r → r.now ≤ now) :
    (s.next (.update clock now)).Tracks := by
  obtain ⟨htime, hcallTimes, hcalls, hlast, hsince⟩ := record_spec s.gate clock hnow
  generalize hr : record s.gate clock now = r at htime hcallTimes hcalls hlast hsince
  have hupdates : (s.next (.update clock now)).updates = r :: s.updates := by
    rw [← hr]
    rfl
  have hpast : ∀ e ∈ s.updates, e.now ≤ now := by
    intro e he
    cases hhead : s.updates.head? with
    | none =>
        rw [List.head?_eq_none_iff] at hhead
        rw [hhead] at he
        cases he
    | some newest => exact UInt64.le_trans ((h.times e he).2.2 newest hhead) (horder newest hhead)
  have hcallPast : ∀ c ∈ s.gate.driver.calls, c.now ≤ now := by
    intro c hc
    rw [h.calls, List.mem_flatMap] at hc
    obtain ⟨e, he, hce⟩ := hc
    rw [(h.times e he).2.1 c hce]
    exact hpast e he
  -- the start of the fault, in the module and in the log
  have hstart : s.gate.mixing.faultStart now = (OutputRecord.stretchStart s.updates r).now := by
    rw [← getLast?_faultStart s.updates r fun e he => (h.times e he).1, ← h.faultSince, htime]
    rfl
  refine ⟨?_, ?_, ?_, ?_, ?_⟩
  · show (s.gate.next (.update clock now)).driver.calls = _
    rw [hcalls, hupdates, List.flatMap_cons, h.calls]
  · show (s.gate.next (.update clock now)).mixing.lastOutput =
      ((s.gate.next (.update clock now)).driver.calls.head?.map (·.now)).getD 0
    rw [hlast, hcalls]
    cases hnew : r.calls with
    | nil =>
        rw [if_pos rfl]
        exact h.lastOutput
    | cons c rest =>
        rw [if_neg (List.cons_ne_nil c rest)]
        exact (hcallTimes c (by simp [hnew])).symm
  · -- the stretch of faulty updates goes on, begins or ends with this one
    show (s.gate.next (.update clock now)).mixing.dataFaultSince = _
    rw [hsince, hupdates]
    cases hfaulty : r.faulty with
    | true =>
        rw [if_pos rfl, getLast?_takeWhile_cons _ hfaulty]
        exact hstart
    | false => simp [hfaulty]
  · rw [hupdates]
    intro e he
    rcases List.mem_cons.mp he with rfl | he
    · refine ⟨htime ▸ hnow, fun c hc => (hcallTimes c hc).trans htime.symm, fun newest hnewest => ?_⟩
      obtain rfl := Option.some_inj.mp hnewest
      exact UInt64.le_refl _
    · refine ⟨(h.times e he).1, (h.times e he).2.1, fun newest hnewest => ?_⟩
      obtain rfl := Option.some_inj.mp hnewest
      rw [htime]
      exact hpast e he
  · rw [hupdates]
    refine ⟨fun hfaulty => ?_, h.lawful⟩
    rw [← hstart, ← h.calls]
    -- the entry is lawful: its action is the one for the age of the fault
    have hfault : (record s.gate clock now).faulty = true := by
      rw [hr]
      exact hfaulty
    simp only [OutputRecord.faulty, Bool.and_eq_true, Bool.not_eq_true'] at hfault
    have heffect := MixingOutput.update_fault s.gate.driver hfault.1 hfault.2
    rw [effectiveNow_of_ne hnow] at heffect
    have haction : r.failAction = s.gate.mixing.paramFailAction.value := by
      rw [← hr]
      rfl
    have hbegun : s.gate.mixing.faultStart now ≤ now := by
      rw [hstart]
      unfold OutputRecord.stretchStart
      cases hfirst : (s.updates.takeWhile OutputRecord.faulty).getLast? with
      | none => exact htime ▸ UInt64.le_refl _
      | some first =>
          exact hpast first (List.takeWhile_sublist _ |>.subset (List.mem_of_getLast? hfirst))
    show r.Escalates ((s.gate.mixing.readTopics s.gate.bus).output.faultStart now) _
    refine OutputRecord.escalates_of_effect heffect hcalls htime haction h.lastOutput ?_ hbegun
    intro c hc
    exact hcallPast c (List.mem_of_head? hc)

theorem Tracks.next {s : FaultRun D} (h : s.Tracks) {e : GateEvent} (horder : s.InOrder e) :
    (s.next e).Tracks := by
  cases e with
  | publishArmed message => exact ⟨h.calls, h.lastOutput, h.faultSince, h.times, h.lawful⟩
  | publishMotors message => exact ⟨h.calls, h.lastOutput, h.faultSince, h.times, h.lawful⟩
  | publishServos message => exact ⟨h.calls, h.lastOutput, h.faultSince, h.times, h.lawful⟩
  | reload params =>
      obtain ⟨_, _, _, hframe⟩ := s.gate.mixing.updateParams_frame params
      have hmixing : (s.next (.reload params)).gate.mixing = (s.gate.mixing.updateParams params).2 :=
        rfl
      refine ⟨h.calls, ?_, ?_, h.times, h.lawful⟩
      · rw [hmixing, hframe]
        exact h.lastOutput
      · rw [hmixing, hframe]
        exact h.faultSince
  | update clock now => exact h.update clock horder.1 horder.2

/-- The run lemma. -/
theorem reachable_tracks {s : FaultRun D} (h : (system D).Reachable s) : s.Tracks := by
  refine h.invariant Tracks ?_ ?_
  · rintro s ⟨⟨params, functionParams, maxOutputs, hmixing, hcalls⟩, hupdates⟩
    obtain ⟨_, _, _, _, hframe⟩ := MixingOutput.construct_frame params functionParams maxOutputs
    rw [hframe] at hmixing
    refine ⟨?_, ?_, ?_, ?_, ?_⟩
    · rw [hcalls, hupdates]
      rfl
    · rw [hmixing, hcalls]
      rfl
    · rw [hmixing, hupdates]
      rfl
    · rw [hupdates]
      simp
    · rw [hupdates]
      exact lawful_nil
  · rintro s e t - hs ⟨horder, rfl⟩
    exact hs.next horder

/-- A record describes an update: its time, the policy, the calls it made, and a fault if the gate was open
and the data bad in the copies `m` that it read. -/
structure Describes (r : OutputRecord) (now : UInt64) (m : MixingOutput) (before after : List DriverCall) :
    Prop where
  time : r.now = now
  failAction : r.failAction = m.paramFailAction.value
  calls : after = r.calls ++ before
  faulty : r.faulty = true ↔ m.GateOpen now ∧ ¬ m.DataValid now

/-- Every update with an open gate and invalid data, in every run whose times do not go back, follows the
policy: its stretch of such updates began at the time the log says, and the driver calls before it are
those of the earlier updates. Every update of a run writes the record that describes it. -/
theorem escalates {s : FaultRun D} (h : (system D).Reachable s) :
    (∀ later r earlier, s.updates = later ++ r :: earlier → r.faulty = true →
      r.Escalates (OutputRecord.stretchStart earlier r).now (earlier.flatMap (·.calls))) ∧
      ∀ clock now, s.InOrder (.update clock now) →
        ∃ r, (s.next (.update clock now)).updates = r :: s.updates ∧
          Describes r now (s.next (.update clock now)).gate.mixing s.gate.driver.calls
            (s.next (.update clock now)).gate.driver.calls := by
  refine ⟨fun later r earlier => lawful_iff_forall_split.mp (reachable_tracks h).lawful later r earlier, ?_⟩
  intro clock now hnow
  obtain ⟨htime, -, hcalls, -, -⟩ := record_spec s.gate clock hnow.1
  obtain ⟨_, _, _, hframe⟩ :=
    (MixingOutput.update_effect clock now s.gate.bus s.gate.mixing s.gate.driver).frame
  have hmixing : (s.next (.update clock now)).gate.mixing =
      (s.gate.mixing.update clock now s.gate.bus s.gate.driver).2.1 := rfl
  refine ⟨record s.gate clock now, rfl, htime, ?_, hcalls, ?_⟩
  · rw [hmixing, hframe]
    rfl
  · rw [hmixing, hframe, OutputRecord.faulty, Bool.and_eq_true, Bool.not_eq_true', ← Bool.not_eq_true]
    simp only [record, effectiveNow_of_ne hnow.1, MixingOutput.gateOpen_eq_true,
      MixingOutput.sourceDataValid_eq_true]
    -- the fields that an update changes are not among those the tests look at
    constructor
    · rintro ⟨⟨harmed, hfresh, hset⟩, hbad⟩
      exact ⟨⟨harmed, hfresh, hset⟩, fun hgood => hbad ⟨hgood.motors, hgood.servos, hgood.controls⟩⟩
    · rintro ⟨⟨harmed, hfresh, hset⟩, hbad⟩
      exact ⟨⟨harmed, hfresh, hset⟩, fun hgood => hbad ⟨hgood.motors, hgood.servos, hgood.controls⟩⟩

/-- One motor channel whose driver refuses the first call, armed, with `OUT_FAIL_ACT` at 2 and no motor
message: three updates, the last one half a second after the first. -/
def silentMotor : FaultRun ScriptedDriver :=
  let table : ParamTable := [⟨cstr "CAN_M0_FUNC", .int32, .ofInteger 0, .ofInteger 101⟩,
    ⟨cstr "OUT_FAIL_ACT", .int32, .ofInteger 2, .ofInteger 2⟩]
  [.publishArmed { timestamp := 1000, armed := true, valid := true }, .update 0 1000, .update 0 21000,
    .update 0 501000].foldl next
    { gate := ⟨{}, .construct table (some [cstr "CAN_M0_FUNC"]) 1, ⟨⟨[false]⟩, []⟩⟩ }

theorem silentMotor_reachable : (system ScriptedDriver).Reachable silentMotor :=
  Transition.Reachable.foldl_restrict (.start ⟨⟨_, _, _, rfl, rfl⟩, rfl⟩) (by decide +kernel)

/-- The last update is the one that stops. -/
theorem escalates_silentMotor :
    silentMotor.updates.map (fun r => r.calls.map (·.stopOutputs)) =
      [[true], [false], [true, false]] ∧
    (∃ r earlier, silentMotor.updates = r :: earlier ∧
      r.Escalates (OutputRecord.stretchStart earlier r).now (earlier.flatMap (·.calls))) ∧
    ∃ r, (silentMotor.next (.update 0 521000)).updates = r :: silentMotor.updates ∧
      Describes r 521000 (silentMotor.next (.update 0 521000)).gate.mixing silentMotor.gate.driver.calls
        (silentMotor.next (.update 0 521000)).gate.driver.calls := by
  refine ⟨by decide +kernel, ?_, (escalates silentMotor_reachable).2 0 521000 (by decide +kernel)⟩
  have hnewest : silentMotor.updates.head?.map (·.faulty) = some true := by decide +kernel
  cases hlog : silentMotor.updates with
  | nil =>
      rw [hlog] at hnewest
      cases hnewest
  | cons r earlier =>
      rw [hlog, List.head?_cons, Option.map_some, Option.some_inj] at hnewest
      have hsplit : silentMotor.updates = [] ++ r :: earlier := hlog
      exact ⟨r, earlier, rfl, (escalates silentMotor_reachable).1 [] r earlier hsplit hnewest⟩

end FaultRun

end DualMagneticWheel
