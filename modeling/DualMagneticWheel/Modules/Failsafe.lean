/-
# DualMagneticWheel.Modules.Failsafe — the loss detector

`Failsafe::update` copies the newest stick message, refreshes its timeout when a parameter changed, and
publishes one flag: the link counts as lost unless the copy is valid, carries a sample stamp that is not
in the future, and is no older than the timeout. `update_detect` is the one fact the rest of the chain
uses: an inactive status vouches for a recent valid sample that this module has received.
-/
import DualMagneticWheel.Orb.Topic
import DualMagneticWheel.Params.Table
import DualMagneticWheel.Foundation.Stamp

namespace DualMagneticWheel

open Foundation

/-- The fields of class `Failsafe`. -/
structure Failsafe where
  manualSubscription : Subscription := {}
  parameterSubscription : Subscription := {}
  paramRcTimeout : ParamFloat
  manual : ManualControl := {}
  status : FailsafeStatus := {}
  timeoutUs : UInt64 := 500000

namespace Failsafe

/-- `Failsafe::fresh`: the message fields are set and the sample is not ahead of the clock. -/
def fresh (manual : ManualControl) (now : UInt64) : Bool :=
  manual.valid && manual.timestampSample != 0 && decide (manual.timestampSample ≤ now)

/-- `ModuleParams::updateParams` of this node: its only parameter is the timeout. -/
def updateParams (params : ParamTable) (f : Failsafe) : Bool × Failsafe :=
  let (valid, timeout) := f.paramRcTimeout.update params
  (valid, { f with paramRcTimeout := timeout })

/-- `Failsafe::refreshPolicy`: adopt the timeout if it lies in its documented range. -/
def refreshPolicy (f : Failsafe) : Bool × Failsafe :=
  let timeout := f.paramRcTimeout.value
  if !timeout.isFinite || timeout.lt 0.05 || Float32.lt 10 timeout then (false, f)
  else (true, { f with timeoutUs := (timeout * 1000000).toUInt64 })

/-- The constructor. -/
def construct (params : ParamTable) : Failsafe :=
  let f : Failsafe := { paramRcTimeout := Param.construct params (cstr "FS_RC_TMO") 0.5 }
  (refreshPolicy (f.updateParams params).2).2

/-- The first two readings of `update`: the stick message, then the parameter notification. -/
def readTopics (params : ParamTable) (bus : Topics) (f : Failsafe) : Failsafe :=
  let manual := f.manualSubscription.update bus.manualControl f.manual
  let f := { f with manualSubscription := manual.subscription, manual := manual.message }
  let notice := f.parameterSubscription.update bus.parameterUpdate {}
  let f := { f with parameterSubscription := notice.subscription }
  if notice.updated then (refreshPolicy (f.updateParams params).2).2 else f

/-- The verdict published for time `now`. -/
def detect (f : Failsafe) (now : UInt64) : FailsafeStatus where
  timestamp := now
  active := !(fresh f.manual now && decide (now - f.manual.timestampSample ≤ f.timeoutUs))

/-- `Failsafe::update`; `arg = 0` reads the clock. -/
def update (params : ParamTable) (clock arg : UInt64) (bus : Topics) (f : Failsafe) :
    Failsafe × Topics :=
  let f := f.readTopics params bus
  let status := f.detect (effectiveNow clock arg)
  ({ f with status }, { bus with failsafeStatus := bus.failsafeStatus.publish status })

/-- `Failsafe::onWorkQueueStopped`: the message left behind by a stopped module. -/
def onWorkQueueStopped (clock : UInt64) (bus : Topics) : Topics :=
  { bus with failsafeStatus := bus.failsafeStatus.publish { timestamp := clock, active := true } }

/-! ## What one update does -/

/-- An inactive verdict needs a valid sample, not ahead of the clock and within the timeout. -/
theorem detect_inactive {f : Failsafe} {now : UInt64} (h : (f.detect now).active = false) :
    f.manual.valid = true ∧ f.manual.timestampSample ≠ 0 ∧
      f.manual.timestampSample.toNat ≤ now.toNat ∧
      now.toNat ≤ f.manual.timestampSample.toNat + f.timeoutUs.toNat := by
  simp only [detect, fresh, Bool.not_eq_false', Bool.and_eq_true, bne_iff_ne,
    decide_eq_true_eq] at h
  obtain ⟨⟨⟨hvalid, hne⟩, hle⟩, hage⟩ := h
  have hle' := UInt64.le_iff_toNat_le.mp hle
  rw [UInt64.le_iff_toNat_le, UInt64.toNat_sub_of_le _ _ hle] at hage
  exact ⟨hvalid, hne, hle', by omega⟩

theorem refreshPolicy_manual (f : Failsafe) : f.refreshPolicy.2.manual = f.manual := by
  unfold refreshPolicy
  simp only
  split <;> rfl

/-- The parameter half of `readTopics` leaves the stick message alone. -/
theorem readTopics_manual (params : ParamTable) (bus : Topics) (f : Failsafe) :
    (f.readTopics params bus).manual =
      (f.manualSubscription.update bus.manualControl f.manual).message := by
  unfold readTopics
  simp only
  split
  · exact refreshPolicy_manual _
  · rfl

theorem construct_manual (params : ParamTable) : (construct params).manual = {} :=
  refreshPolicy_manual _

/-! ## A fixed timeout parameter -/

/-- The timeout in force when `FS_RC_TMO` has the given value from construction on. -/
def policyTimeout (timeout : Float32) : UInt64 :=
  if !timeout.isFinite || timeout.lt 0.05 || Float32.lt 10 timeout then 500000
  else (timeout * 1000000).toUInt64

/-- The timeout of the module is the one its parameter prescribes, and its handle is coherent. -/
structure TimeoutIs (f : Failsafe) (params : ParamTable) (r : Float32) : Prop where
  name : f.paramRcTimeout.name = cstr "FS_RC_TMO"
  coherent : f.paramRcTimeout.Coherent params
  inForce : f.timeoutUs = policyTimeout r

theorem refreshPolicy_timeoutIs {f : Failsafe} {params : ParamTable} {r : Float32}
    (h : f.TimeoutIs params r) (hr : params.lookupFloat (cstr "FS_RC_TMO") = some r) :
    (refreshPolicy (f.updateParams params).2).2.TimeoutIs params r := by
  have hval : (f.paramRcTimeout.update params).2.value = r :=
    Param.update_value h.coherent (by rw [h.name]; exact hr)
  have hname : (f.paramRcTimeout.update params).2.name = cstr "FS_RC_TMO" := by
    rw [Param.update_name, h.name]
  have hcoh := Param.update_coherent h.coherent
  simp only [refreshPolicy, updateParams, hval]
  split
  · exact ⟨hname, hcoh, h.inForce⟩
  · exact ⟨hname, hcoh, by simp_all [policyTimeout]⟩

theorem construct_timeoutIs {params : ParamTable} {r : Float32}
    (hr : params.lookupFloat (cstr "FS_RC_TMO") = some r) :
    (construct params).TimeoutIs params r := by
  have hval : (Param.construct params (cstr "FS_RC_TMO") (0.5 : Float32)).value = r :=
    Param.construct_value hr
  have hname := Param.construct_name params (cstr "FS_RC_TMO") (0.5 : Float32)
  have hcoh := Param.construct_coherent params (cstr "FS_RC_TMO") (0.5 : Float32)
  have hval' : ((Param.construct params (cstr "FS_RC_TMO") (0.5 : Float32)).update params).2.value
      = r := Param.update_value hcoh (by rw [hname]; exact hr)
  have hname' : ((Param.construct params (cstr "FS_RC_TMO") (0.5 : Float32)).update params).2.name
      = cstr "FS_RC_TMO" := by rw [Param.update_name, hname]
  have hcoh' := Param.update_coherent hcoh
  simp only [construct, refreshPolicy, updateParams, hval']
  split
  · exact ⟨hname', hcoh', by simp_all [policyTimeout]⟩
  · exact ⟨hname', hcoh', by simp_all [policyTimeout]⟩

theorem readTopics_timeoutIs {f : Failsafe} {params : ParamTable} {r : Float32} (bus : Topics)
    (h : f.TimeoutIs params r) (hr : params.lookupFloat (cstr "FS_RC_TMO") = some r) :
    (f.readTopics params bus).TimeoutIs params r := by
  unfold readTopics
  simp only
  split
  · exact refreshPolicy_timeoutIs ⟨h.name, h.coherent, h.inForce⟩ hr
  · exact ⟨h.name, h.coherent, h.inForce⟩

end Failsafe

end DualMagneticWheel
