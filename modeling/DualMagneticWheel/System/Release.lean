/-
# DualMagneticWheel.System.Release — what lets the outputs go, and what stops them

Nobody calls the drivers to stop them: `command` publishes what the outputs may do, and the output stage
believes it for half a second. The operator's `command disable`, a switch that is off and a `command`
module that has died all work through that message, and everything else goes on in any order: frames
arrive, modules are restarted, parameters change.

Behind every output array there is a release, an update of `command` at most half a second before, when
the outputs were not inhibited and which left the interlock armed (`calls_released`). So half a second
after the last release is impossible no array is passed any more, and the next turn of the output stage
leaves a stop as the latest call (`halt_stops`).
-/
import DualMagneticWheel.Output.SafetyGate
import DualMagneticWheel.System.RemoteControl

namespace DualMagneticWheel

open Foundation ManualControlSwitches

namespace Robot

variable {D : Type} [OutputInterface D]

/-! ## Releases -/

/-- An update of `command` at the time `stamp` that releases the outputs. -/
def Releases (stamp : UInt64) (s : Robot D) (e : RobotEvent) : Prop :=
  ∃ clock arg, e = .updateCommand clock arg ∧ effectiveNow clock arg = stamp ∧
    s.statics.outputInhibited = false ∧ (s.next e).command.armSafety.state = .armed

/-- An arming state that says armed is an old one, or it was published by a release since. -/
def Credit (Old : ActuatorArmed → Prop) (s : Robot D) (es : List RobotEvent) (m : ActuatorArmed) : Prop :=
  m.armed = true → Old m ∨ Transition.Took (Releases m.timestamp) tick s es

/-- So are the message on the topic, the copy of the output stage, and what an output array was passed on. -/
structure Credited (Old : ActuatorArmed → Prop) (s₀ : Robot D) (es : List RobotEvent) (s : Robot D) :
    Prop where
  topic : s.bus.actuatorArmed.Holds (Credit Old s₀ es)
  copy : Credit Old s₀ es s.mixingOutput.armed
  calls : ∀ c ∈ s.driver.calls, c ∈ s₀.driver.calls ∨ (c.stopOutputs = false →
    ∃ m, Credit Old s₀ es m ∧ m.armed = true ∧ MixingOutput.fresh m.timestamp c.now = true)

section Credit

variable {Old : ActuatorArmed → Prop} {s₀ s t : Robot D} {es : List RobotEvent}

theorem Credit.append {m : ActuatorArmed} (h : Credit Old s₀ es m) (more : List RobotEvent) :
    Credit Old s₀ (es ++ more) m := fun harmed => (h harmed).imp_right fun htook => htook.append more

theorem Credited.append (h : Credited Old s₀ es s) (more : List RobotEvent) :
    Credited Old s₀ (es ++ more) s where
  topic := h.topic.mono fun _ hm => hm.append more
  copy := h.copy.append more
  calls c hc := (h.calls c hc).imp_right fun hcredit hdrive => by
    obtain ⟨m, hm, hrest⟩ := hcredit hdrive
    exact ⟨m, hm.append more, hrest⟩

theorem Credited.congr (h : Credited Old s₀ es s) (htopic : t.bus.actuatorArmed = s.bus.actuatorArmed)
    (hcopy : t.mixingOutput = s.mixingOutput) (hdriver : t.driver = s.driver) : Credited Old s₀ es t where
  topic := by
    rw [htopic]
    exact h.topic
  copy := by
    rw [hcopy]
    exact h.copy
  calls := by
    rw [hdriver]
    exact h.calls

end Credit

/-- The topics of a run of `rc_update`. -/
theorem run_actuatorArmed (params : ParamTable) (clock : UInt64) (bus : Topics) (u : RcUpdate) :
    (u.Run params clock bus).2.actuatorArmed = bus.actuatorArmed := by
  rcases (run_publishes params clock bus u).2 with hquiet | ⟨_, _, _, hbus, -⟩
  · rw [hquiet]
  · rw [hbus]

/-- One event. Only `command` publishes arming states, and only a release publishes an armed one. -/
theorem Credited.step {Old : ActuatorArmed → Prop} {r : Float32} {s₀ : Robot D} {es : List RobotEvent}
    (h : Credited Old s₀ es (es.foldl tick s₀)) {e : RobotEvent} (hadmits : Admits r (es.foldl tick s₀) e) :
    Credited Old s₀ (es ++ [e]) ((es.foldl tick s₀).tick e) := by
  have hlonger := h.append [e]
  generalize hs : es.foldl tick s₀ = s at hlonger hadmits
  cases e with
  | updateCommand clock arg =>
      obtain ⟨hobserve, hpublished⟩ := Command.updateSafety_spec (effectiveNow clock arg) s.bus s.statics
        (s.command.readTopics s.params s.bus)
      refine ⟨fun _ harmed => ?_, hlonger.copy, hlonger.calls⟩
      obtain ⟨hstate, hinhibited⟩ := hpublished.mp harmed
      rw [← hobserve] at hstate
      refine Or.inr (Transition.took_concat ?_)
      rw [hs]
      exact ⟨clock, arg, rfl, rfl, hinhibited, hstate⟩
  | stopCommand clock =>
      refine ⟨?_, hlonger.copy, hlonger.calls⟩
      exact Topic.holds_publish _ fun harmed => nomatch harmed
  | chain event =>
      obtain ⟨-, -, -, harmed⟩ := chain_bus s.toPipeline (hadmits.2.1 event rfl)
      obtain ⟨hcopy, hcalls⟩ := chain_armed s.toPipeline event (P := Credit Old s₀ (es ++ [.chain event]))
        hlonger.topic hlonger.copy (fun harmed => nomatch harmed)
      refine ⟨?_, hcopy, fun c hc => ?_⟩
      · show (s.toPipeline.next event).bus.actuatorArmed.Holds _
        rw [harmed]
        exact hlonger.topic
      · exact (hcalls c hc).elim (hlonger.calls c) Or.inr
  | sbusTurn turn =>
      obtain ⟨chain, sessions, rcUpdate, command, statics⟩ := s
      cases sessions with
      | nil => exact hlonger.congr rfl rfl rfl
      | cons session earlier => exact hlonger.congr rfl rfl rfl
  | runRcUpdate clock => exact hlonger.congr (run_actuatorArmed s.params clock s.bus s.rcUpdate) rfl rfl
  | _ => exact hlonger.congr rfl rfl rfl

theorem credited {Old : ActuatorArmed → Prop} {r : Float32} {s₀ : Robot D} {es : List RobotEvent}
    (htopic : s₀.bus.actuatorArmed.Holds fun m => m.armed = true → Old m)
    (hcopy : s₀.mixingOutput.armed.armed = true → Old s₀.mixingOutput.armed)
    (hrun : Transition.Along (Admits r) tick s₀ es) : Credited Old s₀ es (es.foldl tick s₀) := by
  refine hrun.history (Credited Old s₀) ?_ fun as e hadmits h => h.step hadmits
  exact ⟨htopic.mono fun _ hm harmed => Or.inl (hm harmed), fun harmed => Or.inl (hcopy harmed),
    fun c hc => Or.inl hc⟩

/-- At the start nothing is armed, so all credit is for releases of the run. -/
theorem Start.credited {r : Float32} {s₀ : Robot D} (h : Start r s₀) {es : List RobotEvent}
    (hrun : Transition.Along (Admits r) tick s₀ es) :
    Credited (fun _ => False) s₀ es (es.foldl tick s₀) := by
  obtain ⟨⟨-, hbus, -, -, -, ⟨names, maxOutputs, hmixing⟩, -, -⟩, -⟩ := h
  obtain ⟨_, _, _, _, hframe⟩ := MixingOutput.construct_frame s₀.params names maxOutputs
  refine Robot.credited ?_ ?_ hrun
  · rw [hbus]
    exact fun hadvertised => nomatch hadvertised
  · rw [hmixing, hframe]
    exact fun harmed => nomatch harmed

theorem Start.passed {r : Float32} {s₀ : Robot D} (h : Start r s₀) {es : List RobotEvent}
    (hrun : Transition.Along (Admits r) tick s₀ es) {c : DriverCall}
    (hc : c ∈ (es.foldl tick s₀).driver.calls) (hdrive : c.stopOutputs = false) :
    ∃ stamp, Transition.Took (Releases stamp) tick s₀ es ∧ MixingOutput.fresh stamp c.now = true := by
  have hnone : s₀.driver.calls = [] := h.1.2.2.2.2.2.2.1
  rcases (Start.credited h hrun).calls c hc with hold | hcredit
  · rw [hnone] at hold
    cases hold
  · obtain ⟨m, hm, harmed, hfresh⟩ := hcredit hdrive
    exact ⟨m.timestamp, (hm harmed).elim False.elim id, hfresh⟩

/-- In every run of the robot, an output array is passed to the driver only within half a second after a
release: an update of `command` in that run, with the outputs not inhibited, that left the interlock
armed. -/
theorem calls_released {r : Float32} {s₀ : Robot D} (h : Start r s₀) {es : List RobotEvent}
    (hrun : Transition.Along (Admits r) tick s₀ es) :
    ∀ c ∈ (es.foldl tick s₀).driver.calls, c.stopOutputs = false →
      ∃ stamp, Transition.Took (Releases stamp) tick s₀ es ∧ stamp.toNat ≤ c.now.toNat ∧
        c.now.toNat ≤ stamp.toNat + 500000 := by
  intro c hc hdrive
  obtain ⟨stamp, htook, hfresh⟩ := h.passed hrun hc hdrive
  exact ⟨stamp, htook, MixingOutput.fresh_bounds hfresh⟩

theorem calls_released_demo :
    ∃ c ∈ (demoRun.foldl tick demoStart).driver.calls, ∃ stamp,
      Transition.Took (Releases stamp) tick demoStart demoRun ∧ stamp.toNat ≤ c.now.toNat ∧
        c.now.toNat ≤ stamp.toNat + 500000 := by
  obtain ⟨c, hc, hdrive⟩ : ∃ c ∈ (demoRun.foldl tick demoStart).driver.calls, c.stopOutputs = false := by
    decide +kernel
  exact ⟨c, hc, calls_released demoStart_start demoRun_admitted c hc hdrive⟩

/-! ## Stopping the robot -/

/-- An update of `command` that sees the arm switch on. -/
def ShowsOn (s : Robot D) (e : RobotEvent) : Prop :=
  ∃ clock arg, e = .updateCommand clock arg ∧
    (s.command.readTopics s.params s.bus).observation (effectiveNow clock arg) = some POSITION_ON

/-- Three ways to keep the outputs from being released, from a state on. -/
inductive Halted (s : Robot D) (es : List RobotEvent) : Prop
  /-- The operator inhibits the outputs and does not take that back. -/
  | inhibited : s.statics.outputInhibited = true → .setOutputInhibited false ∉ es → Halted s es
  /-- The interlock is not armed, and no update sees the switch on. -/
  | switchedOff : s.command.armSafety.state ≠ .armed → ¬ Transition.Took ShowsOn tick s es → Halted s es
  /-- `command` does not run. -/
  | silent : (∀ clock arg, .updateCommand clock arg ∉ es) → Halted s es

theorem Halted.before {s : Robot D} {es more : List RobotEvent} (h : Halted s (es ++ more)) : Halted s es := by
  rcases h with ⟨hinhibited, hkept⟩ | ⟨hoff, hnone⟩ | hsilent
  · exact .inhibited hinhibited fun hmem => hkept (List.mem_append_left _ hmem)
  · exact .switchedOff hoff fun htook => hnone (htook.append more)
  · exact .silent fun clock arg hmem => hsilent clock arg (List.mem_append_left _ hmem)

/-- Only the shell's command takes the inhibition back. -/
theorem inhibited_next {s : Robot D} (h : s.statics.outputInhibited = true) {e : RobotEvent}
    (hkept : e ≠ .setOutputInhibited false) : (s.next e).statics.outputInhibited = true := by
  cases e with
  | sbusTurn turn =>
      obtain ⟨chain, sessions, rcUpdate, command, statics⟩ := s
      cases sessions with
      | nil => exact h
      | cons session earlier => exact h
  | updateCommand clock arg =>
      show (s.command.update s.params clock arg s.bus s.statics).2.1.outputInhibited = true
      unfold Command.update Command.updateSafety
      dsimp only
      split
      · exact h
      · exact h
  | setOutputInhibited inhibited =>
      cases inhibited with
      | false => exact absurd rfl hkept
      | true => rfl
  | _ => exact h

/-- Only the sight of a switch that is on arms the interlock. -/
theorem disarmed_next {s : Robot D} (h : s.command.armSafety.state ≠ .armed) {e : RobotEvent}
    (hnone : ¬ ShowsOn s e) : (s.next e).command.armSafety.state ≠ .armed := by
  cases e with
  | sbusTurn turn =>
      obtain ⟨chain, sessions, rcUpdate, command, statics⟩ := s
      cases sessions with
      | nil => exact h
      | cons session earlier => exact h
  | updateCommand clock arg =>
      have hobserve := (Command.updateSafety_spec (effectiveNow clock arg) s.bus s.statics
        (s.command.readTopics s.params s.bus)).1
      show (Command.updateSafety (effectiveNow clock arg) s.bus s.statics
        (s.command.readTopics s.params s.bus)).1.armSafety.state ≠ .armed
      rw [hobserve, Ne, ArmSafety.observe_armed, not_or]
      refine ⟨fun hon => hnone ⟨clock, arg, rfl, hon.1⟩, fun hkept => ?_⟩
      -- a new mapping starts the interlock over
      have hstate := hkept.2
      rw [Command.readTopics_armSafety] at hstate
      split at hstate
      · cases hstate
      · exact h hstate
  | startCommand =>
      show (Command.construct s.params).armSafety.state ≠ .armed
      rw [Command.construct_armSafety]
      exact ArmSafety.State.noConfusion
  | _ => exact h

section Halted

variable {r : Float32} {s : Robot D} {es : List RobotEvent}

theorem inhibited_along (hrun : Transition.Along (Admits r) tick s es)
    (h : s.statics.outputInhibited = true) :
    .setOutputInhibited false ∉ es → (es.foldl tick s).statics.outputInhibited = true := by
  refine hrun.history (fun es s => .setOutputInhibited false ∉ es → s.statics.outputInhibited = true)
    (fun _ => h) fun es e _ hbefore hkept => ?_
  rw [List.mem_append, not_or, List.mem_singleton] at hkept
  exact inhibited_next (hbefore hkept.1) (Ne.symm hkept.2)

theorem disarmed_along (hrun : Transition.Along (Admits r) tick s es)
    (h : s.command.armSafety.state ≠ .armed) :
    ¬ Transition.Took ShowsOn tick s es → (es.foldl tick s).command.armSafety.state ≠ .armed := by
  refine hrun.history
    (fun es t => ¬ Transition.Took ShowsOn tick s es → t.command.armSafety.state ≠ .armed)
    (fun _ => h) fun es e _ hbefore hnone => ?_
  exact disarmed_next (hbefore fun htook => hnone (htook.append [e])) fun hon =>
    hnone (Transition.took_concat hon)

/-- A halted robot is not released. -/
theorem Halted.not_released (h : Halted s es) (hrun : Transition.Along (Admits r) tick s es)
    (stamp : UInt64) : ¬ Transition.Took (Releases stamp) tick s es := by
  rintro ⟨before, e, after, rfl, clock, arg, rfl, -, hreleased, harmed⟩
  have hbefore := (Transition.along_append.mp hrun).1
  rcases h with ⟨hinhibited, hkept⟩ | ⟨hoff, hnone⟩ | hsilent
  · have hstill := inhibited_along hbefore hinhibited fun hmem =>
      hkept (List.mem_append_left _ hmem)
    rw [hstill] at hreleased
    cases hreleased
  · have hstill := disarmed_along hbefore hoff fun htook => hnone (htook.append _)
    exact disarmed_next hstill (fun hon => hnone ⟨before, _, after, rfl, hon⟩) harmed
  · exact hsilent clock arg (List.mem_append_right _ List.mem_cons_self)

/-- The clock of a run. -/
theorem time_le (hrun : Transition.Along (Admits r) tick s es) : s.time ≤ (es.foldl tick s).time := by
  refine hrun.history (fun _ t => s.time ≤ t.time) (UInt64.le_refl _) fun es e hadmits hle => ?_
  show s.time ≤ e.now?.getD (es.foldl tick s).time
  cases hnow : e.now? with
  | none => exact hle
  | some now => exact UInt64.le_trans hle (hadmits.1 now hnow)

theorem released_past (hrun : Transition.Along (Admits r) tick s es) {stamp : UInt64}
    (htook : Transition.Took (Releases stamp) tick s es) : stamp ≤ (es.foldl tick s).time := by
  obtain ⟨before, e, after, rfl, clock, arg, rfl, rfl, -, -⟩ := htook
  obtain ⟨-, -, hafter⟩ := Transition.along_append.mp hrun
  rw [List.foldl_append]
  exact time_le hafter

/-- No arming state that says armed is from the future. -/
theorem armed_past (h : (system D r).Reachable s) :
    (s.bus.actuatorArmed.Holds fun m => m.armed = true → m.timestamp ≤ s.time) ∧
      (s.mixingOutput.armed.armed = true → s.mixingOutput.armed.timestamp ≤ s.time) := by
  obtain ⟨s₀, es, hstart, hrun, rfl⟩ := Transition.Reachable.along h
  have hcredited := Start.credited hstart hrun
  refine ⟨hcredited.topic.mono fun m hm harmed => ?_, fun harmed => ?_⟩
  · exact (hm harmed).elim False.elim (released_past hrun)
  · exact (hcredited.copy harmed).elim False.elim (released_past hrun)

/-- And no output array was passed later than half a second from now. -/
theorem passed_past (h : (system D r).Reachable s) {c : DriverCall} (hc : c ∈ s.driver.calls)
    (hdrive : c.stopOutputs = false) : c.now.toNat ≤ s.time.toNat + 500000 := by
  obtain ⟨s₀, es, hstart, hrun, rfl⟩ := Transition.Reachable.along h
  obtain ⟨stamp, htook, hfresh⟩ := Start.passed hstart hrun hc hdrive
  have hpast := UInt64.le_iff_toNat_le.mp (released_past hrun htook)
  have hage := (MixingOutput.fresh_bounds hfresh).2
  omega

/-- While the robot is halted, everything that says armed is as old as the halt. -/
theorem Halted.stale (h : Halted s es) (hrun : Transition.Along (Admits r) tick s es) {m : ActuatorArmed}
    (hm : Credit (fun m => m.timestamp ≤ s.time) s es m) (harmed : m.armed = true) {now : UInt64}
    (hfresh : MixingOutput.fresh m.timestamp now = true) : now.toNat ≤ s.time.toNat + 500000 := by
  have hold : m.timestamp ≤ s.time :=
    (hm harmed).elim id fun htook => absurd htook (h.not_released hrun _)
  rw [UInt64.le_iff_toNat_le] at hold
  have hage := (MixingOutput.fresh_bounds hfresh).2
  omega

end Halted

/-! ### The latest call -/

/-- A stage that takes itself for stopped has made a stop as its latest call, if it has made one. -/
def LastStop (m : MixingOutput) (calls : List DriverCall) : Prop :=
  m.stopped = true → m.lastOutput ≠ 0 → ∃ c rest, calls = c :: rest ∧ c.stopOutputs = true

namespace LastStop

variable {m : MixingOutput} {now : UInt64} {driver : Recorded D} {out : MixingOutput × Recorded D}

theorem effect (h : LastStop m driver.calls) (heffect : m.Effect now driver out) :
    LastStop out.1 out.2.calls := by
  cases heffect with
  | quiet since _ _ => exact h
  | stop since => exact fun _ _ => ⟨_, _, MixingOutput.stopOutputs_calls _ now driver, rfl⟩
  | drive since _ _ _ => exact fun hstopped => nomatch hstopped
  | refused since _ _ _ => exact fun _ _ => ⟨_, _, MixingOutput.stopOutputs_calls _ now _, rfl⟩

/-- With the gate closed an update leaves a stop as the latest call. -/
theorem closed (h : LastStop m driver.calls) (heffect : m.Effect now driver out)
    (hclosed : m.gateOpen now = false) : ∃ c rest, out.2.calls = c :: rest ∧ c.stopOutputs = true := by
  cases heffect with
  | quiet since hlast hstopped =>
      rw [hclosed] at hstopped
      exact h hstopped hlast
  | stop since => exact ⟨_, _, MixingOutput.stopOutputs_calls _ now driver, rfl⟩
  | drive since hgate _ _ =>
      rw [hclosed] at hgate
      cases hgate
  | refused since hgate _ _ =>
      rw [hclosed] at hgate
      cases hgate

theorem chain {p : Pipeline D} (h : LastStop p.mixingOutput p.driver.calls) (e : ChainEvent) :
    LastStop (p.next e).mixingOutput (p.next e).driver.calls := by
  cases e with
  | updateMixingOutput clock arg =>
      have hread : LastStop (p.mixingOutput.readTopics p.bus).output p.driver.calls := h
      exact hread.effect (MixingOutput.update_effect clock arg p.bus p.mixingOutput p.driver)
  | reloadMixingOutput =>
      obtain ⟨_, _, _, hframe⟩ := p.mixingOutput.updateParams_frame p.params
      show LastStop (p.mixingOutput.updateParams p.params).2 p.driver.calls
      rw [hframe]
      exact h
  | stop node clock => exact h
  | start node =>
      cases node with
      | mixingOutput =>
          -- the new stage has made no call
          obtain ⟨_, _, _, _, hframe⟩ := MixingOutput.construct_frame p.params
            p.mixingOutput.functionParamNames p.mixingOutput.maxOutputs
          show LastStop (.construct p.params p.mixingOutput.functionParamNames p.mixingOutput.maxOutputs) _
          rw [hframe]
          exact fun _ hlast => absurd rfl hlast
      | _ =>
          simp only [Pipeline.next, Pipeline.startModule]
          exact h
  | _ => exact h

end LastStop

theorem reachable_lastStop {r : Float32} {s : Robot D} (h : (system D r).Reachable s) :
    LastStop s.mixingOutput s.driver.calls := by
  refine h.invariant (fun s => LastStop s.mixingOutput s.driver.calls) ?_ ?_
  · rintro s ⟨⟨-, -, -, -, -, ⟨names, maxOutputs, hmixing⟩, -, -⟩, -⟩
    obtain ⟨_, _, _, _, hframe⟩ := MixingOutput.construct_frame s.params names maxOutputs
    rw [hmixing, hframe]
    exact fun _ hlast => absurd rfl hlast
  · rintro s e t - hs ⟨-, rfl⟩
    cases e with
    | chain event => exact hs.chain event
    | sbusTurn turn =>
        obtain ⟨chain, sessions, rcUpdate, command, statics⟩ := s
        cases sessions with
        | nil => exact hs
        | cons session earlier => exact hs
    | _ => exact hs

/-- The robot can be stopped from the shell, by the arm switch and by the silence of `command`. From any
reachable state on, as long as one of the three lasts, an output array is passed for half a second more at
most; and a turn of the output stage after that time leaves a stop as the latest call. -/
theorem halt_stops {r : Float32} {s : Robot D} (h : (system D r).Reachable s) {es : List RobotEvent}
    (hrun : Transition.Along (Admits r) tick s es) (hhalt : Halted s es) :
    (∀ c ∈ (es.foldl tick s).driver.calls, c.stopOutputs = false →
        c.now.toNat ≤ s.time.toNat + 500000) ∧
      ∀ before clock arg after, es = before ++ .chain (.updateMixingOutput clock arg) :: after →
        s.time.toNat + 500000 < (effectiveNow clock arg).toNat →
          ∃ c rest, ((before.foldl tick s).tick (.chain (.updateMixingOutput clock arg))).driver.calls =
            c :: rest ∧ c.stopOutputs = true := by
  obtain ⟨htopic, hcopy⟩ := armed_past h
  refine ⟨fun c hc hdrive => ?_, ?_⟩
  · rcases (credited htopic hcopy hrun).calls c hc with hold | hcredit
    · exact passed_past h hold hdrive
    · obtain ⟨m, hm, harmed, hfresh⟩ := hcredit hdrive
      exact hhalt.stale hrun hm harmed hfresh
  · rintro before clock arg after rfl hlate
    have hbefore := (Transition.along_append.mp hrun).1
    have hcredited := credited htopic hcopy hbefore
    have hlast := reachable_lastStop (h.foldl_restrict hbefore)
    generalize before.foldl tick s = t at hcredited hlast
    have hread : Credit (fun m => m.timestamp ≤ s.time) s before
        (t.mixingOutput.readTopics t.bus).output.armed :=
      Subscription.update_holds hcredited.topic hcredited.copy
    have hclosed : (t.mixingOutput.readTopics t.bus).output.gateOpen (effectiveNow clock arg) = false := by
      rw [← Bool.not_eq_true]
      intro hopen
      obtain ⟨⟨harmed, -, hfresh⟩, -⟩ := MixingOutput.gateOpen_iff.mp hopen
      have hsoon := hhalt.before.stale hbefore hread harmed hfresh
      omega
    have hread' : LastStop (t.mixingOutput.readTopics t.bus).output t.driver.calls := hlast
    exact hread'.closed (MixingOutput.update_effect clock arg t.bus t.mixingOutput t.driver) hclosed

/-- The robot that drives, and the operator's `command disable`. -/
def disabled : Robot ScriptedDriver := (demoRun.foldl tick demoStart).tick (.setOutputInhibited true)

/-- `command` runs once more, and the output stage some time later. -/
def disabledRun : List RobotEvent := [.updateCommand 60000 0, .chain (.updateMixingOutput 600000 0)]

theorem halt_stops_demo :
    ∃ c rest, (disabledRun.foldl tick disabled).driver.calls = c :: rest ∧ c.stopOutputs = true := by
  have hreach : (system ScriptedDriver 0.5).Reachable disabled := by
    refine .next demoRun_reachable ⟨⟨?_, ?_, ?_⟩, rfl⟩
    · rintro now ⟨⟩
    · rintro event ⟨⟩
    · rintro params ⟨⟩
  have hrun : Transition.Along (Admits 0.5) tick disabled disabledRun := by
    refine ⟨⟨?_, ?_, ?_⟩, ⟨?_, ?_, ?_⟩, trivial⟩
    · rintro now ⟨⟩
      decide +kernel
    · rintro event ⟨⟩
    · rintro params ⟨⟩
    · rintro now ⟨⟩
      decide +kernel
    · rintro event ⟨⟩ hforeign
      exact hforeign
    · rintro params ⟨⟩
  have hhalt : Halted disabled disabledRun := by
    refine .inhibited rfl ?_
    simp only [disabledRun, List.mem_cons, List.not_mem_nil, reduceCtorEq, or_self, not_false_eq_true]
  have hstop := (halt_stops hreach hrun hhalt).2 [.updateCommand 60000 0] 600000 0 [] rfl (by decide +kernel)
  simpa only [disabledRun, List.foldl_cons, List.foldl_nil] using hstop

end Robot

end DualMagneticWheel
