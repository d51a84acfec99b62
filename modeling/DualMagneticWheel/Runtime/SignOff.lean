/-
# DualMagneticWheel.Runtime.SignOff — the last word of a module that is stopped

Only the owner of a topic publishes on it, in a `Run` or while its shell signs off. `Run` needs an item
that was activated and is still linked, so nothing is published for a module from the moment its item is
unlinked until its next start activates an item again, except the messages of `onWorkQueueStopped`.
These are therefore the last ones when the object is deleted, and they stay.
-/
import DualMagneticWheel.Runtime.ObjectLifetime

namespace DualMagneticWheel

open Foundation

variable {Node QueueId Thread TopicId : Type} {Message : TopicId → Type}
variable [DecidableEq Node] [DecidableEq QueueId] [DecidableEq Thread] [DecidableEq TopicId]

/-- No `Run` of the current object can have begun. -/
def QueuedStage.isQuiet : QueuedStage TopicId → Bool
  | .absent | .constructed | .queueStarted | .registering _ | .published | .unregistering true _
  | .waiting true _ => true
  | _ => false

namespace Runtime

/-! ## Who stores messages -/

/-- A topic changes only with a message that a step stores on it. -/
theorem next_topic {w : Wiring Node QueueId Message} {s : Runtime Node QueueId Thread Message}
    {a : RuntimeAction Node QueueId Thread Message} {τ : TopicId}
    (h : ∀ message, a.stored w ≠ some ⟨τ, message⟩) :
    ((s.next w a).channel τ).topic = (s.channel τ).topic :=
  (next_channel w s a τ).topic_eq h

/-- What is left of a `Run` belongs to the module that the worker runs. -/
def RunsSound (w : Wiring Node QueueId Message) (s : Runtime Node QueueId Thread Message) : Prop :=
  ∀ q o, (s.queue q).worker = .running o → ∀ op ∈ s.remaining q, op ∈ w.run o.node

namespace RunsSound

variable {w : Wiring Node QueueId Message} {s : Runtime Node QueueId Thread Message}

omit [DecidableEq Node] [DecidableEq Thread] [DecidableEq TopicId] in
/-- A critical section of a queue that starts no `Run`. -/
theorem modifyQueue (h : RunsSound w s) {q : QueueId}
    {f : WorkQueue (ModuleObject Node) → WorkQueue (ModuleObject Node)}
    (hworker : ∀ o, (f (s.queue q)).worker = .running o → (s.queue q).worker = .running o) :
    RunsSound w (s.modifyQueue q f) := by
  intro q' o hrun
  refine h q' o ?_
  by_cases hq : q' = q
  · rw [hq, modifyQueue_self] at hrun
    rw [hq]
    exact hworker o hrun
  · rwa [modifyQueue_of_ne s hq] at hrun

omit [DecidableEq Node] [DecidableEq Thread] [DecidableEq TopicId] in
/-- The `Run` goes on. -/
theorem setRemaining (h : RunsSound w s) {q : QueueId} {op : RunOp TopicId}
    {rest : List (RunOp TopicId)} (hops : s.remaining q = op :: rest) :
    RunsSound w (s.setRemaining q rest) := by
  intro q' o hrun op' hop
  refine h q' o hrun op' ?_
  by_cases hq : q' = q
  · have hmem : op' ∈ Function.update s.remaining q rest q' := hop
    rw [hq, Function.update_self] at hmem
    rw [hq, hops]
    exact List.mem_cons_of_mem op hmem
  · have hmem : op' ∈ Function.update s.remaining q rest q' := hop
    rwa [Function.update_of_ne hq] at hmem

theorem broadcast {q : WorkQueue (ModuleObject Node)} {o o' : ModuleObject Node}
    {f : WorkItem → WorkItem} (h : (q.modify o f).broadcast.worker = .running o') :
    q.worker = .running o' := (WorkQueue.broadcast_running (q.modify o f) o').mp h

theorem schedule (q : WorkQueue (ModuleObject Node)) (o o' : ModuleObject Node) (now : UInt64)
    (h : (q.schedule o now 0).worker = .running o') : q.worker = .running o' := by
  unfold WorkQueue.schedule at h
  split at h
  · exact broadcast h
  · exact h

omit [DecidableEq Thread] [DecidableEq TopicId] in
theorem test (h : RunsSound w s) (m : Node) (starting : Bool) (deadline now : UInt64) :
    RunsSound w (s.test w m starting deadline now) := by
  unfold Runtime.test
  split
  · split
    · exact h
    · exact h
  · exact h.modifyQueue fun _ hrun => hrun

end RunsSound

theorem next_runsSound {w : Wiring Node QueueId Message} {s : Runtime Node QueueId Thread Message}
    {a : RuntimeAction Node QueueId Thread Message} (hs : RunsSound w s) (h : s.Enabled w a) :
    RunsSound w (s.next w a) := by
  -- starting a queue does not change what its worker runs
  have hstart : ∀ q spawned,
      RunsSound w (s.modifyQueue q fun queue => (queue.start spawned).2) := by
    intro q spawned
    refine hs.modifyQueue ?_
    intro o hrun
    unfold WorkQueue.start at hrun
    split at hrun
    · exact hrun
    · exact hrun
  cases a with
  | publish thread τ message => exact hs
  | lockCallbacks p τ => exact hs
  | visit p τ slot => exact hs
  | call p τ slot o now => exact hs.modifyQueue fun o' => RunsSound.schedule _ o o' now
  | unlockCallbacks p τ slot => exact hs
  | initQueue q spawned => exact hstart q spawned
  | scan q now =>
      show RunsSound w (s.scan w q now)
      unfold scan
      split
      · rename_i o hsel
        intro q' o' hrun op hop
        by_cases hq : q' = q
        · subst hq
          have hmem : op ∈ Function.update s.remaining q' (w.run o.node) q' := hop
          have hself : ((s.modifyQueue q' (·.scan now)).queue q').worker = .running o' := hrun
          rw [Function.update_self] at hmem
          rw [modifyQueue_self] at hself
          unfold WorkQueue.scan at hself
          rw [hsel] at hself
          -- the worker begins the run of the selected object
          rw [← Worker.running.inj hself]
          exact hmem
        · have hmem : op ∈ Function.update s.remaining q (w.run o.node) q' := hop
          have hother : ((s.modifyQueue q (·.scan now)).queue q').worker = .running o' := hrun
          rw [Function.update_of_ne hq] at hmem
          rw [modifyQueue_of_ne s hq] at hother
          exact hs q' o' hother op hmem
      · rename_i hsel
        refine hs.modifyQueue ?_
        intro o hrun
        unfold WorkQueue.scan at hrun
        rw [hsel] at hrun
        cases hrun
  | wake q => exact hs.modifyQueue nofun
  | update q o τ rest =>
      exact RunsSound.setRemaining (s := s.modifyLife o.node _) hs h.2.1
  | runPublish q o τ rest message =>
      exact RunsSound.setRemaining (s := s.store (.worker q) τ message) hs h.2.1
  | skip q o τ rest => exact hs.setRemaining h.2.1
  | finish q o => exact hs.modifyQueue nofun
  | start m instantiated =>
      show RunsSound w (s.start w m instantiated)
      unfold start
      split
      · exact hs
      · exact hs
  | startQueue m spawned => exact hstart (w.queue m) spawned
  | attach m =>
      refine RunsSound.modifyQueue
        (f := fun queue => (queue.attach (s.object m) (w.periodUs m)).2) hs ?_
      intro o hrun
      rcases LifeSound.attach_cases (s.object m) (w.periodUs m) (s.queue (w.queue m)) with heq | heq
      · rwa [heq] at hrun
      · rwa [heq] at hrun
  | register m τ rest => exact hs
  | publishObject m => exact hs
  | scheduleOnInterval m now =>
      refine RunsSound.modifyQueue
        (f := fun queue => queue.setInterval (s.object m) now (w.periodUs m)) hs ?_
      intro o hrun
      unfold WorkQueue.setInterval at hrun
      split at hrun
      · exact RunsSound.broadcast hrun
      · exact hrun
  | scheduleNow m now =>
      exact RunsSound.modifyQueue (f := fun queue => queue.schedule (s.object m) now 0) hs
        fun o => RunsSound.schedule _ _ o now
  | stop m =>
      show RunsSound w (s.stop w m)
      unfold stop
      split
      · exact hs
      · split
        · exact hs
        · exact hs
  | unregister m starting τ rest => exact hs
  | detach m starting now now' =>
      show RunsSound w (s.detach w m starting now now')
      unfold detach
      split
      · exact RunsSound.test (hs.modifyQueue fun o hrun => RunsSound.broadcast hrun) m starting _ now'
      · exact hs
  | test m starting deadline now => exact hs.test m starting deadline now
  | halt m now => exact hs
  | signOff m now index =>
      show RunsSound w (s.signOff w m now index)
      unfold signOff
      split
      · exact hs
      · exact hs
  | delete m now index => exact hs

/-! ## The messages that stay -/

/-- Nothing was ever published on the topics of the module. -/
def Unpublished (w : Wiring Node QueueId Message) (s : Runtime Node QueueId Thread Message)
    (m : Node) : Prop := ∀ τ, w.owner τ = some m → (s.channel τ).topic.advertised = false

/-- The latest messages on the topics of the module are those of one `onWorkQueueStopped`. -/
def SignedOff (w : Wiring Node QueueId Message) (s : Runtime Node QueueId Thread Message) (m : Node) :
    Prop :=
  ∃ now, ∀ τ, w.owner τ = some m → (s.channel τ).topic.advertised = true ∧
    ⟨τ, (s.channel τ).topic.message⟩ ∈ w.onWorkQueueStopped m now

/-- What the topics of a module hold while nothing runs for it: nothing before its first stop, then the
messages of its last stop, and in between those that its shell has published so far. -/
structure SignOffSound (w : Wiring Node QueueId Message) (s : Runtime Node QueueId Thread Message)
    (m : Node) : Prop where
  quiet : (s.life m).stage.isQuiet = true →
    if (s.life m).stopped then SignedOff w s m else Unpublished w s m
  signing : ∀ now index, (s.life m).stage = .signingOff now index → ∀ i < index,
    ∀ p, (w.onWorkQueueStopped m now)[i]? = some p →
      (s.channel p.1).topic.advertised = true ∧ (s.channel p.1).topic.message = p.2
  returned : (s.life m).stopReturned = true → (s.life m).stage = .absent

namespace SignOffSound

variable {w : Wiring Node QueueId Message} {s t : Runtime Node QueueId Thread Message} {m : Node}

omit [DecidableEq Node] [DecidableEq QueueId] [DecidableEq Thread] [DecidableEq TopicId] in
/-- The topics stay as they are and the module does not begin to be quiet or to sign off. -/
theorem of_topics (h : SignOffSound w s m)
    (htopic : ∀ τ, (s.life m).stage.isQuiet = true ∨
        (∃ now index, (s.life m).stage = .signingOff now index) →
      w.owner τ = some m → (t.channel τ).topic = (s.channel τ).topic)
    (hstopped : (t.life m).stopped = (s.life m).stopped)
    (hquiet : (t.life m).stage.isQuiet = true → (s.life m).stage.isQuiet = true)
    (hsigning : ∀ now index, (t.life m).stage = .signingOff now index →
      (s.life m).stage = .signingOff now index ∨ index = 0)
    (hreturned : (t.life m).stopReturned = true → (t.life m).stage = .absent) :
    SignOffSound w t m := by
  refine ⟨?_, ?_, hreturned⟩
  · intro hstage
    have hold := h.quiet (hquiet hstage)
    have htopic' := fun τ => htopic τ (Or.inl (hquiet hstage))
    rw [hstopped]
    split
    · rename_i hever
      rw [if_pos hever] at hold
      obtain ⟨now, hmessages⟩ := hold
      refine ⟨now, ?_⟩
      intro τ hτ
      rw [htopic' τ hτ]
      exact hmessages τ hτ
    · rename_i hnever
      rw [if_neg hnever] at hold
      intro τ hτ
      rw [htopic' τ hτ]
      exact hold τ hτ
  · intro now index hstage i hi p hp
    rcases hsigning now index hstage with hold | hzero
    · have hmem : p ∈ w.onWorkQueueStopped m now := List.mem_of_getElem? hp
      rw [htopic p.1 (Or.inr ⟨now, index, hold⟩) (w.stopped_owner m now p hmem)]
      exact h.signing now index hold i hi p hp
    · omega

/-- One more message of the module is published by its shell. -/
theorem signOff (h : SignOffSound w s m) {now : UInt64} {index : Nat}
    (hstage : (s.life m).stage = .signingOff now index) :
    SignOffSound w (s.signOff w m now index) m := by
  unfold Runtime.signOff
  split
  · rename_i τ message hindex
    have hlife : (((s.store (.shell m) τ message).setStage m (.signingOff now (index + 1))).life m) =
        { s.life m with stage := .signingOff now (index + 1) } := modifyLife_self ..
    refine ⟨?_, ?_, ?_⟩
    · rw [hlife]
      exact nofun
    · rw [hlife]
      intro now' index' heq i hi p hp
      cases heq
      show ((s.store (.shell m) τ message).channel p.1).topic.advertised = true ∧
        ((s.store (.shell m) τ message).channel p.1).topic.message = p.2
      rcases Nat.lt_succ_iff_lt_or_eq.mp hi with hlt | rfl
      · -- An earlier message is on another topic.
        have hne : p.1 ≠ τ := by
          intro hsame
          have hnodup := w.stopped_nodup m now
          have hfirst : ((w.onWorkQueueStopped m now).map Sigma.fst)[i]? = some τ := by
            rw [List.getElem?_map, hp, Option.map_some, hsame]
          have hsecond : ((w.onWorkQueueStopped m now).map Sigma.fst)[index]? = some τ := by
            rw [List.getElem?_map, hindex]
            rfl
          have hbound := (List.getElem?_eq_some_iff.mp hfirst).1
          have hequal := (List.getElem?_inj hbound hnodup).mp (hfirst.trans hsecond.symm)
          omega
        rw [store_of_ne _ hne]
        exact h.signing now index hstage i hlt p hp
      · rw [hindex] at hp
        cases hp
        rw [store_self]
        exact ⟨rfl, rfl⟩
    · rw [hlife]
      intro hreturned
      have habsent := h.returned hreturned
      rw [hstage] at habsent
      cases habsent
  · exact h

omit [DecidableEq QueueId] [DecidableEq Thread] [DecidableEq TopicId] in
/-- The object is deleted after the last message. -/
theorem delete (h : SignOffSound w s m) {now : UInt64} {index : Nat}
    (hstage : (s.life m).stage = .signingOff now index)
    (hend : (w.onWorkQueueStopped m now).length ≤ index) : SignOffSound w (s.delete m) m := by
  have hlife : (s.delete m).life m =
      { s.life m with stage := .absent, stopReturned := true, stopped := true } :=
    modifyLife_self ..
  refine ⟨?_, ?_, ?_⟩
  · rw [hlife]
    intro _
    rw [if_pos rfl]
    refine ⟨now, ?_⟩
    intro τ hτ
    obtain ⟨p, hp, rfl⟩ := List.mem_map.mp (w.stopped_covers m now τ hτ)
    obtain ⟨i, hi, hget⟩ := List.mem_iff_getElem.mp hp
    obtain ⟨hadvertised, hmessage⟩ := h.signing now index hstage i (by omega) p
      (List.getElem?_eq_some_iff.mpr ⟨hi, hget⟩)
    refine ⟨hadvertised, ?_⟩
    show (⟨p.1, (s.channel p.1).topic.message⟩ : Sigma Message) ∈ _
    rw [hmessage]
    exact hp
  · rw [hlife]
    exact nofun
  · rw [hlife]
    exact fun _ => rfl

end SignOffSound

/-! ## All steps -/

omit [DecidableEq Node] [DecidableEq QueueId] [DecidableEq Thread] [DecidableEq TopicId] in
/-- The worker runs the current object of a module, linked and with its flag set. -/
theorem RuntimeSound.of_worker {w : Wiring Node QueueId Message}
    {s : Runtime Node QueueId Thread Message} (hs : RuntimeSound w s) {q : QueueId}
    {o : ModuleObject Node} (hworker : (s.queue q).worker = .running o) :
    (s.life o.node).stage.isLinked = true ∧ q = w.queue o.node ∧ o = s.object o.node ∧
      (s.item w o.node).running = true := by
  have hflags := (hs.queues q).flags o
  have hrunning := hflags.running.mpr hworker
  obtain ⟨hlinked, rfl, hserial⟩ :=
    ((hs.lives o.node).linked q o.serial).mp (hflags.attached.mpr (hflags.kept hrunning))
  have hobject : o = s.object o.node := by
    unfold object
    rw [← hserial]
  refine ⟨hlinked, rfl, hobject, ?_⟩
  unfold item
  rw [← hobject]
  exact hrunning

omit [DecidableEq Node] [DecidableEq QueueId] [DecidableEq Thread] [DecidableEq TopicId] in
/-- No worker runs a module that is quiet or signs off. -/
theorem not_run_of_quiet {w : Wiring Node QueueId Message} {s : Runtime Node QueueId Thread Message}
    (hs : RuntimeSound w s) {m : Node}
    (hstage : (s.life m).stage.isQuiet = true ∨
      ∃ now index, (s.life m).stage = .signingOff now index)
    {q : QueueId} {o : ModuleObject Node} (hworker : (s.queue q).worker = .running o) :
    o.node ≠ m := by
  rintro rfl
  obtain ⟨hlinked, -, -, hrunning⟩ := hs.of_worker hworker
  rcases hstage with hquiet | ⟨now, index, hsigning⟩
  · have hdormant : (s.life o.node).stage.isDormant = true := by
      generalize (s.life o.node).stage = stage at hlinked hquiet
      cases stage with
      | unregistering starting rest =>
          cases starting with
          | true => rfl
          | false => cases hquiet
      | waiting starting deadline =>
          cases starting with
          | true => rfl
          | false => cases hquiet
      | registering _ | published => rfl
      | absent | constructed | queueStarted | silent | signingOff _ _ => cases hlinked
      | activated | running | retained => cases hquiet
    have hidle := ((hs.lives o.node).dormant hdormant).2
    rw [hrunning] at hidle
    cases hidle
  · rw [hsigning] at hlinked
    cases hlinked

/-- A topic of a module that is quiet or signs off changes with the commands of the module only. -/
theorem topic_kept {w : Wiring Node QueueId Message} {s : Runtime Node QueueId Thread Message}
    {a : RuntimeAction Node QueueId Thread Message} (hs : RuntimeSound w s) (hruns : RunsSound w s)
    (h : s.Enabled w a) {m : Node} (hnode : a.node ≠ some m) {τ : TopicId}
    (hstage : (s.life m).stage.isQuiet = true ∨
      ∃ now index, (s.life m).stage = .signingOff now index)
    (hτ : w.owner τ = some m) : ((s.next w a).channel τ).topic = (s.channel τ).topic := by
  refine next_topic ?_
  intro message hstored
  cases a with
  | publish thread τ' message' =>
      cases hstored
      rw [h.1] at hτ
      cases hτ
  | runPublish q o τ' rest message' =>
      cases hstored
      obtain ⟨hworker, hops, -⟩ := h
      have howner := w.publish_owner o.node τ
        (hruns q o hworker _ (by rw [hops]; exact List.mem_cons_self))
      rw [hτ] at howner
      exact not_run_of_quiet hs hstage hworker (Option.some.inj howner).symm
  | signOff m' now index =>
      have howner := w.stopped_owner m' now _ (List.mem_of_getElem? hstored)
      rw [show w.owner τ = some m' from howner] at hτ
      exact hnode hτ
  | _ => cases hstored

omit [DecidableEq QueueId] [DecidableEq Thread] [DecidableEq TopicId] in
theorem setStage_life (s : Runtime Node QueueId Thread Message) (m : Node)
    (stage : QueuedStage TopicId) : (s.setStage m stage).life m = { s.life m with stage } :=
  modifyLife_self ..

omit [DecidableEq QueueId] [DecidableEq Thread] in
theorem register_life (w : Wiring Node QueueId Message) (s : Runtime Node QueueId Thread Message)
    (m : Node) (τ : TopicId) (rest : List TopicId) :
    ∃ stage registered, (s.register w m τ rest).life m = { s.life m with stage, registered } ∧
      ∀ now index, stage ≠ .signingOff now index := by
  unfold register
  refine ⟨_, _, modifyLife_self .., ?_⟩
  split <;> exact nofun

omit [DecidableEq QueueId] [DecidableEq Thread] in
theorem unregister_life (s : Runtime Node QueueId Thread Message) (m : Node) (starting : Bool)
    (τ : TopicId) (rest : List TopicId) :
    ∃ registered, (s.unregister m starting τ rest).life m =
      { s.life m with stage := .unregistering starting rest, registered } := by
  unfold unregister
  exact ⟨_, modifyLife_self ..⟩

omit [DecidableEq Thread] [DecidableEq TopicId] in
/-- A stop does not make the module quiet before it has signed off. -/
theorem test_life (w : Wiring Node QueueId Message) (s : Runtime Node QueueId Thread Message)
    (m : Node) (starting : Bool) (deadline now : UInt64) :
    ∃ stage, (s.test w m starting deadline now).life m = { s.life m with stage } ∧
      (starting = false → stage.isQuiet = false) ∧ ∀ now index, stage ≠ .signingOff now index := by
  unfold test stopAndWaitReturned
  cases starting with
  | true =>
      split
      · split
        · exact ⟨_, setStage_life .., nofun, nofun⟩
        · exact ⟨_, setStage_life .., nofun, nofun⟩
      · exact ⟨_, setStage_life .., nofun, nofun⟩
  | false =>
      split
      · split
        · exact ⟨_, setStage_life .., fun _ => rfl, nofun⟩
        · exact ⟨_, setStage_life .., fun _ => rfl, nofun⟩
      · exact ⟨_, setStage_life .., fun _ => rfl, nofun⟩

/-- The commands of a module. -/
theorem signOff_own {w : Wiring Node QueueId Message} {s : Runtime Node QueueId Thread Message}
    {a : RuntimeAction Node QueueId Thread Message} (hs : RuntimeSound w s) (h : s.Enabled w a)
    {m : Node} (hnode : a.node = some m) (hsign : SignOffSound w s m) :
    SignOffSound w (s.next w a) m := by
  -- A stage that follows one in which no stop has returned.
  have hmove : ∀ {t : Runtime Node QueueId Thread Message} {before stage : QueuedStage TopicId}
      {registered : TopicId → Bool}, (s.life m).stage = before →
      t.life m = { s.life m with stage, registered } →
      (∀ τ, (t.channel τ).topic = (s.channel τ).topic) →
      before ≠ .absent → (stage.isQuiet = true → before.isQuiet = true) →
      (∀ now index, stage = .signingOff now index → index = 0) → SignOffSound w t m := by
    rintro t _ stage registered rfl hlife htopic hpresent hquiet hsigning
    refine hsign.of_topics (fun τ _ _ => htopic τ) ?_ ?_ ?_ ?_ <;> rw [hlife]
    · exact hquiet
    · exact fun now index hstage => Or.inr (hsigning now index hstage)
    · exact fun hreturned => absurd (hsign.returned hreturned) hpresent
  -- A wait that belongs to a stop is not followed by a quiet stage.
  have hwait : ∀ {before : QueuedStage TopicId} {starting : Bool} {stage : QueuedStage TopicId},
      (starting = true → before.isQuiet = true) → (starting = false → stage.isQuiet = false) →
      stage.isQuiet = true → before.isQuiet = true := by
    intro before starting stage hstart hquiet hstays
    cases starting with
    | true => exact hstart rfl
    | false =>
        rw [hquiet rfl] at hstays
        cases hstays
  cases a with
  | start m' instantiated =>
      cases hnode
      show SignOffSound w (s.start w m instantiated) m
      unfold start
      split
      · exact hsign
      · rename_i hopen
        simp only [Bool.or_eq_true, not_or, Bool.not_eq_true] at hopen
        -- a new object has published nothing yet
        have habsent := QueuedStage.eq_absent h hopen.1.1
        refine hsign.of_topics (fun _ _ _ => rfl) ?_ ?_ ?_ ?_ <;> rw [modifyLife_self]
        · rw [habsent]
          exact fun _ => rfl
        · exact nofun
        · exact nofun
  | startQueue m' spawned =>
      cases hnode
      refine hmove h (setStage_life _ m _) (fun _ => rfl) nofun (fun _ => rfl) ?_
      split <;> exact nofun
  | attach m' =>
      cases hnode
      refine hmove h (setStage_life _ m _) (fun _ => rfl) nofun (fun _ => rfl) ?_
      split <;> exact nofun
  | register m' τ rest =>
      cases hnode
      obtain ⟨stage, registered, hlife, hsigning⟩ := register_life w s m τ rest
      refine hmove h.1 hlife (fun _ => next_topic nofun) nofun (fun _ => rfl) ?_
      exact fun now index heq => absurd heq (hsigning now index)
  | publishObject m' =>
      cases hnode
      exact hmove h (setStage_life _ m _) (fun _ => rfl) nofun (fun _ => rfl) nofun
  | scheduleOnInterval m' now =>
      cases hnode
      exact hmove h (setStage_life _ m _) (fun _ => rfl) nofun nofun nofun
  | scheduleNow m' now =>
      cases hnode
      exact hmove h (setStage_life _ m _) (fun _ => rfl) nofun nofun nofun
  | stop m' =>
      cases hnode
      show SignOffSound w (s.stop w m) m
      unfold stop
      split
      · exact hsign
      · rename_i hfree
        split
        · rename_i hrunning
          refine hmove rfl (setStage_life _ m _) (fun _ => rfl) ?_ nofun nofun
          intro habsent
          rw [habsent] at hrunning
          cases hrunning
        · rename_i hidle
          have habsent := QueuedStage.eq_absent h (Bool.eq_false_iff.mpr hidle)
          refine hsign.of_topics (fun _ _ _ => rfl) ?_ ?_ ?_ ?_ <;> rw [modifyLife_self]
          · exact id
          · exact fun now index hstage => Or.inl hstage
          · exact fun _ => habsent
  | unregister m' starting τ rest =>
      cases hnode
      obtain ⟨registered, hlife⟩ := unregister_life s m starting τ rest
      refine hmove h.1 hlife (fun _ => next_topic nofun) nofun ?_ nofun
      cases starting with
      | true => exact id
      | false => exact id
  | detach m' starting now now' =>
      cases hnode
      have hstage : (s.life m).stage = .unregistering starting [] := h
      -- the item of a running object is attached, so `Detach` disables it and waits
      have hattached : ((s.queue (w.queue m)).item (s.object m)).attached = true := by
        have hlinked := (hs.lives m).linked_self (s.life m).serial
        rw [hstage] at hlinked
        exact ((hs.queues (w.queue m)).flags _).attached.mp (hlinked.mpr ⟨rfl, rfl⟩)
      obtain ⟨stage, hlife, hquiet, hsigning⟩ := test_life w
        (s.modifyQueue (w.queue m) (·.disable (s.object m))) m starting (now + 5000 * 1000) now'
      have heq : s.next w (.detach m starting now now') =
          (s.modifyQueue (w.queue m) (·.disable (s.object m))).test w m starting
            (now + 5000 * 1000) now' := if_pos hattached
      rw [← heq] at hlife
      refine hmove hstage hlife (fun _ => next_topic nofun) nofun (hwait ?_ hquiet) ?_
      · rintro rfl
        rfl
      · exact fun now index heq => absurd heq (hsigning now index)
  | test m' starting deadline now =>
      cases hnode
      obtain ⟨stage, hlife, hquiet, hsigning⟩ := test_life w s m starting deadline now
      refine hmove h hlife (fun _ => next_topic nofun) nofun (hwait ?_ hquiet) ?_
      · rintro rfl
        rfl
      · exact fun now index heq => absurd heq (hsigning now index)
  | halt m' now =>
      cases hnode
      refine hmove h (setStage_life _ m _) (fun _ => rfl) nofun nofun ?_
      rintro now' index heq
      cases heq
      rfl
  | signOff m' now index =>
      cases hnode
      exact hsign.signOff h.1
  | delete m' now index =>
      cases hnode
      exact hsign.delete h.1 h.2.1
  | _ => cases hnode

theorem reachable_runs {w : Wiring Node QueueId Message} {s : Runtime Node QueueId Thread Message}
    (h : (system Thread w).Reachable s) : RunsSound w s := by
  refine h.invariant (RunsSound w) ?_ ?_
  · rintro _ rfl q o hrun
    cases hrun
  · rintro s a _ _ hs ⟨henabled, rfl⟩
    exact next_runsSound hs henabled

/-- In every state of every run the topics of a quiet module hold the messages of its last stop. -/
theorem reachable_signOff {w : Wiring Node QueueId Message}
    {s : Runtime Node QueueId Thread Message} (h : (system Thread w).Reachable s) (m : Node) :
    SignOffSound w s m := by
  refine h.invariant (SignOffSound w · m) ?_ ?_
  · rintro _ rfl
    exact ⟨fun _ _ _ => rfl, nofun, nofun⟩
  · rintro s a _ hreachable hsign ⟨henabled, rfl⟩
    have hs := reachable_sound hreachable
    by_cases hnode : a.node = some m
    · exact signOff_own hs henabled hnode hsign
    · have hkeeps := next_keeps w s a hnode
      refine hsign.of_topics ?_ hkeeps.stopped ?_ ?_ ?_
      · intro τ hstage hτ
        exact topic_kept hs (reachable_runs hreachable) henabled hnode hstage hτ
      · rw [hkeeps.stage]
        exact id
      · rw [hkeeps.stage]
        exact fun now index hstage => Or.inl hstage
      · rw [hkeeps.stage, hkeeps.stopReturned]
        exact hsign.returned

end Runtime

end DualMagneticWheel
