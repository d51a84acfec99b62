/-
# DualMagneticWheel.Runtime.StepFrames — what the steps leave alone

Three parties work on the state of a module: publishers request its item, the worker of its queue runs
it, and a shell starts or stops it. `Keeps` collects what only the shell of the module itself changes, its
stage, its flags and the references to its objects, and `next_keeps` says so for every step. The queues
stay sound under all steps.
-/
import DualMagneticWheel.Runtime.QueuedModules

namespace DualMagneticWheel

open Foundation

variable {Node QueueId Thread TopicId : Type} {Message : TopicId → Type}
variable [DecidableEq Node] [DecidableEq QueueId] [DecidableEq Thread] [DecidableEq TopicId]

/-! ## What a queue keeps of the items of a module -/

/-- The links and flags of the items of a module are kept, but an enabled item may begin to run. -/
structure QueueKeeps (m : Node) (q q' : WorkQueue (ModuleObject Node)) : Prop where
  items : ∀ n, ⟨m, n⟩ ∈ q'.items ↔ ⟨m, n⟩ ∈ q.items
  enabled : ∀ n, (q'.item ⟨m, n⟩).enabled = (q.item ⟨m, n⟩).enabled
  stopping : ∀ n, (q'.item ⟨m, n⟩).stopping = (q.item ⟨m, n⟩).stopping
  running : ∀ n, (q'.item ⟨m, n⟩).running = true →
    (q.item ⟨m, n⟩).running = true ∨ (q.item ⟨m, n⟩).enabled = true

namespace QueueKeeps

variable {m : Node} {q q' q'' : WorkQueue (ModuleObject Node)}

omit [DecidableEq Node] in
theorem refl (m : Node) (q : WorkQueue (ModuleObject Node)) : QueueKeeps m q q :=
  ⟨fun _ => Iff.rfl, fun _ => rfl, fun _ => rfl, fun _ => Or.inl⟩

omit [DecidableEq Node] in
theorem trans (h : QueueKeeps m q q') (h' : QueueKeeps m q' q'') : QueueKeeps m q q'' where
  items n := (h'.items n).trans (h.items n)
  enabled n := (h'.enabled n).trans (h.enabled n)
  stopping n := (h'.stopping n).trans (h.stopping n)
  running n hrun := by
    rcases h'.running n hrun with hrun | henabled
    · exact h.running n hrun
    · exact Or.inr ((h.enabled n).symm.trans henabled)

/-- A change of one item, with the list left as it is for the items of the module. -/
theorem of_modify {o : ModuleObject Node} {f : WorkItem → WorkItem}
    (hitem : q'.item = (q.modify o f).item)
    (hitems : ∀ n, ⟨m, n⟩ ∈ q'.items ↔ ⟨m, n⟩ ∈ q.items)
    (hchange : o.node = m → (f (q.item o)).enabled = (q.item o).enabled ∧
      (f (q.item o)).stopping = (q.item o).stopping ∧
      ((f (q.item o)).running = true →
        (q.item o).running = true ∨ (q.item o).enabled = true)) : QueueKeeps m q q' := by
  have hself : ∀ n, (⟨m, n⟩ : ModuleObject Node) = o → o.node = m := by
    rintro n rfl
    rfl
  refine ⟨hitems, fun n => ?_, fun n => ?_, fun n => ?_⟩ <;> rw [hitem] <;>
    by_cases heq : (⟨m, n⟩ : ModuleObject Node) = o
  · rw [heq, WorkQueue.modify_self]
    exact (hchange (hself n heq)).1
  · rw [WorkQueue.modify_of_ne heq]
  · rw [heq, WorkQueue.modify_self]
    exact (hchange (hself n heq)).2.1
  · rw [WorkQueue.modify_of_ne heq]
  · rw [heq, WorkQueue.modify_self]
    exact (hchange (hself n heq)).2.2
  · rw [WorkQueue.modify_of_ne heq]
    exact Or.inl

/-- A change of the item of another module. -/
theorem of_other {o : ModuleObject Node} (hne : o.node ≠ m) {f : WorkItem → WorkItem}
    (hitem : q'.item = (q.modify o f).item)
    (hitems : ∀ n, ⟨m, n⟩ ∈ q'.items ↔ ⟨m, n⟩ ∈ q.items) : QueueKeeps m q q' :=
  of_modify hitem hitems fun heq => absurd heq hne

theorem schedule (m : Node) (q : WorkQueue (ModuleObject Node)) (o : ModuleObject Node)
    (now delayUs : UInt64) : QueueKeeps m q (q.schedule o now delayUs) := by
  unfold WorkQueue.schedule
  split
  · obtain ⟨pending, deadline, hframe⟩ := (q.item o).schedule_frame now delayUs
    refine of_modify (WorkQueue.broadcast_item _) (fun n => by rw [WorkQueue.broadcast_items]; rfl) ?_
    intro _
    rw [hframe]
    exact ⟨rfl, rfl, Or.inl⟩
  · exact refl m q

theorem scan (m : Node) (q : WorkQueue (ModuleObject Node)) (now : UInt64) :
    QueueKeeps m q (q.scan now) := by
  unfold WorkQueue.scan
  split
  · rename_i o hsel
    refine of_modify (o := o) rfl (fun _ => Iff.rfl) ?_
    intro _
    exact ⟨rfl, rfl, fun _ => Or.inr (WorkQueue.selected_spec hsel).2⟩
  · exact ⟨fun _ => Iff.rfl, fun _ => rfl, fun _ => rfl, fun _ => Or.inl⟩

omit [DecidableEq Node] in
theorem wake (m : Node) (q : WorkQueue (ModuleObject Node)) : QueueKeeps m q q.wake :=
  ⟨fun _ => Iff.rfl, fun _ => rfl, fun _ => rfl, fun _ => Or.inl⟩

omit [DecidableEq Node] in
theorem start (m : Node) (q : WorkQueue (ModuleObject Node)) (spawned : Bool) :
    QueueKeeps m q (q.start spawned).2 := by
  unfold WorkQueue.start
  split
  · exact refl m q
  · exact ⟨fun _ => Iff.rfl, fun _ => rfl, fun _ => rfl, fun _ => Or.inl⟩

theorem finish (m : Node) (q : WorkQueue (ModuleObject Node)) (o : ModuleObject Node) :
    QueueKeeps m q (q.finish o) :=
  of_modify (o := o) rfl (fun _ => Iff.rfl) fun _ => ⟨rfl, rfl, nofun⟩

theorem attach {o : ModuleObject Node} (hne : o.node ≠ m) (q : WorkQueue (ModuleObject Node))
    (minimumIntervalUs : UInt64) : QueueKeeps m q (q.attach o minimumIntervalUs).2 := by
  unfold WorkQueue.attach
  split
  · exact refl m q
  · refine of_other hne rfl ?_
    intro n
    rw [List.mem_append, List.mem_singleton]
    refine or_iff_left ?_
    rintro rfl
    exact hne rfl

theorem setInterval {o : ModuleObject Node} (hne : o.node ≠ m) (q : WorkQueue (ModuleObject Node))
    (now intervalUs : UInt64) : QueueKeeps m q (q.setInterval o now intervalUs) := by
  unfold WorkQueue.setInterval
  split
  · exact of_other hne (WorkQueue.broadcast_item _) fun n => by rw [WorkQueue.broadcast_items]; rfl
  · exact refl m q

theorem disable {o : ModuleObject Node} (hne : o.node ≠ m) (q : WorkQueue (ModuleObject Node)) :
    QueueKeeps m q (q.disable o) :=
  of_other hne (WorkQueue.broadcast_item _) fun n => by
    unfold WorkQueue.disable
    rw [WorkQueue.broadcast_items]
    rfl

theorem unlink {o : ModuleObject Node} (hne : o.node ≠ m) (q : WorkQueue (ModuleObject Node)) :
    QueueKeeps m q (q.unlink o) := by
  have hitem : (q.unlink o).item = (q.modify o ({ · with attached := false })).item := rfl
  refine of_other hne hitem ?_
  intro n
  refine List.mem_erase_of_ne ?_
  rintro rfl
  exact hne rfl

end QueueKeeps

/-! ## What a step keeps of a module -/

/-- The module that a command concerns; the steps of publishers and workers concern none. -/
def RuntimeAction.node : RuntimeAction Node QueueId Thread Message → Option Node
  | .start m _ | .startQueue m _ | .attach m | .register m _ _ | .publishObject m
  | .scheduleOnInterval m _ | .scheduleNow m _ | .stop m | .unregister m _ _ _ | .detach m _ _ _
  | .test m _ _ _ | .halt m _ | .signOff m _ _ | .delete m _ _ => some m
  | _ => none

namespace Runtime

/-- The stage of a module, its flags and all references to its objects are kept. -/
structure Keeps (m : Node) (s t : Runtime Node QueueId Thread Message) : Prop where
  stage : (t.life m).stage = (s.life m).stage
  serial : (t.life m).serial = (s.life m).serial
  registered : (t.life m).registered = (s.life m).registered
  stopReturned : (t.life m).stopReturned = (s.life m).stopReturned
  stopped : (t.life m).stopped = (s.life m).stopped
  queue : ∀ q, QueueKeeps m (s.queue q) (t.queue q)
  slots : ∀ τ k n, (t.channel τ).callbacks.At k ⟨m, n⟩ ↔ (s.channel τ).callbacks.At k ⟨m, n⟩

namespace Keeps

variable {m : Node} {s t u : Runtime Node QueueId Thread Message}

omit [DecidableEq Node] [DecidableEq QueueId] [DecidableEq Thread] [DecidableEq TopicId] in
theorem refl (m : Node) (s : Runtime Node QueueId Thread Message) : Keeps m s s :=
  ⟨rfl, rfl, rfl, rfl, rfl, fun q => .refl m (s.queue q), fun _ _ _ => Iff.rfl⟩

omit [DecidableEq Node] [DecidableEq QueueId] [DecidableEq Thread] [DecidableEq TopicId] in
theorem trans (h : Keeps m s t) (h' : Keeps m t u) : Keeps m s u where
  stage := h'.stage.trans h.stage
  serial := h'.serial.trans h.serial
  registered := h'.registered.trans h.registered
  stopReturned := h'.stopReturned.trans h.stopReturned
  stopped := h'.stopped.trans h.stopped
  queue q := (h.queue q).trans (h'.queue q)
  slots τ k n := (h'.slots τ k n).trans (h.slots τ k n)

omit [DecidableEq Node] [DecidableEq QueueId] [DecidableEq Thread] in
theorem modifyChannel {τ : TopicId}
    {f : Channel Node QueueId Thread (Message τ) → Channel Node QueueId Thread (Message τ)}
    (h : ∀ k n, (f (s.channel τ)).callbacks.At k ⟨m, n⟩ ↔ (s.channel τ).callbacks.At k ⟨m, n⟩) :
    Keeps m s (s.modifyChannel τ f) := by
  refine ⟨rfl, rfl, rfl, rfl, rfl, fun q => .refl m (s.queue q), ?_⟩
  intro τ' k n
  by_cases hτ : τ' = τ
  · subst hτ
    rw [modifyChannel_self]
    exact h k n
  · rw [modifyChannel_of_ne s hτ]

omit [DecidableEq TopicId] in
theorem setPublisher (p : Publisher Node QueueId Thread) (stage : PublishStage Node TopicId) :
    Keeps m s (s.setPublisher p stage) :=
  ⟨rfl, rfl, rfl, rfl, rfl, fun q => .refl m (s.queue q), fun _ _ _ => Iff.rfl⟩

omit [DecidableEq Node] [DecidableEq Thread] [DecidableEq TopicId] in
theorem modifyQueue {q : QueueId}
    {f : WorkQueue (ModuleObject Node) → WorkQueue (ModuleObject Node)}
    (h : QueueKeeps m (s.queue q) (f (s.queue q))) : Keeps m s (s.modifyQueue q f) := by
  refine ⟨rfl, rfl, rfl, rfl, rfl, ?_, fun _ _ _ => Iff.rfl⟩
  intro q'
  by_cases hq : q' = q
  · subst hq
    rw [modifyQueue_self]
    exact h
  · rw [modifyQueue_of_ne s hq]
    exact .refl m (s.queue q')

omit [DecidableEq Node] [DecidableEq Thread] [DecidableEq TopicId] in
theorem setRemaining (q : QueueId) (ops : List (RunOp TopicId)) :
    Keeps m s (s.setRemaining q ops) :=
  ⟨rfl, rfl, rfl, rfl, rfl, fun q => .refl m (s.queue q), fun _ _ _ => Iff.rfl⟩

omit [DecidableEq QueueId] [DecidableEq Thread] [DecidableEq TopicId] in
theorem modifyLife {m' : Node} (hne : m ≠ m') (f : QueuedModule Message → QueuedModule Message) :
    Keeps m s (s.modifyLife m' f) := by
  have hlife : (s.modifyLife m' f).life m = s.life m := modifyLife_of_ne s hne f
  exact ⟨by rw [hlife], by rw [hlife], by rw [hlife], by rw [hlife], by rw [hlife],
    fun q => .refl m (s.queue q), fun _ _ _ => Iff.rfl⟩

omit [DecidableEq QueueId] [DecidableEq Thread] [DecidableEq TopicId] in
theorem setStage {m' : Node} (hne : m ≠ m') (stage : QueuedStage TopicId) :
    Keeps m s (s.setStage m' stage) := modifyLife hne _

theorem store (p : Publisher Node QueueId Thread) (τ : TopicId) (message : Message τ) :
    Keeps m s (s.store p τ message) :=
  (modifyChannel fun _ _ => Iff.rfl).trans (setPublisher _ _)

omit [DecidableEq Thread] in
theorem update (q : QueueId) (o : ModuleObject Node) (τ : TopicId) (rest : List (RunOp TopicId)) :
    Keeps m s (s.update q o τ rest) := by
  refine trans (t := s.modifyLife o.node _) ?_ (setRemaining q rest)
  by_cases hm : m = o.node
  · subst hm
    refine ⟨?_, ?_, ?_, ?_, ?_, fun q => .refl _ (s.queue q), fun _ _ _ => Iff.rfl⟩ <;>
      rw [modifyLife_self] <;> rfl
  · exact modifyLife hm _

omit [DecidableEq Thread] [DecidableEq TopicId] in
theorem test (w : Wiring Node QueueId Message) {m' : Node} (hne : m ≠ m') (starting : Bool)
    (deadline now : UInt64) : Keeps m s (s.test w m' starting deadline now) := by
  unfold Runtime.test
  split
  · split
    · exact setStage hne _
    · exact setStage hne _
  · exact (modifyQueue (.unlink hne.symm _)).trans (setStage hne _)

end Keeps

/-- Nothing that the invariant of a module speaks of is changed by the steps of the publishers and the
workers and by the commands for other modules. -/
theorem next_keeps (w : Wiring Node QueueId Message) (s : Runtime Node QueueId Thread Message)
    {m : Node} (a : RuntimeAction Node QueueId Thread Message) (hne : a.node ≠ some m) :
    Keeps m s (s.next w a) := by
  have hother : ∀ {m' : Node}, some m' ≠ some m → m ≠ m' := by
    rintro m' h rfl
    exact h rfl
  cases a with
  | publish thread τ message => exact .store _ τ message
  | lockCallbacks p τ => exact (Keeps.modifyChannel fun _ _ => Iff.rfl).trans (.setPublisher _ _)
  | visit p τ slot => exact .setPublisher _ _
  | call p τ slot o now =>
      exact (Keeps.modifyQueue (.schedule m _ o now 0)).trans (.setPublisher _ _)
  | unlockCallbacks p τ slot =>
      exact (Keeps.modifyChannel fun _ _ => Iff.rfl).trans (.setPublisher _ _)
  | initQueue q spawned =>
      exact Keeps.modifyQueue (f := fun queue => (queue.start spawned).2) (.start m _ spawned)
  | scan q now =>
      show Keeps m s (s.scan w q now)
      unfold scan
      split
      · exact (Keeps.modifyQueue (.scan m _ now)).trans (.setRemaining _ _)
      · exact .modifyQueue (.scan m _ now)
  | wake q => exact .modifyQueue (.wake m _)
  | update q o τ rest => exact .update q o τ rest
  | runPublish q o τ rest message => exact (Keeps.store _ τ message).trans (.setRemaining _ _)
  | skip q o τ rest => exact .setRemaining _ _
  | finish q o => exact .modifyQueue (.finish m _ o)
  | start m' instantiated =>
      show Keeps m s (s.start w m' instantiated)
      unfold start
      split
      · exact .refl m s
      · exact .modifyLife (hother hne) _
  | startQueue m' spawned =>
      show Keeps m s (s.startQueue w m' spawned)
      exact (Keeps.modifyQueue (f := fun queue => (queue.start spawned).2)
        (.start m _ spawned)).trans (.setStage (hother hne) _)
  | attach m' =>
      show Keeps m s (s.attach w m')
      exact (Keeps.modifyQueue (f := fun queue => (queue.attach (s.object m') (w.periodUs m')).2)
        (.attach (o := s.object m') (hother hne).symm _ _)).trans (.setStage (hother hne) _)
  | register m' τ rest =>
      show Keeps m s (s.register w m' τ rest)
      unfold register
      refine Keeps.trans (.modifyChannel fun k n => ?_) (.modifyLife (hother hne) _)
      dsimp only
      unfold registerCallback
      split
      · exact Iff.rfl
      · refine ⟨fun h => ?_, fun h => h.register⟩
        -- only the slot of the module that registers is new
        rcases CallbackTable.at_register h with h | ⟨heq, -⟩
        · exact h
        · exact absurd (congrArg ModuleObject.node heq) (hother hne)
  | publishObject m' => exact .setStage (hother hne) _
  | scheduleOnInterval m' now =>
      show Keeps m s (s.scheduleOnInterval w m' now)
      exact (Keeps.modifyQueue (.setInterval (o := s.object m') (hother hne).symm _ _ _)).trans
        (.setStage (hother hne) _)
  | scheduleNow m' now =>
      show Keeps m s (s.scheduleNow w m' now)
      exact (Keeps.modifyQueue (.schedule m _ _ now 0)).trans (.setStage (hother hne) _)
  | stop m' =>
      show Keeps m s (s.stop w m')
      unfold stop
      split
      · exact .refl m s
      · split
        · exact .setStage (hother hne) _
        · exact .modifyLife (hother hne) _
  | unregister m' starting τ rest =>
      show Keeps m s (s.unregister m' starting τ rest)
      unfold unregister
      refine Keeps.trans (.modifyChannel fun k n => ?_) (.modifyLife (hother hne) _)
      split
      · -- only slots of the module that unregisters are freed
        refine CallbackTable.at_unregister.trans (and_iff_left ?_)
        intro heq
        exact hother hne (congrArg ModuleObject.node heq)
      · exact Iff.rfl
  | detach m' starting now now' =>
      show Keeps m s (s.detach w m' starting now now')
      unfold detach
      split
      · exact (Keeps.modifyQueue (.disable (o := s.object m') (hother hne).symm _)).trans
          (.test w (hother hne) _ _ _)
      · exact .setStage (hother hne) _
  | test m' starting deadline now => exact .test w (hother hne) _ _ _
  | halt m' now => exact .setStage (hother hne) _
  | signOff m' now index =>
      show Keeps m s (s.signOff w m' now index)
      unfold signOff
      split
      · exact (Keeps.store _ _ _).trans (.setStage (hother hne) _)
      · exact .refl m s
  | delete m' now index =>
      show Keeps m s (s.delete m')
      unfold delete
      exact .modifyLife (hother hne) _

/-! ## The queues stay sound -/

omit [DecidableEq Node] [DecidableEq Thread] [DecidableEq TopicId] in
theorem modifyQueue_sound {s : Runtime Node QueueId Thread Message} (hs : ∀ q, (s.queue q).Sound)
    {q : QueueId} {f : WorkQueue (ModuleObject Node) → WorkQueue (ModuleObject Node)}
    (h : (f (s.queue q)).Sound) (q' : QueueId) : ((s.modifyQueue q f).queue q').Sound := by
  by_cases hq : q' = q
  · rw [hq, modifyQueue_self]
    exact h
  · rw [modifyQueue_of_ne s hq]
    exact hs q'

omit [DecidableEq Node] in
theorem queueStart_sound {q : WorkQueue (ModuleObject Node)} (h : q.Sound) (spawned : Bool) :
    (q.start spawned).2.Sound := by
  unfold WorkQueue.start
  split
  · exact h
  · exact ⟨h.nodup, h.flags⟩

omit [DecidableEq Thread] [DecidableEq TopicId] in
theorem test_queueSound (w : Wiring Node QueueId Message) {s : Runtime Node QueueId Thread Message}
    (hs : ∀ q, (s.queue q).Sound) (m : Node) (starting : Bool) (deadline now : UInt64) :
    ∀ q, ((s.test w m starting deadline now).queue q).Sound := by
  unfold test
  split
  · split
    · exact hs
    · exact hs
  · rename_i hidle
    exact modifyQueue_sound hs (WorkQueue.unlink_sound (hs _) (Bool.eq_false_iff.mpr hidle))

theorem next_queueSound {w : Wiring Node QueueId Message} {s : Runtime Node QueueId Thread Message}
    {a : RuntimeAction Node QueueId Thread Message} (hs : ∀ q, (s.queue q).Sound)
    (h : s.Enabled w a) : ∀ q, ((s.next w a).queue q).Sound := by
  cases a with
  | publish thread τ message => exact hs
  | lockCallbacks p τ => exact hs
  | visit p τ slot => exact hs
  | call p τ slot o now => exact modifyQueue_sound hs (WorkQueue.schedule_sound (hs _) o now 0)
  | unlockCallbacks p τ slot => exact hs
  | initQueue q spawned =>
      exact modifyQueue_sound (f := fun queue => (queue.start spawned).2) hs
        (queueStart_sound (hs q) spawned)
  | scan q now =>
      have hscan := modifyQueue_sound hs (WorkQueue.scan_sound (hs q) h.2.2 now)
      show ∀ q', ((s.scan w q now).queue q').Sound
      unfold scan
      split
      · exact hscan
      · exact hscan
  | wake q =>
      refine modifyQueue_sound hs (WorkQueue.wake_sound (hs q) ?_)
      intro o hrun
      have hblocked : (s.queue q).worker.blocked = true := h
      rw [hrun] at hblocked
      cases hblocked
  | update q o τ rest => exact hs
  | runPublish q o τ rest message => exact hs
  | skip q o τ rest => exact hs
  | finish q o => exact modifyQueue_sound hs (WorkQueue.finish_sound (hs q) h.1)
  | start m instantiated =>
      show ∀ q, ((s.start w m instantiated).queue q).Sound
      unfold start
      split
      · exact hs
      · exact hs
  | startQueue m spawned =>
      exact modifyQueue_sound (f := fun queue => (queue.start spawned).2) hs
        (queueStart_sound (hs _) spawned)
  | attach m =>
      exact modifyQueue_sound (f := fun queue => (queue.attach (s.object m) (w.periodUs m)).2) hs
        (WorkQueue.attach_sound (hs _) _ _)
  | register m τ rest => exact hs
  | publishObject m => exact hs
  | scheduleOnInterval m now => exact modifyQueue_sound hs (WorkQueue.setInterval_sound (hs _) _ _ _)
  | scheduleNow m now => exact modifyQueue_sound hs (WorkQueue.schedule_sound (hs _) _ now 0)
  | stop m =>
      show ∀ q, ((s.stop w m).queue q).Sound
      unfold stop
      split
      · exact hs
      · split
        · exact hs
        · exact hs
  | unregister m starting τ rest => exact hs
  | detach m starting now now' =>
      show ∀ q, ((s.detach w m starting now now').queue q).Sound
      unfold detach
      split
      · exact test_queueSound w (modifyQueue_sound hs (WorkQueue.disable_sound (hs _) _)) m _ _ _
      · exact hs
  | test m starting deadline now => exact test_queueSound w hs m starting deadline now
  | halt m now => exact hs
  | signOff m now index =>
      show ∀ q, ((s.signOff w m now index).queue q).Sound
      unfold signOff
      split
      · exact hs
      · exact hs
  | delete m now index => exact hs

end Runtime

/-! ## What a step does to one topic -/

/-- The message that a step stores. -/
def RuntimeAction.stored (w : Wiring Node QueueId Message) :
    RuntimeAction Node QueueId Thread Message → Option (Sigma Message)
  | .publish _ τ message | .runPublish _ _ τ _ message => some ⟨τ, message⟩
  | .signOff m now index => (w.onWorkQueueStopped m now)[index]?
  | _ => none

/-- A step leaves a topic as it is, stores a message on it, takes or releases the lock of the slots, or
registers or unregisters one callback. -/
inductive ChannelMove {Data : Type} (stores : Data → Prop) (c : Channel Node QueueId Thread Data) :
    Channel Node QueueId Thread Data → Prop
  | kept : ChannelMove stores c c
  | stored (message : Data) (h : stores message) : ChannelMove stores c
      { c with topic := c.topic.publish message, published := c.published + 1 }
  | locked (lock : Option (Publisher Node QueueId Thread)) : ChannelMove stores c { c with lock }
  | registered (o : ModuleObject Node) :
      ChannelMove stores c { c with callbacks := (c.callbacks.register o).2 }
  | unregistered (o : ModuleObject Node) :
      ChannelMove stores c { c with callbacks := c.callbacks.unregister o }

namespace ChannelMove

variable {Data : Type} {stores : Data → Prop} {c c' : Channel Node QueueId Thread Data}

omit [DecidableEq QueueId] [DecidableEq Thread] in
theorem topic_eq (h : ChannelMove stores c c') (hnone : ∀ message, ¬ stores message) :
    c'.topic = c.topic := by
  cases h with
  | stored message hmessage => exact absurd hmessage (hnone message)
  | kept | locked | registered | unregistered => rfl

omit [DecidableEq QueueId] [DecidableEq Thread] in
theorem once (h : ChannelMove stores c c') (honce : c.callbacks.Once) : c'.callbacks.Once := by
  cases h with
  | registered o => exact honce.register o
  | unregistered o => exact honce.unregister o
  | kept | stored | locked => exact honce

end ChannelMove

namespace Runtime

omit [DecidableEq QueueId] [DecidableEq Thread] in
/-- Writing one topic leaves the others as they are. -/
theorem channelMove_modifyChannel (stores : (τ : TopicId) → Message τ → Prop)
    (s : Runtime Node QueueId Thread Message) {τ' : TopicId}
    {f : Channel Node QueueId Thread (Message τ') → Channel Node QueueId Thread (Message τ')}
    (h : ChannelMove (stores τ') (s.channel τ') (f (s.channel τ'))) (τ : TopicId) :
    ChannelMove (stores τ) (s.channel τ) ((s.modifyChannel τ' f).channel τ) := by
  by_cases hτ : τ = τ'
  · subst hτ
    rw [modifyChannel_self]
    exact h
  · rw [modifyChannel_of_ne s hτ]
    exact .kept

omit [DecidableEq Thread] [DecidableEq TopicId] in
theorem test_channel (w : Wiring Node QueueId Message) (s : Runtime Node QueueId Thread Message)
    (m : Node) (starting : Bool) (deadline now : UInt64) :
    (s.test w m starting deadline now).channel = s.channel := by
  unfold test
  split
  · split
    · rfl
    · rfl
  · rfl

theorem next_channel (w : Wiring Node QueueId Message) (s : Runtime Node QueueId Thread Message)
    (a : RuntimeAction Node QueueId Thread Message) (τ : TopicId) :
    ChannelMove (fun message => a.stored w = some ⟨τ, message⟩) (s.channel τ)
      ((s.next w a).channel τ) := by
  have hmodify : ∀ τ' (f : Channel Node QueueId Thread (Message τ') → _),
      ChannelMove (fun message => a.stored w = some ⟨τ', message⟩) (s.channel τ') (f (s.channel τ')) →
      ChannelMove (fun message => a.stored w = some ⟨τ, message⟩) (s.channel τ)
        ((s.modifyChannel τ' f).channel τ) := by
    intro τ' f h
    exact channelMove_modifyChannel (fun τ message => a.stored w = some ⟨τ, message⟩) s h τ
  have hstore : ∀ p τ' (message : Message τ'), a.stored w = some ⟨τ', message⟩ →
      ChannelMove (fun message => a.stored w = some ⟨τ, message⟩) (s.channel τ)
        ((s.store p τ' message).channel τ) := by
    intro p τ' message hmessage
    exact hmodify τ' (fun c =>
      { c with topic := c.topic.publish message, published := c.published + 1 })
      (.stored message hmessage)
  cases a with
  | publish thread τ' message => exact hstore (.thread thread) τ' message rfl
  | lockCallbacks p τ' => exact hmodify τ' ({ · with lock := some p }) (.locked _)
  | unlockCallbacks p τ' slot => exact hmodify τ' ({ · with lock := none }) (.locked _)
  | runPublish q o τ' rest message => exact hstore (.worker q) τ' message rfl
  | scan q now =>
      show ChannelMove _ _ ((s.scan w q now).channel τ)
      unfold scan
      split
      · exact .kept
      · exact .kept
  | start m instantiated =>
      show ChannelMove _ _ ((s.start w m instantiated).channel τ)
      unfold start
      split
      · exact .kept
      · exact .kept
  | register m τ' rest =>
      refine hmodify τ' ({ · with
        callbacks := (registerCallback (s.object m) ((s.life m).registered τ')
          (s.channel τ').callbacks).2 }) ?_
      unfold registerCallback
      split
      · exact .kept
      · exact .registered (s.object m)
  | unregister m starting τ' rest =>
      refine hmodify τ' (fun c =>
        if (s.life m).registered τ' then
          { c with callbacks := c.callbacks.unregister (s.object m) }
        else c) ?_
      split
      · exact .unregistered (s.object m)
      · exact .kept
  | stop m =>
      show ChannelMove _ _ ((s.stop w m).channel τ)
      unfold stop
      split
      · exact .kept
      · split
        · exact .kept
        · exact .kept
  | detach m starting now now' =>
      show ChannelMove _ _ ((s.detach w m starting now now').channel τ)
      unfold detach
      split
      · rw [test_channel]
        exact .kept
      · exact .kept
  | test m starting deadline now =>
      show ChannelMove _ _ ((s.test w m starting deadline now).channel τ)
      rw [test_channel]
      exact .kept
  | signOff m now index =>
      show ChannelMove _ _ ((s.signOff w m now index).channel τ)
      unfold signOff
      split
      · rename_i τ' message hmessage
        exact hstore (.shell m) τ' message hmessage
      · exact .kept
  | visit _ _ _ | call _ _ _ _ _ | initQueue _ _ | wake _ | update _ _ _ _ | skip _ _ _ _
  | finish _ _ | startQueue _ _ | attach _ | publishObject _ | scheduleOnInterval _ _
  | scheduleNow _ _ | halt _ _ | delete _ _ _ => exact .kept

end Runtime

end DualMagneticWheel
