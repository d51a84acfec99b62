/-
# DualMagneticWheel.Runtime.ObjectLifetime — who refers to the object of a module, and when

An object is referred to from the callback slots of its topics, from the list of its queue and by the
worker that runs it. `LifeSound` says for every stage of a module which of these references there are;
in particular there are none once the object is gone. `StepFrames` leaves the commands of the module
itself to be looked at, one lemma each.
-/
import DualMagneticWheel.Runtime.CallbackLock

namespace DualMagneticWheel

open Foundation

variable {Node QueueId Thread TopicId : Type} {Message : TopicId → Type}
variable [DecidableEq Node] [DecidableEq QueueId] [DecidableEq Thread] [DecidableEq TopicId]

/-! ## What the stage of a module says -/

namespace QueuedStage

/-- The item of the object is in the list of its queue. -/
def isLinked : QueuedStage TopicId → Bool
  | .absent | .constructed | .queueStarted | .silent | .signingOff _ _ => false
  | _ => true

/-- The item is in the list and was never activated. -/
def isDormant : QueuedStage TopicId → Bool
  | .registering _ | .published | .unregistering true _ | .waiting true _ => true
  | _ => false

/-- The item may still be activated. -/
def isFresh : QueuedStage TopicId → Bool
  | .registering _ | .published => true
  | _ => false

/-- The item is activated and no teardown has begun. -/
def isActive : QueuedStage TopicId → Bool
  | .activated | .running => true
  | _ => false

/-- Which callbacks are registered: those done so far, all, those not yet undone, or none. -/
def Registers (callbacks : List TopicId) (registered : TopicId → Bool) : QueuedStage TopicId → Prop
  | .registering rest => ∃ done, callbacks = done ++ rest ∧ ∀ τ, registered τ = true ↔ τ ∈ done
  | .published | .activated | .running => ∀ τ, registered τ = true ↔ τ ∈ callbacks
  | .unregistering _ rest => ∀ τ, registered τ = true → τ ∈ rest
  | _ => ∀ τ, registered τ = false

omit [DecidableEq TopicId] in
theorem eq_absent {stage : QueuedStage TopicId} (hstarting : stage.isStarting = false)
    (hrunning : stage.isRunning = false) : stage = .absent := by
  cases stage with
  | absent => rfl
  | constructed | queueStarted | registering _ | published | activated => cases hstarting
  | running | silent | signingOff _ _ | retained => cases hrunning
  | unregistering starting rest =>
      cases starting with
      | true => cases hstarting
      | false => cases hrunning
  | waiting starting deadline =>
      cases starting with
      | true => cases hstarting
      | false => cases hrunning

omit [DecidableEq TopicId] in
theorem running_or_retained {stage : QueuedStage TopicId} (hstarting : stage.isStarting = false)
    (hstop : stage.stopInProgress = false) (hrunning : stage.isRunning = true) :
    stage = .running ∨ stage = .retained := by
  cases stage with
  | running => exact Or.inl rfl
  | retained => exact Or.inr rfl
  | constructed | queueStarted | registering _ | published | activated => cases hstarting
  | absent => cases hrunning
  | silent | signingOff _ _ => cases hstop
  | unregistering starting rest =>
      cases starting with
      | true => cases hstarting
      | false => cases hstop
  | waiting starting deadline =>
      cases starting with
      | true => cases hstarting
      | false => cases hstop

end QueuedStage

namespace Runtime

/-- The item of the current object of a module. -/
def item (w : Wiring Node QueueId Message) (s : Runtime Node QueueId Thread Message) (m : Node) :
    WorkItem := (s.queue (w.queue m)).item (s.object m)

/-- The references to the objects of a module: the callbacks that it has registered and the item in the
list of its queue, of the current object only. -/
structure LifeSound (w : Wiring Node QueueId Message) (s : Runtime Node QueueId Thread Message)
    (m : Node) : Prop where
  registers : (s.life m).stage.Registers (w.callbacks m) (s.life m).registered
  slots : ∀ τ n, (∃ k, (s.channel τ).callbacks.At k ⟨m, n⟩) ↔
    n = (s.life m).serial ∧ (s.life m).registered τ = true
  linked : ∀ q n, ⟨m, n⟩ ∈ (s.queue q).items ↔
    (s.life m).stage.isLinked = true ∧ q = w.queue m ∧ n = (s.life m).serial
  dormant : (s.life m).stage.isDormant = true →
    (s.item w m).enabled = false ∧ (s.item w m).running = false
  fresh : (s.life m).stage.isFresh = true → (s.item w m).stopping = false
  active : (s.life m).stage.isActive = true → (s.item w m).enabled = true

namespace LifeSound

variable {w : Wiring Node QueueId Message} {s t : Runtime Node QueueId Thread Message} {m : Node}

omit [DecidableEq Node] [DecidableEq QueueId] [DecidableEq Thread] [DecidableEq TopicId] in
theorem of_keeps (h : LifeSound w s m) (hkeeps : Keeps m s t) : LifeSound w t m := by
  have hitem : ∀ n, (s.life m).serial = n → (t.object m) = ⟨m, n⟩ := by
    rintro n rfl
    show (⟨m, (t.life m).serial⟩ : ModuleObject Node) = _
    rw [hkeeps.serial]
  have hqueue := hkeeps.queue (w.queue m)
  refine ⟨?_, ?_, ?_, ?_, ?_, ?_⟩
  · rw [hkeeps.stage, hkeeps.registered]
    exact h.registers
  · intro τ n
    rw [hkeeps.serial, hkeeps.registered, ← h.slots τ n]
    exact exists_congr fun k => hkeeps.slots τ k n
  · intro q n
    rw [hkeeps.stage, hkeeps.serial, ← h.linked q n]
    exact (hkeeps.queue q).items n
  · intro hdormant
    rw [hkeeps.stage] at hdormant
    obtain ⟨henabled, hrunning⟩ := h.dormant hdormant
    unfold item
    rw [hitem _ rfl]
    refine ⟨(hqueue.enabled _).trans henabled, ?_⟩
    refine Bool.eq_false_iff.mpr fun hrun => ?_
    rcases hqueue.running _ hrun with hold | hold
    · exact Bool.false_ne_true (hrunning.symm.trans hold)
    · exact Bool.false_ne_true (henabled.symm.trans hold)
  · intro hfresh
    rw [hkeeps.stage] at hfresh
    unfold item
    rw [hitem _ rfl]
    exact (hqueue.stopping _).trans (h.fresh hfresh)
  · intro hactive
    rw [hkeeps.stage] at hactive
    unfold item
    rw [hitem _ rfl]
    exact (hqueue.enabled _).trans (h.active hactive)

omit [DecidableEq Node] [DecidableEq QueueId] [DecidableEq Thread] [DecidableEq TopicId] in
/-- A command that keeps the object and the slots and works on the queue of the module. -/
theorem of_queue (h : LifeSound w s m) (hserial : (t.life m).serial = (s.life m).serial)
    (hregistered : (t.life m).registered = (s.life m).registered) (hchannel : t.channel = s.channel)
    (hother : ∀ q, q ≠ w.queue m → t.queue q = s.queue q)
    (hregisters : (t.life m).stage.Registers (w.callbacks m) (s.life m).registered)
    (hlinked : ∀ n, ⟨m, n⟩ ∈ (t.queue (w.queue m)).items ↔
      (t.life m).stage.isLinked = true ∧ n = (s.life m).serial)
    (hdormant : (t.life m).stage.isDormant = true →
      (t.item w m).enabled = false ∧ (t.item w m).running = false)
    (hfresh : (t.life m).stage.isFresh = true → (t.item w m).stopping = false)
    (hactive : (t.life m).stage.isActive = true → (t.item w m).enabled = true) :
    LifeSound w t m := by
  refine ⟨by rwa [hregistered], ?_, ?_, hdormant, hfresh, hactive⟩
  · intro τ n
    rw [hserial, hregistered, hchannel]
    exact h.slots τ n
  · intro q n
    rw [hserial]
    by_cases hq : q = w.queue m
    · subst hq
      rw [hlinked n]
      exact ⟨fun hmem => ⟨hmem.1, rfl, hmem.2⟩, fun hmem => ⟨hmem.1, hmem.2.2⟩⟩
    · rw [hother q hq, h.linked q n]
      exact ⟨fun hmem => absurd hmem.2.1 hq, fun hmem => absurd hmem.2.1 hq⟩

omit [DecidableEq QueueId] [DecidableEq Thread] [DecidableEq TopicId] in
/-- A command that changes the stage and the flags of the module only. -/
theorem modifyLife (h : LifeSound w s m) {f : QueuedModule Message → QueuedModule Message}
    (hserial : (f (s.life m)).serial = (s.life m).serial)
    (hregistered : (f (s.life m)).registered = (s.life m).registered)
    (hregisters : (f (s.life m)).stage.Registers (w.callbacks m) (s.life m).registered)
    (hlinked : (f (s.life m)).stage.isLinked = (s.life m).stage.isLinked)
    (hdormant : (f (s.life m)).stage.isDormant = true → (s.life m).stage.isDormant = true)
    (hfresh : (f (s.life m)).stage.isFresh = true → (s.life m).stage.isFresh = true)
    (hactive : (f (s.life m)).stage.isActive = true → (s.life m).stage.isActive = true) :
    LifeSound w (s.modifyLife m f) m := by
  have hitem : (s.modifyLife m f).item w m = s.item w m := by
    unfold item object
    rw [modifyLife_self, hserial]
    rfl
  refine h.of_queue ?_ ?_ rfl (fun _ _ => rfl) ?_ ?_ ?_ ?_ ?_ <;> rw [modifyLife_self]
  · exact hserial
  · exact hregistered
  · exact hregisters
  · intro n
    rw [hlinked]
    refine (h.linked _ n).trans ⟨fun hmem => ⟨hmem.1, hmem.2.2⟩, fun hmem => ⟨hmem.1, rfl, hmem.2⟩⟩
  · intro hstage
    rw [hitem]
    exact h.dormant (hdormant hstage)
  · intro hstage
    rw [hitem]
    exact h.fresh (hfresh hstage)
  · intro hstage
    rw [hitem]
    exact h.active (hactive hstage)

omit [DecidableEq QueueId] [DecidableEq Thread] [DecidableEq TopicId] in
theorem setStage (h : LifeSound w s m) {stage : QueuedStage TopicId}
    (hregisters : stage.Registers (w.callbacks m) (s.life m).registered)
    (hlinked : stage.isLinked = (s.life m).stage.isLinked)
    (hdormant : stage.isDormant = true → (s.life m).stage.isDormant = true)
    (hfresh : stage.isFresh = true → (s.life m).stage.isFresh = true)
    (hactive : stage.isActive = true → (s.life m).stage.isActive = true) :
    LifeSound w (s.setStage m stage) m :=
  h.modifyLife rfl rfl hregisters hlinked hdormant hfresh hactive

omit [DecidableEq Thread] [DecidableEq TopicId] in
/-- A command that works on the queue of the module and moves to another stage. -/
theorem queueStep (h : LifeSound w s m)
    {f : WorkQueue (ModuleObject Node) → WorkQueue (ModuleObject Node)}
    {stage : QueuedStage TopicId} {queue : WorkQueue (ModuleObject Node)}
    (hqueue : f (s.queue (w.queue m)) = queue)
    (hregisters : stage.Registers (w.callbacks m) (s.life m).registered)
    (hlinked : ∀ n, ⟨m, n⟩ ∈ queue.items ↔ stage.isLinked = true ∧ n = (s.life m).serial)
    (hdormant : stage.isDormant = true →
      (queue.item (s.object m)).enabled = false ∧ (queue.item (s.object m)).running = false)
    (hfresh : stage.isFresh = true → (queue.item (s.object m)).stopping = false)
    (hactive : stage.isActive = true → (queue.item (s.object m)).enabled = true) :
    LifeSound w ((s.modifyQueue (w.queue m) f).setStage m stage) m := by
  have hlife : ((s.modifyQueue (w.queue m) f).setStage m stage).life m = { s.life m with stage } :=
    modifyLife_self ..
  have hself : ((s.modifyQueue (w.queue m) f).setStage m stage).queue (w.queue m) = queue :=
    (modifyQueue_self s _ f).trans hqueue
  have hitem : ((s.modifyQueue (w.queue m) f).setStage m stage).item w m =
      queue.item (s.object m) := by
    unfold item
    rw [hself]
    unfold object
    rw [hlife]
  refine h.of_queue ?_ ?_ rfl (fun q hq => modifyQueue_of_ne s hq f) ?_ ?_ ?_ ?_ ?_ <;> rw [hlife]
  · exact hregisters
  · rw [hself]
    exact hlinked
  · rw [hitem]
    exact hdormant
  · rw [hitem]
    exact hfresh
  · rw [hitem]
    exact hactive

omit [DecidableEq Node] [DecidableEq QueueId] [DecidableEq Thread] [DecidableEq TopicId] in
theorem linked_self (h : LifeSound w s m) (n : Nat) :
    ⟨m, n⟩ ∈ (s.queue (w.queue m)).items ↔
      (s.life m).stage.isLinked = true ∧ n = (s.life m).serial :=
  (h.linked _ n).trans ⟨fun hmem => ⟨hmem.1, hmem.2.2⟩, fun hmem => ⟨hmem.1, rfl, hmem.2⟩⟩

omit [DecidableEq Node] [DecidableEq QueueId] [DecidableEq Thread] [DecidableEq TopicId] in
/-- Without a registered callback no slot refers to the module. -/
theorem not_at (h : LifeSound w s m) {τ : TopicId} (hregistered : (s.life m).registered τ = false)
    (k n : Nat) : ¬ (s.channel τ).callbacks.At k ⟨m, n⟩ := by
  intro hat
  have hreg := ((h.slots τ n).mp ⟨k, hat⟩).2
  rw [hregistered] at hreg
  cases hreg

omit [DecidableEq QueueId] [DecidableEq Thread] in
/-- A command that works on the slots of one topic. -/
theorem slotStep (h : LifeSound w s m) {τ : TopicId}
    {f : Channel Node QueueId Thread (Message τ) → Channel Node QueueId Thread (Message τ)}
    {b : Bool} {stage : QueuedStage TopicId}
    (hregisters : stage.Registers (w.callbacks m) (Function.update (s.life m).registered τ b))
    (hslots : ∀ n, (∃ k, (f (s.channel τ)).callbacks.At k ⟨m, n⟩) ↔
      n = (s.life m).serial ∧ b = true)
    (hlinked : stage.isLinked = (s.life m).stage.isLinked)
    (hdormant : stage.isDormant = true → (s.life m).stage.isDormant = true)
    (hfresh : stage.isFresh = true → (s.life m).stage.isFresh = true)
    (hactive : stage.isActive = true → (s.life m).stage.isActive = true) :
    LifeSound w ((s.modifyChannel τ f).modifyLife m fun life =>
      { life with registered := Function.update life.registered τ b, stage }) m := by
  have hitem : ((s.modifyChannel τ f).modifyLife m fun life =>
      { life with registered := Function.update life.registered τ b, stage }).item w m =
        s.item w m := by
    unfold item object
    rw [modifyLife_self]
    rfl
  refine ⟨?_, ?_, ?_, ?_, ?_, ?_⟩ <;> rw [modifyLife_self]
  · exact hregisters
  · intro τ' n
    show (∃ k, ((s.modifyChannel τ f).channel τ').callbacks.At k ⟨m, n⟩) ↔
      n = (s.life m).serial ∧ Function.update (s.life m).registered τ b τ' = true
    by_cases hτ : τ' = τ
    · subst hτ
      rw [modifyChannel_self, Function.update_self]
      exact hslots n
    · rw [modifyChannel_of_ne s hτ, Function.update_of_ne hτ]
      exact h.slots τ' n
  · intro q n
    show _ ↔ stage.isLinked = true ∧ _
    rw [hlinked]
    exact h.linked q n
  · intro hstage
    rw [hitem]
    exact h.dormant (hdormant hstage)
  · intro hstage
    rw [hitem]
    exact h.fresh (hfresh hstage)
  · intro hstage
    rw [hitem]
    exact h.active (hactive hstage)

/-! ### Start -/

omit [DecidableEq QueueId] [DecidableEq Thread] [DecidableEq TopicId] in
theorem attach_cases (o : ModuleObject Node) (minimumIntervalUs : UInt64)
    (q : WorkQueue (ModuleObject Node)) :
    q.attach o minimumIntervalUs = (false, q) ∨
      q.attach o minimumIntervalUs =
        (true, { q.modify o (·.attach minimumIntervalUs) with items := q.items ++ [o] }) := by
  unfold WorkQueue.attach
  split
  · exact Or.inl rfl
  · exact Or.inr rfl

omit [DecidableEq QueueId] [DecidableEq Thread] [DecidableEq TopicId] in
theorem start (h : LifeSound w s m) (hstarting : (s.life m).stage.isStarting = false)
    (instantiated : Bool) : LifeSound w (s.start w m instantiated) m := by
  unfold Runtime.start
  split
  · exact h
  · rename_i hopen
    simp only [Bool.or_eq_true, not_or, Bool.not_eq_true] at hopen
    have habsent := QueuedStage.eq_absent hstarting hopen.1.1
    have hnone : ∀ τ, (s.life m).registered τ = false := by
      have hregisters := h.registers
      rw [habsent] at hregisters
      exact hregisters
    refine ⟨?_, ?_, ?_, ?_, ?_, ?_⟩ <;> rw [modifyLife_self]
    · exact fun _ => rfl
    · intro τ n
      exact ⟨fun ⟨k, hat⟩ => absurd hat (h.not_at (hnone τ) k n), nofun⟩
    · intro q n
      refine (h.linked q n).trans ?_
      rw [habsent]
      exact ⟨nofun, nofun⟩
    · exact nofun
    · exact nofun
    · exact nofun

omit [DecidableEq Thread] [DecidableEq TopicId] in
theorem startQueue (h : LifeSound w s m) (hstage : (s.life m).stage = .constructed)
    (spawned : Bool) : LifeSound w (s.startQueue w m spawned) m := by
  have hregisters := h.registers
  have hlinked := h.linked_self
  rw [hstage] at hregisters hlinked
  have hkeeps := QueueKeeps.start m (s.queue (w.queue m)) spawned
  unfold Runtime.startQueue
  refine h.queueStep rfl ?_ ?_ ?_ ?_ ?_
  · split <;> exact hregisters
  · intro n
    refine (hkeeps.items n).trans ((hlinked n).trans ?_)
    split <;> exact Iff.rfl
  · split <;> exact nofun
  · split <;> exact nofun
  · split <;> exact nofun

omit [DecidableEq Thread] [DecidableEq TopicId] in
theorem attach (h : LifeSound w s m) (hsound : (s.queue (w.queue m)).Sound)
    (hstage : (s.life m).stage = .queueStarted) : LifeSound w (s.attach w m) m := by
  have hregisters := h.registers
  have hlinked := h.linked_self
  rw [hstage] at hregisters hlinked
  have hidle : ((s.queue (w.queue m)).item (s.object m)).running = false := by
    refine Bool.eq_false_iff.mpr fun hrun => ?_
    have hflags := hsound.flags (s.object m)
    exact absurd ((hlinked _).mp (hflags.attached.mpr (hflags.kept hrun))).1 nofun
  unfold Runtime.attach
  rcases attach_cases (s.object m) (w.periodUs m) (s.queue (w.queue m)) with heq | heq
  · rw [heq]
    exact h.queueStep (congrArg Prod.snd heq) hregisters hlinked nofun nofun nofun
  · rw [heq]
    refine h.queueStep (congrArg Prod.snd heq) ?_ ?_ ?_ ?_ nofun
    · refine ⟨[], rfl, ?_⟩
      intro τ
      rw [hregisters τ]
      exact ⟨nofun, nofun⟩
    · intro n
      rw [List.mem_append, List.mem_singleton, hlinked n]
      refine ⟨?_, ?_⟩
      · rintro (⟨hfalse, -⟩ | hself)
        · cases hfalse
        · exact ⟨rfl, congrArg ModuleObject.serial hself⟩
      · rintro ⟨-, rfl⟩
        exact Or.inr rfl
    · intro _
      dsimp only
      rw [WorkQueue.modify_self]
      exact ⟨rfl, hidle⟩
    · intro _
      dsimp only
      rw [WorkQueue.modify_self]
      rfl

omit [DecidableEq QueueId] [DecidableEq Thread] in
/-- One more callback is registered, or the start fails. -/
theorem register (h : LifeSound w s m) (τ : TopicId) (rest : List TopicId)
    (hstage : (s.life m).stage = .registering (τ :: rest)) :
    LifeSound w (s.register w m τ rest) m := by
  obtain ⟨done, hcallbacks, hdone⟩ : ∃ done, w.callbacks m = done ++ τ :: rest ∧
      ∀ τ', (s.life m).registered τ' = true ↔ τ' ∈ done := by
    have hregisters := h.registers
    rw [hstage] at hregisters
    exact hregisters
  have hnew : τ ∉ done := by
    have hnodup := w.callbacks_nodup m
    rw [hcallbacks] at hnodup
    intro hmem
    exact (List.nodup_append.mp hnodup).2.2 τ hmem τ List.mem_cons_self rfl
  have hfree : (s.life m).registered τ = false :=
    Bool.eq_false_iff.mpr fun hreg => hnew ((hdone τ).mp hreg)
  have hcall : registerCallback (s.object m) ((s.life m).registered τ) (s.channel τ).callbacks =
      (s.channel τ).callbacks.register (s.object m) := by
    rw [hfree]
    rfl
  unfold Runtime.register
  rw [hcall]
  have hslots : ∀ n, (∃ k, ((s.channel τ).callbacks.register (s.object m)).2.At k ⟨m, n⟩) ↔
      n = (s.life m).serial ∧ ((s.channel τ).callbacks.register (s.object m)).1 = true := by
    intro n
    constructor
    · rintro ⟨k, hk⟩
      rcases CallbackTable.at_register hk with hold | ⟨hself, hok⟩
      · exact absurd hold (h.not_at hfree k n)
      · exact ⟨congrArg ModuleObject.serial hself, hok⟩
    · rintro ⟨rfl, hok⟩
      exact CallbackTable.register_at hok
  refine h.slotStep ?_ hslots ?_ ?_ ?_ ?_
  · split
    · rename_i hok
      refine ⟨done ++ [τ], by rw [hcallbacks, List.append_assoc]; rfl, ?_⟩
      intro τ'
      rw [hok, List.mem_append, List.mem_singleton]
      by_cases hτ : τ' = τ
      · rw [hτ, Function.update_self]
        exact ⟨fun _ => Or.inr rfl, fun _ => rfl⟩
      · rw [Function.update_of_ne hτ, hdone τ']
        exact ⟨Or.inl, fun hmem => hmem.resolve_right hτ⟩
    · rename_i hfail
      intro τ' hreg
      by_cases hτ : τ' = τ
      · rw [hτ, Function.update_self] at hreg
        exact absurd hreg hfail
      · rw [Function.update_of_ne hτ, hdone τ'] at hreg
        rw [hcallbacks]
        exact List.mem_append_left _ hreg
  · rw [hstage]
    split <;> rfl
  · rw [hstage]
    exact fun _ => rfl
  · rw [hstage]
    exact fun _ => rfl
  · rw [hstage]
    split <;> exact nofun

omit [DecidableEq QueueId] [DecidableEq Thread] [DecidableEq TopicId] in
theorem publishObject (h : LifeSound w s m) (hstage : (s.life m).stage = .registering []) :
    LifeSound w (s.publishObject m) m := by
  refine h.setStage ?_ ?_ ?_ ?_ nofun
  · have hregisters := h.registers
    rw [hstage] at hregisters
    obtain ⟨done, hcallbacks, hdone⟩ := hregisters
    rw [List.append_nil] at hcallbacks
    rw [hcallbacks]
    exact hdone
  · rw [hstage]
    rfl
  · rw [hstage]
    exact fun _ => rfl
  · rw [hstage]
    exact fun _ => rfl

omit [DecidableEq Thread] [DecidableEq TopicId] in
theorem scheduleOnInterval (h : LifeSound w s m) (hsound : (s.queue (w.queue m)).Sound)
    (hstage : (s.life m).stage = .published) (now : UInt64) :
    LifeSound w (s.scheduleOnInterval w m now) m := by
  have hregisters := h.registers
  have hlinked := h.linked_self
  have hstopping := h.fresh (by rw [hstage]; rfl)
  rw [hstage] at hregisters hlinked
  have hattached : ((s.queue (w.queue m)).item (s.object m)).attached = true :=
    (hsound.flags _).attached.mp ((hlinked _).mpr ⟨rfl, rfl⟩)
  have henabled := WorkItem.setInterval_enabled hattached hstopping now (w.periodUs m)
  unfold Runtime.scheduleOnInterval
  refine h.queueStep rfl hregisters ?_ nofun nofun ?_
  · intro n
    unfold WorkQueue.setInterval
    split
    · rw [WorkQueue.broadcast_items]
      exact hlinked n
    · exact hlinked n
  · intro _
    have hopen : (((s.queue (w.queue m)).item (s.object m)).attached &&
        !((s.queue (w.queue m)).item (s.object m)).stopping) = true := by
      rw [hattached, show ((s.queue (w.queue m)).item (s.object m)).stopping = false from hstopping]
      rfl
    unfold WorkQueue.setInterval
    rw [if_pos hopen, WorkQueue.broadcast_item, WorkQueue.modify_self]
    exact henabled.1

omit [DecidableEq Thread] [DecidableEq TopicId] in
theorem scheduleNow (h : LifeSound w s m) (hstage : (s.life m).stage = .activated) (now : UInt64) :
    LifeSound w (s.scheduleNow w m now) m := by
  have hregisters := h.registers
  have hlinked := h.linked_self
  have henabled := h.active (by rw [hstage]; rfl)
  rw [hstage] at hregisters hlinked
  have hkeeps := QueueKeeps.schedule m (s.queue (w.queue m)) (s.object m) now 0
  unfold Runtime.scheduleNow
  refine h.queueStep rfl hregisters ?_ nofun nofun ?_
  · intro n
    exact (hkeeps.items n).trans (hlinked n)
  · intro _
    exact (hkeeps.enabled _).trans henabled

/-! ### Stop -/

omit [DecidableEq QueueId] [DecidableEq Thread] [DecidableEq TopicId] in
theorem stop (h : LifeSound w s m) (hstarting : (s.life m).stage.isStarting = false) :
    LifeSound w (s.stop w m) m := by
  unfold Runtime.stop
  split
  · exact h
  · rename_i hfree
    split
    · rename_i hrunning
      have hregisters := h.registers
      rcases QueuedStage.running_or_retained hstarting (Bool.eq_false_iff.mpr hfree) hrunning with
        hstage | hstage
      · rw [hstage] at hregisters
        exact h.setStage (fun τ hreg => (hregisters τ).mp hreg) (by rw [hstage]; rfl) nofun nofun nofun
      · rw [hstage] at hregisters
        refine h.setStage ?_ (by rw [hstage]; rfl) nofun nofun nofun
        intro τ hreg
        rw [hregisters τ] at hreg
        cases hreg
    · exact h.modifyLife rfl rfl h.registers rfl id id id

omit [DecidableEq QueueId] [DecidableEq Thread] in
/-- One more callback is gone. -/
theorem unregister (h : LifeSound w s m) (starting : Bool) (τ : TopicId) (rest : List TopicId)
    (hstage : (s.life m).stage = .unregistering starting (τ :: rest)) :
    LifeSound w (s.unregister m starting τ rest) m := by
  have hregisters := h.registers
  rw [hstage] at hregisters
  unfold Runtime.unregister
  refine h.slotStep ?_ ?_ (by rw [hstage]; rfl) ?_ nofun nofun
  · intro τ' hreg
    by_cases hτ : τ' = τ
    · rw [hτ, Function.update_self] at hreg
      cases hreg
    · rw [Function.update_of_ne hτ] at hreg
      exact (List.mem_cons.mp (hregisters τ' hreg)).resolve_left hτ
  · intro n
    refine ⟨?_, nofun⟩
    rintro ⟨k, hk⟩
    split at hk
    · obtain ⟨hat, hne⟩ := CallbackTable.at_unregister.mp hk
      obtain ⟨rfl, -⟩ := (h.slots τ n).mp ⟨k, hat⟩
      exact absurd rfl hne
    · rename_i hfree
      exact absurd hk (h.not_at (Bool.eq_false_iff.mpr hfree) k n)
  · rw [hstage]
    cases starting with
    | true => exact fun _ => rfl
    | false => exact nofun

omit [DecidableEq Thread] [DecidableEq TopicId] in
/-- `StopAndWait` tests the running flag: the item is unlinked, or it runs and the wait goes on or has
timed out. An item that was never activated does not run. -/
theorem test (h : LifeSound w s m) (hsound : (s.queue (w.queue m)).Sound) (starting : Bool)
    (deadline now : UInt64) (hnone : ∀ τ, (s.life m).registered τ = false)
    (hlinked : (s.life m).stage.isLinked = true)
    (hdormant : starting = true → (s.life m).stage.isDormant = true) :
    LifeSound w (s.test w m starting deadline now) m := by
  unfold Runtime.test
  split
  · rename_i hrun
    have hstop : starting = false := by
      refine Bool.eq_false_iff.mpr fun hstarting => ?_
      have hidle := (h.dormant (hdormant hstarting)).2
      exact Bool.false_ne_true (hidle.symm.trans hrun)
    subst hstop
    split
    · exact h.setStage hnone hlinked.symm nofun nofun nofun
    · exact h.setStage hnone hlinked.symm nofun nofun nofun
  · have hunlinked : ∀ n, ⟨m, n⟩ ∉ ((s.queue (w.queue m)).unlink (s.object m)).items := by
      intro n hmem
      have hother := List.mem_of_mem_erase hmem
      obtain ⟨-, rfl⟩ := (h.linked_self n).mp hother
      exact hsound.nodup.not_mem_erase hmem
    unfold stopAndWaitReturned
    rw [if_pos rfl]
    cases starting with
    | true =>
        exact h.queueStep rfl hnone (fun n => ⟨fun hmem => absurd hmem (hunlinked n), nofun⟩) nofun
          nofun nofun
    | false =>
        exact h.queueStep rfl hnone (fun n => ⟨fun hmem => absurd hmem (hunlinked n), nofun⟩) nofun
          nofun nofun

omit [DecidableEq Thread] [DecidableEq TopicId] in
theorem detach (h : LifeSound w s m) (hsound : (s.queue (w.queue m)).Sound) (starting : Bool)
    (now now' : UInt64) (hstage : (s.life m).stage = .unregistering starting []) :
    LifeSound w (s.detach w m starting now now') m := by
  have hregisters := h.registers
  have hlinked := h.linked_self
  rw [hstage] at hregisters hlinked
  have hnone : ∀ τ, (s.life m).registered τ = false := by
    intro τ
    refine Bool.eq_false_iff.mpr fun hreg => ?_
    exact absurd (hregisters τ hreg) List.not_mem_nil
  have hattached : ((s.queue (w.queue m)).item (s.object m)).attached = true :=
    (hsound.flags _).attached.mp ((hlinked _).mpr ⟨rfl, rfl⟩)
  have hqueue : (s.modifyQueue (w.queue m) (·.disable (s.object m))).queue (w.queue m) =
      (s.queue (w.queue m)).disable (s.object m) := modifyQueue_self ..
  have hdisabled : LifeSound w (s.modifyQueue (w.queue m) (·.disable (s.object m))) m := by
    refine h.of_queue rfl rfl rfl (fun q hq => modifyQueue_of_ne s hq _) h.registers ?_ ?_ ?_ ?_
    · intro n
      rw [hqueue]
      unfold WorkQueue.disable
      rw [WorkQueue.broadcast_items]
      exact h.linked_self n
    · intro hdormant
      have hidle := (h.dormant hdormant).2
      have hitem : ((s.queue (w.queue m)).disable (s.object m)).item (s.object m) =
          (s.item w m).disable := by
        unfold WorkQueue.disable
        rw [WorkQueue.broadcast_item, WorkQueue.modify_self]
        rfl
      unfold item
      rw [hqueue, show (s.modifyQueue (w.queue m) _).object m = s.object m from rfl, hitem]
      exact ⟨rfl, hidle⟩
    · intro hfresh
      rw [show ((s.modifyQueue (w.queue m) (·.disable (s.object m))).life m).stage = _ from hstage]
        at hfresh
      cases hfresh
    · intro hactive
      rw [show ((s.modifyQueue (w.queue m) (·.disable (s.object m))).life m).stage = _ from hstage]
        at hactive
      cases hactive
  unfold Runtime.detach
  rw [if_pos hattached]
  refine hdisabled.test ?_ starting _ now' hnone ?_ ?_
  · rw [hqueue]
    exact WorkQueue.disable_sound hsound _
  · show (s.life m).stage.isLinked = true
    rw [hstage]
    rfl
  · rintro rfl
    show (s.life m).stage.isDormant = true
    rw [hstage]
    rfl

end LifeSound

/-! ## The invariant of all runs -/

/-- The queues, the locks and the modules are sound. -/
structure RuntimeSound (w : Wiring Node QueueId Message) (s : Runtime Node QueueId Thread Message) :
    Prop where
  queues : ∀ q, (s.queue q).Sound
  locks : LocksSound s
  lives : ∀ m, LifeSound w s m

omit [DecidableEq Node] [DecidableEq QueueId] [DecidableEq Thread] [DecidableEq TopicId] in
theorem initial_sound (w : Wiring Node QueueId Message) :
    RuntimeSound w (initial w : Runtime Node QueueId Thread Message) where
  queues _ := WorkQueue.sound_empty
  locks := ⟨fun _ _ => ⟨nofun, nofun⟩, nofun⟩
  lives m := by
    refine ⟨fun _ => rfl, ?_, ?_, nofun, nofun, nofun⟩
    · intro τ n
      exact ⟨fun ⟨k, hk⟩ => absurd hk (CallbackTable.not_at_empty k _), nofun⟩
    · intro q n
      exact ⟨nofun, nofun⟩

/-- The commands of a module keep its own invariant. -/
theorem next_lifeSound {w : Wiring Node QueueId Message} {s : Runtime Node QueueId Thread Message}
    {a : RuntimeAction Node QueueId Thread Message} (hs : RuntimeSound w s) (h : s.Enabled w a)
    (m : Node) : LifeSound w (s.next w a) m := by
  by_cases hnode : a.node = some m
  · -- a command of the module itself, one lemma for each
    have hlife := hs.lives m
    have hqueue := hs.queues (w.queue m)
    cases a with
    | start m' instantiated =>
        cases hnode
        exact hlife.start h instantiated
    | startQueue m' spawned =>
        cases hnode
        exact hlife.startQueue h spawned
    | attach m' =>
        cases hnode
        exact hlife.attach hqueue h
    | register m' τ rest =>
        cases hnode
        exact hlife.register τ rest h.1
    | publishObject m' =>
        cases hnode
        exact hlife.publishObject h
    | scheduleOnInterval m' now =>
        cases hnode
        exact hlife.scheduleOnInterval hqueue h now
    | scheduleNow m' now =>
        cases hnode
        exact hlife.scheduleNow h now
    | stop m' =>
        cases hnode
        exact hlife.stop h
    | unregister m' starting τ rest =>
        cases hnode
        exact hlife.unregister starting τ rest h.1
    | detach m' starting now now' =>
        cases hnode
        exact hlife.detach hqueue starting now now' h
    | test m' starting deadline now =>
        cases hnode
        have hstage : (s.life m).stage = .waiting starting deadline := h
        have hregisters := hlife.registers
        rw [hstage] at hregisters
        refine hlife.test hqueue starting deadline now hregisters (by rw [hstage]; rfl) ?_
        rintro rfl
        rw [hstage]
        rfl
    | halt m' now =>
        cases hnode
        have hstage : (s.life m).stage = .silent := h
        have hregisters := hlife.registers
        rw [hstage] at hregisters
        exact hlife.setStage hregisters (by rw [hstage]; rfl) nofun nofun nofun
    | signOff m' now index =>
        cases hnode
        have hregisters := hlife.registers
        rw [h.1] at hregisters
        show LifeSound w (s.signOff w m now index) m
        unfold signOff
        split
        · exact (hlife.of_keeps (.store _ _ _)).setStage hregisters
            (by rw [show ((s.store _ _ _).life m).stage = _ from h.1]; rfl) nofun nofun nofun
        · exact hlife
    | delete m' now index =>
        cases hnode
        have hregisters := hlife.registers
        rw [h.1] at hregisters
        show LifeSound w (s.delete m) m
        unfold delete
        exact hlife.modifyLife rfl rfl hregisters (by rw [h.1]; rfl) nofun nofun nofun
    | _ => cases hnode
  · -- everything else leaves alone what its invariant speaks of
    exact (hs.lives m).of_keeps (next_keeps w s a hnode)

theorem next_sound {w : Wiring Node QueueId Message} {s : Runtime Node QueueId Thread Message}
    {a : RuntimeAction Node QueueId Thread Message} (hs : RuntimeSound w s) (h : s.Enabled w a) :
    RuntimeSound w (s.next w a) :=
  ⟨next_queueSound hs.queues h, next_locksSound hs.locks h, next_lifeSound hs h⟩

theorem reachable_sound {w : Wiring Node QueueId Message} {s : Runtime Node QueueId Thread Message}
    (h : (system Thread w).Reachable s) : RuntimeSound w s := by
  refine h.invariant (RuntimeSound w) ?_ ?_
  · rintro _ rfl
    exact initial_sound w
  · rintro s a _ _ hs ⟨henabled, rfl⟩
    exact next_sound hs henabled

end Runtime

end DualMagneticWheel
