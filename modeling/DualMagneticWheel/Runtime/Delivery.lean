/-
# DualMagneticWheel.Runtime.Delivery — no publication is lost between a publisher and the worker

A publication that a running module has not read yet is on its way in one of three forms: its publisher
has still to come to the slot of the module, the item of the module has a pending request, or the `Run`
that is being executed has its read of the topic still ahead. `Covered` is that disjunction, and every
step either leaves its form as it is or hands it on to the next: the store to the publisher, the call to
the request, the start of a `Run` to its read.
-/
import DualMagneticWheel.Runtime.Generations
import DualMagneticWheel.Runtime.ObjectLifetime

namespace DualMagneticWheel

open Foundation

variable {Node QueueId Thread TopicId : Type} {Message : TopicId → Type}
variable [DecidableEq Node] [DecidableEq QueueId] [DecidableEq Thread] [DecidableEq TopicId]

/-! ## What is on its way -/

/-- The publisher has still to come to this slot of the topic. -/
def PublishStage.Before (τ : TopicId) (slot : Nat) : PublishStage Node TopicId → Prop
  | .idle => False
  | .stored τ' => τ' = τ
  | .looping τ' k | .calling τ' k _ => τ' = τ ∧ k ≤ slot

/-- A request of the item stays pending, and the worker that runs it goes on. -/
structure RequestKept (o : ModuleObject Node) (q q' : WorkQueue (ModuleObject Node)) : Prop where
  pending : (q.item o).pending = true → (q'.item o).pending = true
  worker : q.worker = .running o → q'.worker = .running o

namespace RequestKept

variable {o : ModuleObject Node} {q q' : WorkQueue (ModuleObject Node)}

omit [DecidableEq Node] in
theorem refl (o : ModuleObject Node) (q : WorkQueue (ModuleObject Node)) : RequestKept o q q :=
  ⟨id, id⟩

/-- A change of an item, with a broadcast, that is of another object or keeps the request. -/
theorem modify {o' : ModuleObject Node} {f : WorkItem → WorkItem}
    (h : o' = o → (q.item o).pending = true → (f (q.item o)).pending = true) :
    RequestKept o q (q.modify o' f).broadcast := by
  refine ⟨?_, fun hrun => (WorkQueue.broadcast_running _ o).mpr hrun⟩
  rw [WorkQueue.broadcast_item]
  by_cases heq : o = o'
  · subst heq
    rw [WorkQueue.modify_self]
    exact h rfl
  · rw [WorkQueue.modify_of_ne heq]
    exact id

theorem schedule (o o' : ModuleObject Node) (q : WorkQueue (ModuleObject Node))
    (now delayUs : UInt64) : RequestKept o q (q.schedule o' now delayUs) := by
  unfold WorkQueue.schedule
  split
  · refine modify fun _ hpending => ?_
    rw [WorkItem.schedule_pending, hpending]
    rfl
  · exact refl o q

theorem setInterval (o o' : ModuleObject Node) (q : WorkQueue (ModuleObject Node))
    (now intervalUs : UInt64) : RequestKept o q (q.setInterval o' now intervalUs) := by
  unfold WorkQueue.setInterval
  split
  · refine modify fun _ hpending => ?_
    unfold WorkItem.setInterval
    split
    · exact hpending
    · exact hpending
  · exact refl o q

theorem disable {o' : ModuleObject Node} (hne : o' ≠ o) (q : WorkQueue (ModuleObject Node)) :
    RequestKept o q (q.disable o') := modify fun heq => absurd heq hne

theorem attach {o' : ModuleObject Node} (hne : o' ≠ o) (q : WorkQueue (ModuleObject Node))
    (minimumIntervalUs : UInt64) : RequestKept o q (q.attach o' minimumIntervalUs).2 := by
  unfold WorkQueue.attach
  split
  · exact refl o q
  · refine ⟨?_, id⟩
    dsimp only
    rw [WorkQueue.modify_of_ne hne.symm]
    exact id

theorem unlink {o' : ModuleObject Node} (hne : o' ≠ o) (q : WorkQueue (ModuleObject Node)) :
    RequestKept o q (q.unlink o') := by
  refine ⟨?_, id⟩
  unfold WorkQueue.unlink
  dsimp only
  rw [WorkQueue.modify_of_ne hne.symm]
  exact id

omit [DecidableEq Node] in
theorem start (o : ModuleObject Node) (q : WorkQueue (ModuleObject Node)) (spawned : Bool) :
    RequestKept o q (q.start spawned).2 := by
  unfold WorkQueue.start
  split
  · exact refl o q
  · exact ⟨id, id⟩

omit [DecidableEq Node] in
theorem wake (o : ModuleObject Node) {q : WorkQueue (ModuleObject Node)}
    (hblocked : q.worker.blocked = true) : RequestKept o q q.wake := by
  refine ⟨id, ?_⟩
  intro hrun
  rw [hrun] at hblocked
  cases hblocked

omit [DecidableEq Node] [DecidableEq Thread] [DecidableEq TopicId] in
theorem modifyQueue {s : Runtime Node QueueId Thread Message} {k : QueueId}
    {f : WorkQueue (ModuleObject Node) → WorkQueue (ModuleObject Node)}
    (h : RequestKept o (s.queue k) (f (s.queue k))) (k' : QueueId) :
    RequestKept o (s.queue k') ((s.modifyQueue k f).queue k') := by
  by_cases hk : k' = k
  · rw [hk, Runtime.modifyQueue_self]
    exact h
  · rw [Runtime.modifyQueue_of_ne s hk]
    exact refl o _

end RequestKept

namespace Runtime

/-- A publisher has still to come to a slot of the current object. -/
def InFlight (s : Runtime Node QueueId Thread Message) (m : Node) (τ : TopicId) : Prop :=
  ∃ p slot, (s.channel τ).callbacks.At slot (s.object m) ∧ (s.publisher p).Before τ slot

/-- The current object is being run and has its read of the topic still ahead. -/
def Ahead (w : Wiring Node QueueId Message) (s : Runtime Node QueueId Thread Message) (m : Node)
    (τ : TopicId) : Prop :=
  (s.queue (w.queue m)).worker = .running (s.object m) ∧
    RunOp.update τ ∈ s.remaining (w.queue m)

/-- The module has read the topic up to its latest publication, or it is going to. -/
def Covered (w : Wiring Node QueueId Message) (s : Runtime Node QueueId Thread Message) (m : Node)
    (τ : TopicId) : Prop :=
  (s.life m).seen τ = (s.channel τ).published ∨ (s.item w m).pending = true ∨ s.InFlight m τ ∨
    s.Ahead w m τ

/-- An enabled item that is scheduled has a request. -/
theorem schedule_requests {q : WorkQueue (ModuleObject Node)} {o : ModuleObject Node}
    (henabled : (q.item o).enabled = true) (now : UInt64) :
    ((q.schedule o now 0).item o).pending = true := by
  unfold WorkQueue.schedule
  rw [if_pos henabled, WorkQueue.broadcast_item, WorkQueue.modify_self, WorkItem.schedule_pending,
    henabled, Bool.or_true]

namespace Covered

variable {w : Wiring Node QueueId Message} {s t : Runtime Node QueueId Thread Message} {m : Node}
variable {τ : TopicId}

omit [DecidableEq Node] [DecidableEq QueueId] [DecidableEq Thread] [DecidableEq TopicId] in
/-- A step that leaves the counts, the publishers, the request and the `Run` as they are. -/
theorem of_kept (h : Covered w s m τ) (hserial : (t.life m).serial = (s.life m).serial)
    (hseen : (t.life m).seen = (s.life m).seen)
    (hpublished : (t.channel τ).published = (s.channel τ).published)
    (hslots : ∀ k, (s.channel τ).callbacks.At k (s.object m) →
      (t.channel τ).callbacks.At k (s.object m))
    (hpublisher : t.publisher = s.publisher) (hremaining : t.remaining = s.remaining)
    (hqueue : RequestKept (s.object m) (s.queue (w.queue m)) (t.queue (w.queue m))) :
    Covered w t m τ := by
  have hobject : t.object m = s.object m := congrArg (ModuleObject.mk m) hserial
  rcases h with hread | hpending | ⟨p, slot, hat, hbefore⟩ | ⟨hworker, hmem⟩
  · left
    rw [hseen, hpublished]
    exact hread
  · right; left
    unfold item
    rw [hobject]
    exact hqueue.pending hpending
  · right; right; left
    refine ⟨p, slot, ?_, ?_⟩
    · rw [hobject]
      exact hslots slot hat
    · rw [hpublisher]
      exact hbefore
  · right; right; right
    refine ⟨?_, ?_⟩
    · rw [hobject]
      exact hqueue.worker hworker
    · rw [hremaining]
      exact hmem

/-- A publication that comes in puts its publisher in front of the slot of the module. -/
theorem store (h : Covered w s m τ) (hslot : ∃ k, (s.channel τ).callbacks.At k (s.object m))
    {p : Publisher Node QueueId Thread} (hidle : s.publisher p = .idle) (τ' : TopicId)
    (message : Message τ') : Covered w (s.store p τ' message) m τ := by
  by_cases hτ : τ = τ'
  · subst hτ
    obtain ⟨k, hk⟩ := hslot
    right; right; left
    refine ⟨p, k, ?_, ?_⟩
    · rw [store_self]
      exact hk
    · show (((s.modifyChannel τ _).setPublisher p (.stored τ)).publisher p).Before τ k
      rw [setPublisher_self]
      rfl
  · have hchannel := store_of_ne p hτ message s
    rcases h with hread | hpending | ⟨p', slot, hat, hbefore⟩ | hahead
    · left
      rw [hchannel]
      exact hread
    · exact Or.inr (Or.inl hpending)
    · have hp : p' ≠ p := by
        rintro rfl
        rw [hidle] at hbefore
        exact hbefore
      right; right; left
      refine ⟨p', slot, ?_, ?_⟩
      · rw [hchannel]
        exact hat
      · show (((s.modifyChannel τ' _).setPublisher p (.stored τ')).publisher p').Before τ slot
        rw [setPublisher_of_ne _ hp]
        exact hbefore
    · exact Or.inr (Or.inr (Or.inr hahead))

omit [DecidableEq TopicId] in
/-- A publisher moves on, past no slot of the module unless it has requested a run. -/
theorem move (h : Covered w s m τ) {p : Publisher Node QueueId Thread} (hlife : t.life = s.life)
    (hpublished : (t.channel τ).published = (s.channel τ).published)
    (hslots : (t.channel τ).callbacks = (s.channel τ).callbacks)
    (hother : ∀ p', p' ≠ p → t.publisher p' = s.publisher p') (hremaining : t.remaining = s.remaining)
    (hqueue : RequestKept (s.object m) (s.queue (w.queue m)) (t.queue (w.queue m)))
    (hmove : ∀ slot, (s.channel τ).callbacks.At slot (s.object m) → (s.publisher p).Before τ slot →
      (t.publisher p).Before τ slot ∨ (t.item w m).pending = true) : Covered w t m τ := by
  have hobject : t.object m = s.object m := by
    unfold object
    rw [hlife]
  rcases h with hread | hpending | ⟨p', slot, hat, hbefore⟩ | ⟨hworker, hmem⟩
  · left
    rw [hlife, hpublished]
    exact hread
  · right; left
    unfold item
    rw [hobject]
    exact hqueue.pending hpending
  · have hbefore' : (t.publisher p').Before τ slot ∨ (t.item w m).pending = true := by
      by_cases hp : p' = p
      · subst hp
        exact hmove slot hat hbefore
      · rw [hother p' hp]
        exact Or.inl hbefore
    rcases hbefore' with hbefore' | hpending
    · right; right; left
      refine ⟨p', slot, ?_, hbefore'⟩
      rw [hobject, hslots]
      exact hat
    · exact Or.inr (Or.inl hpending)
  · right; right; right
    refine ⟨?_, ?_⟩
    · rw [hobject]
      exact hqueue.worker hworker
    · rw [hremaining]
      exact hmem

omit [DecidableEq Node] [DecidableEq QueueId] [DecidableEq Thread] in
theorem setLock_channel (s : Runtime Node QueueId Thread Message) (τ' τ : TopicId)
    (lock : Option (Publisher Node QueueId Thread)) :
    ((s.modifyChannel τ' ({ · with lock })).channel τ).published = (s.channel τ).published ∧
      ((s.modifyChannel τ' ({ · with lock })).channel τ).callbacks = (s.channel τ).callbacks := by
  by_cases hτ : τ = τ'
  · subst hτ
    rw [modifyChannel_self]
    exact ⟨rfl, rfl⟩
  · rw [modifyChannel_of_ne s hτ]
    exact ⟨rfl, rfl⟩

theorem lockCallbacks (h : Covered w s m τ) {p : Publisher Node QueueId Thread} {τ' : TopicId}
    (hstored : s.publisher p = .stored τ') : Covered w (s.lockCallbacks p τ') m τ := by
  have hchannel : ((s.lockCallbacks p τ').channel τ).published = (s.channel τ).published ∧
      ((s.lockCallbacks p τ').channel τ).callbacks = (s.channel τ).callbacks := setLock_channel ..
  refine h.move rfl hchannel.1 hchannel.2 (fun p' hp => setPublisher_of_ne _ hp _) rfl (.refl _ _) ?_
  intro slot _ hbefore
  rw [hstored] at hbefore
  left
  unfold Runtime.lockCallbacks
  rw [setPublisher_self]
  exact ⟨hbefore, Nat.zero_le slot⟩

omit [DecidableEq TopicId] in
theorem visit (h : Covered w s m τ) {p : Publisher Node QueueId Thread} {τ' : TopicId} {k : Nat}
    (hlooping : s.publisher p = .looping τ' k) : Covered w (s.visit p τ' k) m τ := by
  refine h.move rfl rfl rfl (fun p' hp => setPublisher_of_ne _ hp _) rfl (.refl _ _) ?_
  intro slot hat hbefore
  rw [hlooping] at hbefore
  obtain ⟨rfl, hle⟩ := hbefore
  left
  unfold Runtime.visit
  rw [setPublisher_self]
  split
  · exact ⟨rfl, hle⟩
  · rename_i hempty
    have hne : k ≠ slot := by
      rintro rfl
      exact hempty _ hat
    exact ⟨rfl, by omega⟩

omit [DecidableEq TopicId] in
/-- The call requests a run of the object in the slot. -/
theorem call (h : Covered w s m τ) (hlocks : LocksSound s)
    (henabled : (s.item w m).enabled = true) {p : Publisher Node QueueId Thread} {τ' : TopicId}
    {k : Nat} {o : ModuleObject Node} (hcalling : s.publisher p = .calling τ' k o) (now : UInt64) :
    Covered w (s.call w p τ' k o now) m τ := by
  refine h.move rfl rfl rfl (fun p' hp => setPublisher_of_ne _ hp _) rfl
    (RequestKept.modifyQueue (.schedule _ o _ now 0) (w.queue m)) ?_
  intro slot hat hbefore
  rw [hcalling] at hbefore
  obtain ⟨rfl, hle⟩ := hbefore
  by_cases hslot : k = slot
  · subst hslot
    have hself : o = s.object m := by
      have htarget := hlocks.target p τ' k o hcalling
      exact Option.some.inj (Option.some.inj (htarget.symm.trans hat))
    subst hself
    right
    show (((s.modifyQueue (w.queue m) (·.schedule (s.object m) now 0)).queue (w.queue m)).item
      (s.object m)).pending = true
    rw [modifyQueue_self]
    exact schedule_requests henabled now
  · left
    unfold Runtime.call
    rw [setPublisher_self]
    exact ⟨rfl, by omega⟩

theorem unlockCallbacks (h : Covered w s m τ) {p : Publisher Node QueueId Thread} {τ' : TopicId}
    {k : Nat} (hlooping : s.publisher p = .looping τ' k) (hend : 8 ≤ k) :
    Covered w (s.unlockCallbacks p τ') m τ := by
  have hchannel : ((s.unlockCallbacks p τ').channel τ).published = (s.channel τ).published ∧
      ((s.unlockCallbacks p τ').channel τ).callbacks = (s.channel τ).callbacks := setLock_channel ..
  refine h.move rfl hchannel.1 hchannel.2 (fun p' hp => setPublisher_of_ne _ hp _) rfl (.refl _ _) ?_
  intro slot hat hbefore
  rw [hlooping] at hbefore
  have hlt := hat.lt
  exact absurd hbefore.2 (by omega)

/-! ### The worker -/

omit [DecidableEq Thread] [DecidableEq TopicId] in
/-- A `Run` that starts has its reads ahead. -/
theorem scan (h : Covered w s m τ) (hτ : τ ∈ w.callbacks m) {q : QueueId}
    (hscanning : (s.queue q).worker = .scanning) (now : UInt64) : Covered w (s.scan w q now) m τ := by
  by_cases hq : q = w.queue m
  · subst hq
    have hidle : ∀ o, (s.queue (w.queue m)).worker ≠ .running o := by
      intro o hrun
      rw [hscanning] at hrun
      cases hrun
    unfold Runtime.scan
    split
    · rename_i o hsel
      have hscan : (s.queue (w.queue m)).scan now =
          { (s.queue (w.queue m)).modify o (·.begin now) with worker := .running o } := by
        unfold WorkQueue.scan
        rw [hsel]
      -- the run of the module itself begins with its reads ahead
      by_cases ho : o = s.object m
      · subst ho
        right; right; right
        refine ⟨?_, ?_⟩
        · show ((s.modifyQueue (w.queue m) (·.scan now)).queue (w.queue m)).worker = _
          rw [modifyQueue_self, hscan]
          rfl
        · show RunOp.update τ ∈ Function.update s.remaining (w.queue m) (w.run m) (w.queue m)
          rw [Function.update_self]
          exact w.update_callbacks m τ hτ
      · rcases h with hread | hpending | hflight | hahead
        · exact Or.inl hread
        · right; left
          show (((s.modifyQueue (w.queue m) (·.scan now)).queue (w.queue m)).item
            (s.object m)).pending = true
          rw [modifyQueue_self, hscan]
          dsimp only
          rw [WorkQueue.modify_of_ne (Ne.symm ho)]
          exact hpending
        · exact Or.inr (Or.inr (Or.inl hflight))
        · exact absurd hahead.1 (hidle _)
    · rename_i hsel
      refine h.of_kept rfl rfl rfl (fun _ hk => hk) rfl rfl ?_
      refine RequestKept.modifyQueue ⟨?_, fun hrun => absurd hrun (hidle _)⟩ (w.queue m)
      unfold WorkQueue.scan
      rw [hsel]
      exact id
  · -- the queue of another module
    have hqueue : ∀ ops, ((s.modifyQueue q (·.scan now)).setRemaining q ops).queue (w.queue m) =
        s.queue (w.queue m) := fun ops => modifyQueue_of_ne s (Ne.symm hq) _
    unfold Runtime.scan
    split
    · rcases h with hread | hpending | hflight | ⟨hworker, hmem⟩
      · exact Or.inl hread
      · right; left
        unfold item
        rw [hqueue]
        exact hpending
      · exact Or.inr (Or.inr (Or.inl hflight))
      · right; right; right
        refine ⟨?_, ?_⟩
        · rw [hqueue]
          exact hworker
        · show RunOp.update τ ∈ Function.update s.remaining q _ (w.queue m)
          rw [Function.update_of_ne (Ne.symm hq)]
          exact hmem
    · refine h.of_kept rfl rfl rfl (fun _ hk => hk) rfl rfl ?_
      rw [modifyQueue_of_ne s (Ne.symm hq)]
      exact .refl _ _

omit [DecidableEq Thread] in
/-- The read of the topic brings the module up to date; the others are not in its way. -/
theorem update (h : Covered w s m τ) {q : QueueId} {o : ModuleObject Node} {τ' : TopicId}
    {rest : List (RunOp TopicId)} (hworker : (s.queue q).worker = .running o)
    (hops : s.remaining q = .update τ' :: rest) : Covered w (s.update q o τ' rest) m τ := by
  by_cases hread : o.node = m ∧ τ' = τ
  · obtain ⟨rfl, rfl⟩ := hread
    left
    rw [update_life_self]
    exact Function.update_self ..
  · have hlife : ((s.update q o τ' rest).life m).serial = (s.life m).serial ∧
        ((s.update q o τ' rest).life m).seen τ = (s.life m).seen τ := by
      by_cases hm : m = o.node
      · rw [hm, update_life_self]
        refine ⟨rfl, Function.update_of_ne ?_ ..⟩
        rintro rfl
        exact hread ⟨hm.symm, rfl⟩
      · rw [update_life_of_ne q hm]
        exact ⟨rfl, rfl⟩
    have hobject : (s.update q o τ' rest).object m = s.object m :=
      congrArg (ModuleObject.mk m) hlife.1
    rcases h with hseen | hpending | ⟨p, slot, hat, hbefore⟩ | ⟨hrun, hmem⟩
    · left
      rw [hlife.2]
      exact hseen
    · right; left
      unfold item
      rw [hobject]
      exact hpending
    · right; right; left
      refine ⟨p, slot, ?_, hbefore⟩
      rw [hobject]
      exact hat
    · right; right; right
      refine ⟨?_, ?_⟩
      · rw [hobject]
        exact hrun
      · show RunOp.update τ ∈ Function.update s.remaining q rest (w.queue m)
        by_cases hq : w.queue m = q
        · rw [hq] at hrun hmem
          rw [hq, Function.update_self]
          rw [hops] at hmem
          have hself : o = s.object m := Worker.running.inj (hworker.symm.trans hrun)
          refine (List.mem_cons.mp hmem).resolve_left ?_
          intro heq
          exact hread ⟨by rw [hself]; rfl, (RunOp.update.inj heq).symm⟩
        · rw [Function.update_of_ne hq]
          exact hmem

omit [DecidableEq Node] [DecidableEq Thread] [DecidableEq TopicId] in
/-- A publication, made or not, is not a read. -/
theorem dropPublish (h : Covered w s m τ) {q : QueueId} {τ' : TopicId} {rest : List (RunOp TopicId)}
    (hops : s.remaining q = .publish τ' :: rest) : Covered w (s.setRemaining q rest) m τ := by
  rcases h with hread | hpending | hflight | ⟨hworker, hmem⟩
  · exact Or.inl hread
  · exact Or.inr (Or.inl hpending)
  · exact Or.inr (Or.inr (Or.inl hflight))
  · right; right; right
    refine ⟨hworker, ?_⟩
    show RunOp.update τ ∈ Function.update s.remaining q rest (w.queue m)
    by_cases hq : w.queue m = q
    · rw [hq, hops] at hmem
      rw [hq, Function.update_self]
      exact (List.mem_cons.mp hmem).resolve_left nofun
    · rw [Function.update_of_ne hq]
      exact hmem

omit [DecidableEq Thread] [DecidableEq TopicId] in
/-- A `Run` that ends has nothing ahead. -/
theorem finish (h : Covered w s m τ) {q : QueueId} {o : ModuleObject Node}
    (hops : s.remaining q = []) : Covered w (s.finish q o) m τ := by
  rcases h with hread | hpending | hflight | ⟨hworker, hmem⟩
  · exact Or.inl hread
  · right; left
    show (((s.modifyQueue q (·.finish o)).queue (w.queue m)).item (s.object m)).pending = true
    by_cases hq : w.queue m = q
    · rw [hq, modifyQueue_self]
      unfold item at hpending
      rw [hq] at hpending
      by_cases ho : s.object m = o
      · unfold WorkQueue.finish
        dsimp only
        rw [ho, WorkQueue.modify_self]
        rw [ho] at hpending
        exact hpending
      · unfold WorkQueue.finish
        dsimp only
        rw [WorkQueue.modify_of_ne ho]
        exact hpending
    · rw [modifyQueue_of_ne s hq]
      exact hpending
  · exact Or.inr (Or.inr (Or.inl hflight))
  · right; right; right
    have hq : w.queue m ≠ q := by
      intro hq
      rw [hq, hops] at hmem
      exact absurd hmem List.not_mem_nil
    refine ⟨?_, hmem⟩
    show ((s.modifyQueue q (·.finish o)).queue (w.queue m)).worker = .running (s.object m)
    rw [modifyQueue_of_ne s hq]
    exact hworker

/-! ### The commands for another module -/

omit [DecidableEq QueueId] [DecidableEq Thread] [DecidableEq TopicId] in
theorem modifyLife (h : Covered w s m τ) {m' : Node} (hne : m ≠ m')
    (f : QueuedModule Message → QueuedModule Message) : Covered w (s.modifyLife m' f) m τ := by
  have hlife : (s.modifyLife m' f).life m = s.life m := modifyLife_of_ne s hne f
  exact h.of_kept (by rw [hlife]) (by rw [hlife]) rfl (fun _ hk => hk) rfl rfl (.refl _ _)

omit [DecidableEq QueueId] [DecidableEq Thread] [DecidableEq TopicId] in
theorem setStage (h : Covered w s m τ) {m' : Node} (hne : m ≠ m') (stage : QueuedStage TopicId) :
    Covered w (s.setStage m' stage) m τ := h.modifyLife hne _

omit [DecidableEq Node] [DecidableEq Thread] [DecidableEq TopicId] in
theorem modifyQueue (h : Covered w s m τ) {q : QueueId}
    {f : WorkQueue (ModuleObject Node) → WorkQueue (ModuleObject Node)}
    (hqueue : RequestKept (s.object m) (s.queue q) (f (s.queue q))) :
    Covered w (s.modifyQueue q f) m τ :=
  h.of_kept rfl rfl rfl (fun _ hk => hk) rfl rfl (hqueue.modifyQueue _)

omit [DecidableEq QueueId] [DecidableEq Thread] in
theorem modifySlots (h : Covered w s m τ) {m' : Node} (hne : m ≠ m') {τ' : TopicId}
    {g : Channel Node QueueId Thread (Message τ') → Channel Node QueueId Thread (Message τ')}
    (hpublished : (g (s.channel τ')).published = (s.channel τ').published)
    (hslots : ∀ k, (s.channel τ').callbacks.At k (s.object m) →
      (g (s.channel τ')).callbacks.At k (s.object m))
    (f : QueuedModule Message → QueuedModule Message) :
    Covered w ((s.modifyChannel τ' g).modifyLife m' f) m τ := by
  refine modifyLife ?_ hne f
  refine h.of_kept rfl rfl ?_ ?_ rfl rfl (.refl _ _)
  · by_cases hτ : τ = τ'
    · subst hτ
      rw [modifyChannel_self]
      exact hpublished
    · rw [modifyChannel_of_ne s hτ]
  · intro k hk
    by_cases hτ : τ = τ'
    · subst hτ
      rw [modifyChannel_self]
      exact hslots k hk
    · rw [modifyChannel_of_ne s hτ]
      exact hk

omit [DecidableEq Thread] [DecidableEq TopicId] in
theorem test (h : Covered w s m τ) {m' : Node} (hne : m ≠ m') (starting : Bool)
    (deadline now : UInt64) : Covered w (s.test w m' starting deadline now) m τ := by
  unfold Runtime.test
  split
  · split
    · exact h.setStage hne _
    · exact h.setStage hne _
  · refine setStage (modifyQueue h (.unlink ?_ _)) hne _
    intro heq
    exact hne (congrArg ModuleObject.node heq).symm

end Covered

/-! ## All steps -/

omit [DecidableEq QueueId] [DecidableEq Thread] [DecidableEq TopicId] in
theorem stage_setStage (s : Runtime Node QueueId Thread Message) (m : Node)
    (stage : QueuedStage TopicId) : ((s.setStage m stage).life m).stage = stage := by
  unfold setStage
  rw [modifyLife_self]

omit [DecidableEq Thread] [DecidableEq TopicId] in
theorem test_not_running (w : Wiring Node QueueId Message) (s : Runtime Node QueueId Thread Message)
    (m : Node) (starting : Bool) (deadline now : UInt64) :
    ((s.test w m starting deadline now).life m).stage ≠ .running := by
  have hreturned : ∀ (t : Runtime Node QueueId Thread Message) ok,
      ((t.stopAndWaitReturned m starting ok).life m).stage ≠ .running := by
    intro t ok
    unfold stopAndWaitReturned
    rw [stage_setStage]
    cases starting <;> cases ok <;> exact nofun
  unfold test
  split
  · split
    · exact hreturned _ _
    · rw [stage_setStage]
      exact nofun
  · exact hreturned _ _

/-- A module runs after one of its own commands only when its start ends, or when nothing happened. -/
theorem next_running {w : Wiring Node QueueId Message} {s : Runtime Node QueueId Thread Message}
    {a : RuntimeAction Node QueueId Thread Message} {m : Node} (hnode : a.node = some m)
    (hrunning : ((s.next w a).life m).stage = .running) :
    (∃ now, a = .scheduleNow m now) ∨ s.next w a = s := by
  -- most commands end in a stage of their own, which is not `running`
  have hset : ∀ {t : Runtime Node QueueId Thread Message} {stage : QueuedStage TopicId},
      ((t.setStage m stage).life m).stage = .running → stage = .running := by
    intro t stage h
    rwa [stage_setStage] at h
  cases a with
  | start m' instantiated =>
      cases hnode
      have hcase : s.start w m instantiated = s ∨
          ((s.start w m instantiated).life m).stage = .constructed := by
        unfold start
        split
        · exact Or.inl rfl
        · rw [modifyLife_self]
          exact Or.inr rfl
      rcases hcase with hsame | hconstructed
      · exact Or.inr hsame
      · exact absurd (hconstructed.symm.trans hrunning) nofun
  | startQueue m' spawned =>
      cases hnode
      have hstage := hset hrunning
      split at hstage <;> cases hstage
  | attach m' =>
      cases hnode
      have hstage := hset hrunning
      split at hstage <;> cases hstage
  | register m' τ rest =>
      cases hnode
      have hstage : ((s.register w m τ rest).life m).stage = .running := hrunning
      unfold register at hstage
      rw [modifyLife_self] at hstage
      dsimp only at hstage
      split at hstage <;> cases hstage
  | publishObject m' =>
      cases hnode
      cases hset hrunning
  | scheduleOnInterval m' now =>
      cases hnode
      cases hset hrunning
  | scheduleNow m' now =>
      cases hnode
      exact Or.inl ⟨now, rfl⟩
  | stop m' =>
      cases hnode
      have hcase : s.stop w m = s ∨ ((s.stop w m).life m).stage ≠ .running := by
        unfold stop
        split
        · exact Or.inl rfl
        · right
          split
          · rw [stage_setStage]
            exact nofun
          · rename_i hidle
            rw [modifyLife_self]
            intro hstage
            have hold : (s.life m).stage = .running := hstage
            rw [hold] at hidle
            exact hidle rfl
      rcases hcase with hsame | hne
      · exact Or.inr hsame
      · exact absurd hrunning hne
  | unregister m' starting τ rest =>
      cases hnode
      have hstage : ((s.unregister m starting τ rest).life m).stage = .running := hrunning
      unfold unregister at hstage
      rw [modifyLife_self] at hstage
      cases hstage
  | detach m' starting now now' =>
      cases hnode
      have hstage : ((s.detach w m starting now now').life m).stage = .running := hrunning
      unfold detach at hstage
      split at hstage
      · exact absurd hstage (test_not_running w _ m starting _ now')
      · unfold stopAndWaitReturned at hstage
        rw [stage_setStage] at hstage
        split at hstage
        · cases hstage
        · cases hstage
  | test m' starting deadline now =>
      cases hnode
      exact absurd hrunning (test_not_running w s m starting deadline now)
  | halt m' now =>
      cases hnode
      cases hset hrunning
  | signOff m' now index =>
      cases hnode
      have hcase : s.signOff w m now index = s ∨
          ((s.signOff w m now index).life m).stage = .signingOff now (index + 1) := by
        unfold signOff
        split
        · exact Or.inr (stage_setStage _ m _)
        · exact Or.inl rfl
      rcases hcase with hsame | hstage
      · exact Or.inr hsame
      · exact absurd (hstage.symm.trans hrunning) nofun
  | delete m' now index =>
      cases hnode
      have hstage : ((s.delete m).life m).stage = .running := hrunning
      unfold delete at hstage
      rw [modifyLife_self] at hstage
      cases hstage
  | _ => cases hnode

/-- The steps of the publishers, the workers and the other modules hand on what is on its way to a
running module. -/
theorem covered_other {w : Wiring Node QueueId Message} {s : Runtime Node QueueId Thread Message}
    {a : RuntimeAction Node QueueId Thread Message} (hs : RuntimeSound w s) (h : s.Enabled w a)
    {m : Node} {τ : TopicId} (hτ : τ ∈ w.callbacks m) (hrunning : (s.life m).stage = .running)
    (hnode : a.node ≠ some m) (hcovered : Covered w s m τ) : Covered w (s.next w a) m τ := by
  have hlife := hs.lives m
  have henabled : (s.item w m).enabled = true := hlife.active (by rw [hrunning]; rfl)
  -- a running module has its item enabled and its callback in the table; no other module changes that
  have hslot : ∃ k, (s.channel τ).callbacks.At k (s.object m) := by
    have hregisters := hlife.registers
    rw [hrunning] at hregisters
    exact (hlife.slots τ _).mpr ⟨rfl, (hregisters τ).mpr hτ⟩
  have hother : ∀ {m' : Node}, some m' ≠ some m → m ≠ m' := by
    rintro m' hne rfl
    exact hne rfl
  have hobject : ∀ {m' : Node}, some m' ≠ some m → s.object m' ≠ s.object m := by
    intro m' hne heq
    exact hne (congrArg some (congrArg ModuleObject.node heq))
  cases a with
  | publish thread τ' message => exact hcovered.store hslot h.2 τ' message
  | lockCallbacks p τ' => exact hcovered.lockCallbacks h.1
  | visit p τ' slot => exact hcovered.visit h.1
  | call p τ' slot o now => exact hcovered.call hs.locks henabled h now
  | unlockCallbacks p τ' slot => exact hcovered.unlockCallbacks h.1 h.2
  | initQueue q spawned =>
      exact hcovered.modifyQueue (f := fun queue => (queue.start spawned).2) (.start _ _ spawned)
  | scan q now => exact hcovered.scan hτ h.2.2 now
  | wake q => exact hcovered.modifyQueue (.wake _ h)
  | update q o τ' rest => exact hcovered.update h.1 h.2.1
  | runPublish q o τ' rest message =>
      have hops : (s.store (.worker q) τ' message).remaining q = .publish τ' :: rest := h.2.1
      exact (hcovered.store hslot h.2.2 τ' message).dropPublish hops
  | skip q o τ' rest => exact hcovered.dropPublish h.2.1
  | finish q o => exact hcovered.finish h.2.1
  | start m' instantiated =>
      show Covered w (s.start w m' instantiated) m τ
      unfold start
      split
      · exact hcovered
      · exact hcovered.modifyLife (hother hnode) _
  | startQueue m' spawned =>
      exact (hcovered.modifyQueue (f := fun queue => (queue.start spawned).2)
        (.start _ _ spawned)).setStage (hother hnode) _
  | attach m' =>
      exact (hcovered.modifyQueue
        (f := fun queue => (queue.attach (s.object m') (w.periodUs m')).2)
        (.attach (hobject hnode) _ _)).setStage (hother hnode) _
  | register m' τ' rest =>
      show Covered w (s.register w m' τ' rest) m τ
      unfold register
      refine hcovered.modifySlots (hother hnode) rfl ?_ _
      intro k hk
      dsimp only
      unfold registerCallback
      split
      · exact hk
      · exact hk.register
  | publishObject m' => exact hcovered.setStage (hother hnode) _
  | scheduleOnInterval m' now =>
      exact (hcovered.modifyQueue (.setInterval _ _ _ _ _)).setStage (hother hnode) _
  | scheduleNow m' now =>
      exact (hcovered.modifyQueue (.schedule _ _ _ _ _)).setStage (hother hnode) _
  | stop m' =>
      show Covered w (s.stop w m') m τ
      unfold stop
      split
      · exact hcovered
      · split
        · exact hcovered.setStage (hother hnode) _
        · exact hcovered.modifyLife (hother hnode) _
  | unregister m' starting τ' rest =>
      show Covered w (s.unregister m' starting τ' rest) m τ
      unfold unregister
      refine hcovered.modifySlots (hother hnode) ?_ ?_ _
      · split <;> rfl
      · intro k hk
        split
        · exact CallbackTable.at_unregister.mpr ⟨hk, (hobject hnode).symm⟩
        · exact hk
  | detach m' starting now now' =>
      show Covered w (s.detach w m' starting now now') m τ
      unfold detach
      split
      · exact (hcovered.modifyQueue (.disable (hobject hnode) _)).test (hother hnode) _ _ _
      · exact hcovered.setStage (hother hnode) _
  | test m' starting deadline now => exact hcovered.test (hother hnode) _ _ _
  | halt m' now => exact hcovered.setStage (hother hnode) _
  | signOff m' now index =>
      show Covered w (s.signOff w m' now index) m τ
      unfold signOff
      split
      · exact (hcovered.store hslot h.2.2 _ _).setStage (hother hnode) _
      · exact hcovered
  | delete m' now index =>
      show Covered w (s.delete m') m τ
      unfold delete
      exact hcovered.modifyLife (hother hnode) _

omit [DecidableEq Thread] [DecidableEq TopicId] in
/-- The start ends with a request. -/
theorem covered_start {w : Wiring Node QueueId Message} {s : Runtime Node QueueId Thread Message}
    (hs : RuntimeSound w s) {m : Node} (hactivated : (s.life m).stage = .activated) (now : UInt64)
    (τ : TopicId) : Covered w (s.scheduleNow w m now) m τ := by
  have henabled : (s.item w m).enabled = true := (hs.lives m).active (by rw [hactivated]; rfl)
  have hserial : ((s.scheduleNow w m now).life m).serial = (s.life m).serial := by
    unfold scheduleNow setStage
    rw [modifyLife_self]
    rfl
  right; left
  unfold item object
  rw [hserial]
  show (((s.modifyQueue (w.queue m) (·.schedule (s.object m) now 0)).queue (w.queue m)).item
    (s.object m)).pending = true
  rw [modifyQueue_self]
  exact schedule_requests henabled now

/-- In every state of every run: a module that runs has read its topics or is going to. -/
theorem reachable_covered {w : Wiring Node QueueId Message} {s : Runtime Node QueueId Thread Message}
    (h : (system Thread w).Reachable s) : ∀ m τ, (s.life m).stage = .running →
      τ ∈ w.callbacks m → Covered w s m τ := by
  refine h.invariant (fun s => ∀ m τ, (s.life m).stage = .running → τ ∈ w.callbacks m →
    Covered w s m τ) ?_ ?_
  · rintro _ rfl m τ hrunning
    cases hrunning
  · rintro s a _ hreachable ih ⟨henabled, rfl⟩ m τ hrunning hτ
    have hs := reachable_sound hreachable
    by_cases hnode : a.node = some m
    · rcases next_running hnode hrunning with ⟨now, rfl⟩ | hsame
      · exact covered_start hs henabled now τ
      · rw [hsame] at hrunning ⊢
        exact ih m τ hrunning hτ
    · have hrunning' : (s.life m).stage = .running := by
        rw [← (next_keeps w s a hnode).stage]
        exact hrunning
      exact covered_other hs henabled hτ hrunning' hnode (ih m τ hrunning' hτ)

end Runtime

end DualMagneticWheel
