/-
# DualMagneticWheel.Runtime.Generations — what a subscription knows of its topic

A topic and its subscriptions keep generations that count modulo 2^32, and a reader takes a publication
for news when the two differ. `CountsSound` relates them to the true counts: a subscription whose count
has caught up with the topic holds the latest message. `ReadsInTime` is the assumption behind it, that
fewer than 2^32 publications come between two reads.
-/
import DualMagneticWheel.Runtime.QueuedModules

namespace DualMagneticWheel

open Foundation

variable {Node QueueId Thread TopicId : Type} {Message : TopicId → Type}
variable [DecidableEq Node] [DecidableEq QueueId] [DecidableEq Thread] [DecidableEq TopicId]

namespace Runtime

/-- Fewer than 2^32 publications before the first read of a subscription and between two of its reads. -/
def ReadsInTime (s : Runtime Node QueueId Thread Message) :
    RuntimeAction Node QueueId Thread Message → Prop
  | .update _ o τ _ => (s.channel τ).published < (s.life o.node).seen τ + 2 ^ 32
  | _ => True

instance (s : Runtime Node QueueId Thread Message) :
    (a : RuntimeAction Node QueueId Thread Message) → Decidable (s.ReadsInTime a)
  | .update _ o τ _ =>
      inferInstanceAs (Decidable ((s.channel τ).published < (s.life o.node).seen τ + 2 ^ 32))
  | .publish _ _ _ | .lockCallbacks _ _ | .visit _ _ _ | .call _ _ _ _ _ | .unlockCallbacks _ _ _
  | .initQueue _ _ | .scan _ _ | .wake _ | .runPublish _ _ _ _ _ | .skip _ _ _ _ | .finish _ _
  | .start _ _ | .startQueue _ _ | .attach _ | .register _ _ _ | .publishObject _
  | .scheduleOnInterval _ _ | .scheduleNow _ _ | .stop _ | .unregister _ _ _ _ | .detach _ _ _ _
  | .test _ _ _ _ | .halt _ _ | .signOff _ _ _ | .delete _ _ _ => inferInstanceAs (Decidable True)

/-! ## What the generations count -/

/-- The generation of a topic counts its publications, that of a subscription those at its last read;
a reader that is up to date has the latest message. -/
structure CountsSound (s : Runtime Node QueueId Thread Message) : Prop where
  generation : ∀ τ, (s.channel τ).topic.generation = UInt32.ofNat (s.channel τ).published
  advertised : ∀ τ, (s.channel τ).topic.advertised = true ↔ (s.channel τ).published ≠ 0
  seen_le : ∀ m τ, (s.life m).seen τ ≤ (s.channel τ).published
  subscription : ∀ m τ, (s.life m).subscription τ = ⟨UInt32.ofNat ((s.life m).seen τ)⟩
  received : ∀ m τ, (s.life m).seen τ = (s.channel τ).published → (s.channel τ).published ≠ 0 →
    (s.life m).received τ = (s.channel τ).topic.message

/-- The messages, their counts and the subscriptions are left alone. -/
structure CountsKept (s t : Runtime Node QueueId Thread Message) : Prop where
  topic : ∀ τ, (t.channel τ).topic = (s.channel τ).topic
  published : ∀ τ, (t.channel τ).published = (s.channel τ).published
  seen : ∀ m, (t.life m).seen = (s.life m).seen
  subscription : ∀ m, (t.life m).subscription = (s.life m).subscription
  received : ∀ m, (t.life m).received = (s.life m).received

namespace CountsKept

variable {s t u : Runtime Node QueueId Thread Message}

omit [DecidableEq Node] [DecidableEq QueueId] [DecidableEq Thread] [DecidableEq TopicId] in
theorem of_eq (hchannel : t.channel = s.channel) (hlife : t.life = s.life) : CountsKept s t := by
  refine ⟨?_, ?_, ?_, ?_, ?_⟩
  · exact fun τ => by rw [hchannel]
  · exact fun τ => by rw [hchannel]
  · exact fun m => by rw [hlife]
  · exact fun m => by rw [hlife]
  · exact fun m => by rw [hlife]

omit [DecidableEq Node] [DecidableEq QueueId] [DecidableEq Thread] [DecidableEq TopicId] in
theorem trans (h : CountsKept s t) (h' : CountsKept t u) : CountsKept s u where
  topic τ := (h'.topic τ).trans (h.topic τ)
  published τ := (h'.published τ).trans (h.published τ)
  seen m := (h'.seen m).trans (h.seen m)
  subscription m := (h'.subscription m).trans (h.subscription m)
  received m := (h'.received m).trans (h.received m)

omit [DecidableEq Node] [DecidableEq QueueId] [DecidableEq Thread] in
theorem modifyChannel {τ : TopicId}
    {f : Channel Node QueueId Thread (Message τ) → Channel Node QueueId Thread (Message τ)}
    (htopic : (f (s.channel τ)).topic = (s.channel τ).topic)
    (hpublished : (f (s.channel τ)).published = (s.channel τ).published) :
    CountsKept s (s.modifyChannel τ f) := by
  refine ⟨?_, ?_, fun _ => rfl, fun _ => rfl, fun _ => rfl⟩
  · intro τ'
    by_cases hτ : τ' = τ
    · subst hτ
      rw [modifyChannel_self, htopic]
    · rw [modifyChannel_of_ne s hτ]
  · intro τ'
    by_cases hτ : τ' = τ
    · subst hτ
      rw [modifyChannel_self, hpublished]
    · rw [modifyChannel_of_ne s hτ]

omit [DecidableEq QueueId] [DecidableEq Thread] [DecidableEq TopicId] in
theorem modifyLife {m : Node} {f : QueuedModule Message → QueuedModule Message}
    (hseen : (f (s.life m)).seen = (s.life m).seen)
    (hsubscription : (f (s.life m)).subscription = (s.life m).subscription)
    (hreceived : (f (s.life m)).received = (s.life m).received) :
    CountsKept s (s.modifyLife m f) := by
  have hlife : ∀ m', (s.modifyLife m f).life m' = s.life m' ∨
      m' = m ∧ (s.modifyLife m f).life m' = f (s.life m) := by
    intro m'
    by_cases hm : m' = m
    · rw [hm]
      exact Or.inr ⟨rfl, modifyLife_self ..⟩
    · exact Or.inl (modifyLife_of_ne s hm f)
  refine ⟨fun _ => rfl, fun _ => rfl, fun m' => ?_, fun m' => ?_, fun m' => ?_⟩ <;>
    rcases hlife m' with heq | ⟨rfl, heq⟩ <;> rw [heq]
  · exact hseen
  · exact hsubscription
  · exact hreceived

omit [DecidableEq QueueId] [DecidableEq Thread] [DecidableEq TopicId] in
theorem setStage (m : Node) (stage : QueuedStage TopicId) : CountsKept s (s.setStage m stage) :=
  modifyLife rfl rfl rfl

omit [DecidableEq TopicId] in
theorem setPublisher (p : Publisher Node QueueId Thread) (stage : PublishStage Node TopicId) :
    CountsKept s (s.setPublisher p stage) := of_eq rfl rfl

omit [DecidableEq Thread] [DecidableEq TopicId] in
theorem queueStage {q : QueueId}
    {f : WorkQueue (ModuleObject Node) → WorkQueue (ModuleObject Node)} (m : Node)
    (stage : QueuedStage TopicId) : CountsKept s ((s.modifyQueue q f).setStage m stage) :=
  trans (t := s.modifyQueue q f) (of_eq rfl rfl) (setStage m stage)

omit [DecidableEq Thread] [DecidableEq TopicId] in
theorem test (w : Wiring Node QueueId Message) (m : Node) (starting : Bool) (deadline now : UInt64) :
    CountsKept s (s.test w m starting deadline now) := by
  unfold Runtime.test
  split
  · split
    · exact setStage _ _
    · exact setStage _ _
  · exact queueStage _ _

end CountsKept

namespace CountsSound

variable {s t : Runtime Node QueueId Thread Message}

omit [DecidableEq Node] [DecidableEq QueueId] [DecidableEq Thread] [DecidableEq TopicId] in
theorem of_kept (h : CountsSound s) (hkept : CountsKept s t) : CountsSound t := by
  refine ⟨?_, ?_, ?_, ?_, ?_⟩
  · intro τ
    rw [hkept.topic, hkept.published]
    exact h.generation τ
  · intro τ
    rw [hkept.topic, hkept.published]
    exact h.advertised τ
  · intro m τ
    rw [hkept.seen, hkept.published]
    exact h.seen_le m τ
  · intro m τ
    rw [hkept.subscription, hkept.seen]
    exact h.subscription m τ
  · intro m τ
    rw [hkept.seen, hkept.published, hkept.received, hkept.topic]
    exact h.received m τ

/-- After a publication nobody is up to date. -/
theorem store (h : CountsSound s) (p : Publisher Node QueueId Thread) (τ : TopicId)
    (message : Message τ) : CountsSound (s.store p τ message) := by
  refine ⟨?_, ?_, ?_, h.subscription, ?_⟩
  · intro τ'
    by_cases hτ : τ' = τ
    · subst hτ
      rw [store_self]
      show (s.channel τ').topic.generation + 1 = _
      rw [h.generation, UInt32.ofNat_add]
      rfl
    · rw [store_of_ne p hτ]
      exact h.generation τ'
  · intro τ'
    by_cases hτ : τ' = τ
    · subst hτ
      rw [store_self]
      exact ⟨fun _ => Nat.succ_ne_zero _, fun _ => rfl⟩
    · rw [store_of_ne p hτ]
      exact h.advertised τ'
  · intro m τ'
    have hle := h.seen_le m τ'
    by_cases hτ : τ' = τ
    · subst hτ
      rw [store_self]
      exact Nat.le_succ_of_le hle
    · rw [store_of_ne p hτ]
      exact hle
  · intro m τ' hseen
    have hle := h.seen_le m τ'
    by_cases hτ : τ' = τ
    · subst hτ
      rw [store_self] at hseen
      have hsucc : (s.life m).seen τ' = (s.channel τ').published + 1 := hseen
      omega
    · rw [store_of_ne p hτ] at hseen ⊢
      exact h.received m τ' hseen

omit [DecidableEq Node] [DecidableEq QueueId] [DecidableEq Thread] [DecidableEq TopicId] in
/-- A read in time brings the subscription up to date. -/
theorem reading (h : CountsSound s) (m : Node) (τ : TopicId)
    (htime : (s.channel τ).published < (s.life m).seen τ + 2 ^ 32) :
    let reading := ((s.life m).subscription τ).update (s.channel τ).topic ((s.life m).received τ)
    reading.subscription = ⟨UInt32.ofNat (s.channel τ).published⟩ ∧
      ((s.channel τ).published ≠ 0 → reading.message = (s.channel τ).topic.message) := by
  have hupdate := Topic.update_of_counts (h.generation τ) (h.advertised τ) (h.seen_le m τ) htime
  rw [h.subscription m τ]
  unfold Subscription.update
  rw [hupdate]
  by_cases hseen : (s.life m).seen τ = (s.channel τ).published
  · rw [if_pos hseen, hseen]
    exact ⟨rfl, h.received m τ hseen⟩
  · rw [if_neg hseen]
    refine ⟨?_, fun _ => rfl⟩
    rw [h.generation τ]

omit [DecidableEq Thread] in
theorem update (h : CountsSound s) (q : QueueId) (o : ModuleObject Node) (τ : TopicId)
    (rest : List (RunOp TopicId))
    (htime : (s.channel τ).published < (s.life o.node).seen τ + 2 ^ 32) :
    CountsSound (s.update q o τ rest) := by
  obtain ⟨hsubscription, hmessage⟩ := h.reading o.node τ htime
  have hother : ∀ m, m ≠ o.node → (s.update q o τ rest).life m = s.life m :=
    fun m hm => update_life_of_ne q hm τ rest s
  refine ⟨h.generation, h.advertised, ?_, ?_, ?_⟩ <;> intro m τ'
  · by_cases hm : m = o.node
    · rw [hm, update_life_self]
      show Function.update (s.life o.node).seen τ (s.channel τ).published τ' ≤ (s.channel τ').published
      by_cases hτ : τ' = τ
      · rw [hτ, Function.update_self]
      · rw [Function.update_of_ne hτ]
        exact h.seen_le o.node τ'
    · rw [hother m hm]
      exact h.seen_le m τ'
  · by_cases hm : m = o.node
    · rw [hm, update_life_self]
      show Function.update (s.life o.node).subscription τ _ τ' =
        ⟨UInt32.ofNat (Function.update (s.life o.node).seen τ (s.channel τ).published τ')⟩
      by_cases hτ : τ' = τ
      · rw [hτ, Function.update_self, Function.update_self]
        exact hsubscription
      · rw [Function.update_of_ne hτ, Function.update_of_ne hτ]
        exact h.subscription o.node τ'
    · rw [hother m hm]
      exact h.subscription m τ'
  · by_cases hm : m = o.node
    · rw [hm, update_life_self]
      show Function.update (s.life o.node).seen τ (s.channel τ).published τ' = _ → _ →
        Function.update (s.life o.node).received τ _ τ' = (s.channel τ').topic.message
      by_cases hτ : τ' = τ
      · subst hτ
        rw [Function.update_self, Function.update_self]
        exact fun _ => hmessage
      · rw [Function.update_of_ne hτ, Function.update_of_ne hτ]
        exact h.received o.node τ'
    · rw [hother m hm]
      exact h.received m τ'

omit [DecidableEq QueueId] [DecidableEq Thread] [DecidableEq TopicId] in
/-- A new object has read nothing. -/
theorem start (h : CountsSound s) (w : Wiring Node QueueId Message) (m : Node) (instantiated : Bool) :
    CountsSound (s.start w m instantiated) := by
  unfold Runtime.start
  split
  · exact h
  · refine ⟨h.generation, h.advertised, ?_, ?_, ?_⟩ <;> intro m' τ <;> by_cases hm : m' = m
    · rw [hm, modifyLife_self]
      exact Nat.zero_le _
    · rw [modifyLife_of_ne s hm]
      exact h.seen_le m' τ
    · rw [hm, modifyLife_self]
      rfl
    · rw [modifyLife_of_ne s hm]
      exact h.subscription m' τ
    · rw [hm, modifyLife_self]
      intro hzero hne
      exact absurd hzero.symm hne
    · rw [modifyLife_of_ne s hm]
      exact h.received m' τ

end CountsSound

theorem next_countsSound (w : Wiring Node QueueId Message) {s : Runtime Node QueueId Thread Message}
    {a : RuntimeAction Node QueueId Thread Message} (hs : CountsSound s) (htime : s.ReadsInTime a) :
    CountsSound (s.next w a) := by
  cases a with
  | publish thread τ message => exact hs.store _ τ message
  | lockCallbacks p τ =>
      show CountsSound (s.lockCallbacks p τ)
      unfold lockCallbacks
      exact hs.of_kept (.trans (.modifyChannel rfl rfl) (.setPublisher _ _))
  | visit p τ slot => exact hs.of_kept (.of_eq rfl rfl)
  | call p τ slot o now => exact hs.of_kept (.of_eq rfl rfl)
  | unlockCallbacks p τ slot =>
      show CountsSound (s.unlockCallbacks p τ)
      unfold unlockCallbacks
      exact hs.of_kept (.trans (.modifyChannel rfl rfl) (.setPublisher _ _))
  | initQueue q spawned => exact hs.of_kept (.of_eq rfl rfl)
  | scan q now =>
      show CountsSound (s.scan w q now)
      unfold scan
      split
      · exact hs.of_kept (.of_eq rfl rfl)
      · exact hs.of_kept (.of_eq rfl rfl)
  | wake q => exact hs.of_kept (.of_eq rfl rfl)
  | update q o τ rest => exact hs.update q o τ rest htime
  | runPublish q o τ rest message =>
      exact (hs.store (.worker q) τ message).of_kept (.of_eq rfl rfl)
  | skip q o τ rest => exact hs.of_kept (.of_eq rfl rfl)
  | finish q o => exact hs.of_kept (.of_eq rfl rfl)
  | start m instantiated => exact hs.start w m instantiated
  | startQueue m spawned =>
      show CountsSound (s.startQueue w m spawned)
      unfold startQueue
      exact hs.of_kept (.queueStage _ _)
  | attach m =>
      show CountsSound (s.attach w m)
      unfold attach
      exact hs.of_kept (.queueStage _ _)
  | register m τ rest =>
      show CountsSound (s.register w m τ rest)
      unfold register
      exact hs.of_kept (.trans (.modifyChannel rfl rfl) (.modifyLife rfl rfl rfl))
  | publishObject m => exact hs.of_kept (.setStage _ _)
  | scheduleOnInterval m now =>
      show CountsSound (s.scheduleOnInterval w m now)
      unfold scheduleOnInterval
      exact hs.of_kept (.queueStage _ _)
  | scheduleNow m now =>
      show CountsSound (s.scheduleNow w m now)
      unfold scheduleNow
      exact hs.of_kept (.queueStage _ _)
  | stop m =>
      show CountsSound (s.stop w m)
      unfold stop
      split
      · exact hs
      · split
        · exact hs.of_kept (.setStage _ _)
        · exact hs.of_kept (.modifyLife rfl rfl rfl)
  | unregister m starting τ rest =>
      show CountsSound (s.unregister m starting τ rest)
      unfold unregister
      -- an unregistration changes the callbacks only, whether it happens or not
      refine hs.of_kept (.trans (.modifyChannel ?_ ?_) (.modifyLife rfl rfl rfl)) <;> split <;> rfl
  | detach m starting now now' =>
      show CountsSound (s.detach w m starting now now')
      unfold detach
      split
      · exact hs.of_kept (.trans (t := s.modifyQueue _ _) (.of_eq rfl rfl) (.test w m _ _ _))
      · exact hs.of_kept (.setStage _ _)
  | test m starting deadline now => exact hs.of_kept (.test w m _ _ _)
  | halt m now => exact hs.of_kept (.setStage _ _)
  | signOff m now index =>
      show CountsSound (s.signOff w m now index)
      unfold signOff
      split
      · exact (hs.store _ _ _).of_kept (.setStage _ _)
      · exact hs
  | delete m now index =>
      show CountsSound (s.delete m)
      unfold delete
      exact hs.of_kept (.modifyLife rfl rfl rfl)

theorem reachable_counts {w : Wiring Node QueueId Message} {s : Runtime Node QueueId Thread Message}
    (h : ((system Thread w).restrict ReadsInTime).Reachable s) : CountsSound s := by
  refine h.invariant CountsSound ?_ ?_
  · rintro _ rfl
    refine ⟨fun _ => rfl, fun _ => ⟨nofun, fun hne => absurd rfl hne⟩, fun _ _ => Nat.le_refl _,
      fun _ _ => rfl, fun _ _ _ hne => absurd rfl hne⟩
  · rintro s a _ _ hs ⟨htime, -, rfl⟩
    exact next_countsSound w hs htime

/-- A run given by its labels. -/
theorem reachable_run {w : Wiring Node QueueId Message}
    (as : List (RuntimeAction Node QueueId Thread Message))
    (has : Transition.Along (fun s a => s.ReadsInTime a ∧ s.Enabled w a) (next w) (initial w) as) :
    ((system Thread w).restrict ReadsInTime).Reachable (as.foldl (next w) (initial w)) := by
  have hreachable : ∀ s : Runtime Node QueueId Thread Message,
      ((Transition.ofFun (· = initial w) (next w)).restrict
        (fun s a => s.ReadsInTime a ∧ s.Enabled w a)).Reachable s →
      ((system Thread w).restrict ReadsInTime).Reachable s := by
    intro s h
    induction h with
    | start h0 => exact .start h0
    | next _ hstep ih =>
        obtain ⟨⟨htime, henabled⟩, hnext⟩ := hstep
        exact .next ih ⟨htime, henabled, hnext⟩
  exact hreachable _ (Transition.Reachable.foldl_restrict (.start rfl) has)

end Runtime

end DualMagneticWheel
