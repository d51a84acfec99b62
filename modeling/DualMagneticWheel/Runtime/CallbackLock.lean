/-
# DualMagneticWheel.Runtime.CallbackLock — the pointer between the slot and the call

A publisher goes over the slots of its topic, reads the pointer in a slot and calls it. The pointer is
good as long as the slot holds it, and the slot holds it because registering and unregistering wait for
the lock that the publisher keeps until its loop ends.
-/
import DualMagneticWheel.Runtime.StepFrames

namespace DualMagneticWheel

open Foundation

variable {Node QueueId Thread TopicId : Type} {Message : TopicId → Type}
variable [DecidableEq Node] [DecidableEq QueueId] [DecidableEq Thread] [DecidableEq TopicId]

/-! ## The lock of the slots -/

/-- The topic whose slots a publisher has locked. -/
def PublishStage.held : PublishStage Node TopicId → Option TopicId
  | .looping τ _ | .calling τ _ _ => some τ
  | _ => none

namespace Runtime

/-- Each lock is held by the publisher that goes over the slots, and the pointer it has read is still in
its slot. -/
structure LocksSound (s : Runtime Node QueueId Thread Message) : Prop where
  holder : ∀ p τ, (s.channel τ).lock = some p ↔ (s.publisher p).held = some τ
  target : ∀ p τ slot o, s.publisher p = .calling τ slot o → (s.channel τ).callbacks.At slot o

namespace LocksSound

variable {s t : Runtime Node QueueId Thread Message}

omit [DecidableEq Node] [DecidableEq QueueId] [DecidableEq Thread] [DecidableEq TopicId] in
/-- The publishers and the locks stay as they are; slots change where nobody holds the lock. -/
theorem of_slots (h : LocksSound s) (hpublisher : t.publisher = s.publisher)
    (hlock : ∀ τ, (t.channel τ).lock = (s.channel τ).lock)
    (hslots : ∀ τ, (s.channel τ).lock ≠ none → (t.channel τ).callbacks = (s.channel τ).callbacks) :
    LocksSound t := by
  refine ⟨?_, ?_⟩
  · intro p τ
    rw [hlock, hpublisher]
    exact h.holder p τ
  · intro p τ slot o hcalling
    rw [hpublisher] at hcalling
    have hheld : (s.channel τ).lock = some p := (h.holder p τ).mpr (by rw [hcalling]; rfl)
    rw [hslots τ (by rw [hheld]; exact Option.some_ne_none p)]
    exact h.target p τ slot o hcalling

omit [DecidableEq TopicId] in
/-- A publisher moves on without taking or giving back a lock. -/
theorem setPublisher (h : LocksSound s) {p : Publisher Node QueueId Thread}
    {stage : PublishStage Node TopicId} (hheld : stage.held = (s.publisher p).held)
    (htarget : ∀ τ slot o, stage = .calling τ slot o → (s.channel τ).callbacks.At slot o) :
    LocksSound (s.setPublisher p stage) := by
  refine ⟨?_, ?_⟩
  · intro p' τ
    by_cases hp : p' = p
    · rw [hp, setPublisher_self, hheld]
      exact h.holder p τ
    · rw [setPublisher_of_ne s hp]
      exact h.holder p' τ
  · intro p' τ slot o hcalling
    by_cases hp : p' = p
    · rw [hp, setPublisher_self] at hcalling
      exact htarget τ slot o hcalling
    · rw [setPublisher_of_ne s hp] at hcalling
      exact h.target p' τ slot o hcalling

/-- A publisher takes or gives back the lock of a topic. -/
theorem setLock (h : LocksSound s) {p : Publisher Node QueueId Thread} {τ : TopicId}
    {lock : Option (Publisher Node QueueId Thread)} {stage : PublishStage Node TopicId}
    (hheld : ∀ τ', τ' ≠ τ → (s.publisher p).held ≠ some τ' ∧ stage.held ≠ some τ')
    (hself : lock = some p ↔ stage.held = some τ)
    (hfree : ∀ p', p' ≠ p → (s.publisher p').held ≠ some τ ∧ lock ≠ some p')
    (htarget : ∀ τ' slot o, stage ≠ .calling τ' slot o) :
    LocksSound ((s.modifyChannel τ ({ · with lock })).setPublisher p stage) := by
  refine ⟨?_, ?_⟩
  · intro p' τ'
    show ((s.modifyChannel τ ({ · with lock })).channel τ').lock = some p' ↔ _
    by_cases hτ : τ' = τ
    · subst hτ
      rw [modifyChannel_self]
      by_cases hp : p' = p
      · rw [hp, setPublisher_self]
        exact hself
      · rw [setPublisher_of_ne _ hp]
        exact ⟨fun hlock => absurd hlock (hfree p' hp).2, fun hother => absurd hother (hfree p' hp).1⟩
    · rw [modifyChannel_of_ne s hτ]
      by_cases hp : p' = p
      · rw [hp, setPublisher_self, h.holder p τ']
        exact ⟨fun hold => absurd hold (hheld τ' hτ).1, fun hnew => absurd hnew (hheld τ' hτ).2⟩
      · rw [setPublisher_of_ne _ hp]
        exact h.holder p' τ'
  · intro p' τ' slot o hcalling
    have hslots : ((s.modifyChannel τ ({ · with lock })).channel τ').callbacks =
        (s.channel τ').callbacks := by
      by_cases hτ : τ' = τ
      · subst hτ
        rw [modifyChannel_self]
      · rw [modifyChannel_of_ne s hτ]
    show ((s.modifyChannel τ ({ · with lock })).channel τ').callbacks.At slot o
    rw [hslots]
    by_cases hp : p' = p
    · rw [hp, setPublisher_self] at hcalling
      exact absurd hcalling (htarget τ' slot o)
    · rw [setPublisher_of_ne _ hp] at hcalling
      exact h.target p' τ' slot o hcalling

omit [DecidableEq Node] [DecidableEq QueueId] [DecidableEq Thread] in
/-- A change of the slots of a topic whose lock is free. -/
theorem modifySlots (h : LocksSound s) {τ : TopicId}
    {f : Channel Node QueueId Thread (Message τ) → Channel Node QueueId Thread (Message τ)}
    (hlock : (f (s.channel τ)).lock = (s.channel τ).lock)
    (hslots : (s.channel τ).lock ≠ none → (f (s.channel τ)).callbacks = (s.channel τ).callbacks) :
    LocksSound (s.modifyChannel τ f) := by
  refine h.of_slots rfl ?_ ?_
  · intro τ'
    by_cases hτ : τ' = τ
    · subst hτ
      rw [modifyChannel_self]
      exact hlock
    · rw [modifyChannel_of_ne s hτ]
  · intro τ' hheld
    by_cases hτ : τ' = τ
    · subst hτ
      rw [modifyChannel_self]
      exact hslots hheld
    · rw [modifyChannel_of_ne s hτ]

/-- The message is stored by a publisher that holds no lock. -/
theorem store (h : LocksSound s) {p : Publisher Node QueueId Thread} (hidle : s.publisher p = .idle)
    (τ : TopicId) (message : Message τ) : LocksSound (s.store p τ message) := by
  refine (h.modifySlots rfl fun _ => rfl).setPublisher ?_ nofun
  show _ = (s.publisher p).held
  rw [hidle]
  rfl

end LocksSound

omit [DecidableEq Thread] [DecidableEq TopicId] in
theorem test_locks {w : Wiring Node QueueId Message} {s : Runtime Node QueueId Thread Message}
    (h : LocksSound s) (m : Node) (starting : Bool) (deadline now : UInt64) :
    LocksSound (s.test w m starting deadline now) := by
  unfold test
  split
  · split
    · exact h.of_slots rfl (fun _ => rfl) fun _ _ => rfl
    · exact h.of_slots rfl (fun _ => rfl) fun _ _ => rfl
  · exact h.of_slots rfl (fun _ => rfl) fun _ _ => rfl

theorem next_locksSound {w : Wiring Node QueueId Message} {s : Runtime Node QueueId Thread Message}
    {a : RuntimeAction Node QueueId Thread Message} (hs : LocksSound s) (h : s.Enabled w a) :
    LocksSound (s.next w a) := by
  -- most actions touch neither a publisher nor a channel
  have hsame : ∀ {t : Runtime Node QueueId Thread Message}, t.publisher = s.publisher →
      t.channel = s.channel → LocksSound t := by
    intro t hpublisher hchannel
    refine hs.of_slots hpublisher ?_ ?_
    · intro τ
      rw [hchannel]
    · intro τ _
      rw [hchannel]
  cases a with
  | publish thread τ message => exact hs.store h.2 τ message
  | lockCallbacks p τ =>
      obtain ⟨hstored, hfree⟩ := h
      refine hs.setLock ?_ ⟨fun _ => rfl, fun _ => rfl⟩ ?_ nofun
      · intro τ' hne
        rw [hstored]
        exact ⟨nofun, fun heq => hne (Option.some.inj heq).symm⟩
      · intro p' hne
        refine ⟨?_, fun heq => hne (Option.some.inj heq).symm⟩
        rw [Ne, ← hs.holder, hfree]
        exact nofun
  | visit p τ slot =>
      refine hs.setPublisher ?_ ?_
      · rw [h.1]
        split <;> rfl
      · intro τ' slot' o hcalling
        split at hcalling
        · rename_i o' hslot
          cases hcalling
          exact hslot
        · cases hcalling
  | call p τ slot o now =>
      have hcalling : s.publisher p = .calling τ slot o := h
      refine (hsame (t := s.modifyQueue _ _) rfl rfl).setPublisher ?_ nofun
      show _ = (s.publisher p).held
      rw [hcalling]
      rfl
  | unlockCallbacks p τ slot =>
      obtain ⟨hlooping, -⟩ := h
      have hlock : (s.channel τ).lock = some p := (hs.holder p τ).mpr (by rw [hlooping]; rfl)
      refine hs.setLock ?_ ⟨nofun, nofun⟩ ?_ nofun
      · intro τ' hne
        rw [hlooping]
        exact ⟨fun heq => hne (Option.some.inj heq).symm, nofun⟩
      · intro p' hne
        refine ⟨?_, nofun⟩
        rw [Ne, ← hs.holder, hlock]
        exact fun heq => hne (Option.some.inj heq).symm
  | initQueue q spawned => exact hsame rfl rfl
  | scan q now =>
      show LocksSound (s.scan w q now)
      unfold scan
      split
      · exact hsame rfl rfl
      · exact hsame rfl rfl
  | wake q => exact hsame rfl rfl
  | update q o τ rest => exact hsame rfl rfl
  | runPublish q o τ rest message =>
      exact (hs.store h.2.2 τ message).of_slots rfl (fun _ => rfl) fun _ _ => rfl
  | skip q o τ rest => exact hsame rfl rfl
  | finish q o => exact hsame rfl rfl
  | start m instantiated =>
      show LocksSound (s.start w m instantiated)
      unfold start
      split
      · exact hs
      · exact hsame rfl rfl
  | startQueue m spawned => exact hsame rfl rfl
  | attach m => exact hsame rfl rfl
  | register m τ rest =>
      have hslots := hs.modifySlots (τ := τ)
        (f := ({ · with
          callbacks := (registerCallback (s.object m) ((s.life m).registered τ)
            (s.channel τ).callbacks).2 }))
        rfl fun hheld => absurd h.2 hheld
      exact hslots.of_slots rfl (fun _ => rfl) fun _ _ => rfl
  | publishObject m => exact hsame rfl rfl
  | scheduleOnInterval m now => exact hsame rfl rfl
  | scheduleNow m now => exact hsame rfl rfl
  | stop m =>
      show LocksSound (s.stop w m)
      unfold stop
      split
      · exact hs
      · split
        · exact hsame rfl rfl
        · exact hsame rfl rfl
  | unregister m starting τ rest =>
      show LocksSound (s.unregister m starting τ rest)
      unfold unregister
      refine (hs.modifySlots ?_ ?_).of_slots rfl (fun _ => rfl) fun _ _ => rfl
      · split
        · rfl
        · rfl
      · intro hheld
        split
        · rename_i hregistered
          exact absurd (h.2 hregistered) hheld
        · rfl
  | detach m starting now now' =>
      show LocksSound (s.detach w m starting now now')
      unfold detach
      split
      · exact test_locks (hsame (t := s.modifyQueue _ _) rfl rfl) m _ _ _
      · exact hsame rfl rfl
  | test m starting deadline now => exact test_locks hs m _ _ _
  | halt m now => exact hsame rfl rfl
  | signOff m now index =>
      show LocksSound (s.signOff w m now index)
      unfold signOff
      split
      · rename_i τ message _
        exact (hs.store h.2.2 τ message).of_slots rfl (fun _ => rfl) fun _ _ => rfl
      · exact hs
  | delete m now index => exact hsame rfl rfl

/-! ## One slot for each callback -/

theorem reachable_once {w : Wiring Node QueueId Message} {s : Runtime Node QueueId Thread Message}
    (h : (system Thread w).Reachable s) : ∀ τ, (s.channel τ).callbacks.Once := by
  refine h.invariant (fun s => ∀ τ, (s.channel τ).callbacks.Once) ?_ ?_
  · rintro _ rfl τ
    exact CallbackTable.once_empty
  · rintro s a _ _ hs ⟨-, rfl⟩ τ
    exact (next_channel w s a τ).once (hs τ)

end Runtime

end DualMagneticWheel
