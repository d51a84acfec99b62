/-
# DualMagneticWheel.WorkQueue.Shutdown — starting and ending the worker of a queue

`QueueSystem` is a queue whose worker never leaves. Here the worker ends when `Shutdown` asks it to, and
`Start`, `Attach` and `Shutdown` may be entered by any number of threads, in the variant with a task of
its own for the worker. `Attach` takes the mutex twice, with anything in between; `Shutdown` waits until
it finds `_workerExited` set, which a later `Start` may have taken back.

Whatever the interleaving there is one worker at most, a `Shutdown` that returns true leaves a queue
without a worker and without an item, and the worker that is asked to leave has nothing to run and is not
asleep (`shutdown_clean`). An attached item always has a worker as long as no worker could not be created
(`attached_served`); one failed creation is enough to lose it (`orphan_reachable`).
-/
import DualMagneticWheel.WorkQueue.QueueSystem

namespace DualMagneticWheel

open Foundation

/-- A queue with its life: `alive` is whether the worker created last is still in its loop. -/
structure QueueLife (Thread Item : Type) where
  state : QueueState Thread Item := {}
  workerExited : Bool := false
  alive : Bool := false
  /-- The threads inside `Attach`, after its call of `Start`. -/
  attaching : Thread → Option (Item × UInt64) := fun _ => none
  /-- The threads that wait inside `Shutdown`. -/
  stopping : Thread → Bool := fun _ => false
  /-- Workers that have left, and workers that could not be created. -/
  exits : Nat := 0
  failures : Nat := 0

/-- The critical sections. -/
inductive QueueLife.Action (Thread Item : Type) where
  /-- Any other section of the threads and of a worker that is alive. -/
  | item (a : QueueAction Thread Item)
  | start (spawned : Bool)
  | attachStart (thread : Thread) (i : Item) (minimumIntervalUs : UInt64) (spawned : Bool)
  | attach (thread : Thread)
  | shutdown (thread : Thread)
  /-- A thread inside `Shutdown` looks at `_workerExited`. -/
  | resume (thread : Thread)
  /-- The worker leaves its loop. -/
  | leave

/-- Sections that are modelled here. -/
def QueueAction.isLife {Thread Item : Type} : QueueAction Thread Item → Bool
  | .start _ => true
  | .attach _ _ => true
  | _ => false

/-- Sections of the worker. -/
def QueueAction.isWorker {Thread Item : Type} : QueueAction Thread Item → Bool
  | .scan _ => true
  | .wake => true
  | .finish _ => true
  | _ => false

namespace QueueLife

variable {Thread Item : Type} [DecidableEq Thread] [DecidableEq Item]

/-- `WorkQueue::Start`. A new worker begins at the head of its loop. -/
def start (spawned : Bool) (s : QueueLife Thread Item) : QueueLife Thread Item :=
  if s.state.queue.started then s
  else
    { s with
      state := s.state.next (.start spawned)
      workerExited := false
      alive := spawned
      failures := if spawned then s.failures else s.failures + 1 }

/-- The first part of `WorkQueue::Attach`. -/
def attachStart (thread : Thread) (i : Item) (minimumIntervalUs : UInt64) (spawned : Bool)
    (s : QueueLife Thread Item) : QueueLife Thread Item :=
  if (s.start spawned).state.queue.started then
    { s.start spawned with attaching := Function.update s.attaching thread (some (i, minimumIntervalUs)) }
  else s.start spawned

/-- The second part. -/
def attach (thread : Thread) (s : QueueLife Thread Item) : QueueLife Thread Item :=
  match s.attaching thread with
  | some (i, minimumIntervalUs) =>
      { s with
        state := s.state.next (.attach i minimumIntervalUs)
        attaching := Function.update s.attaching thread none }
  | none => s

/-- What `WorkQueue::Shutdown` returns at once; `none` where it waits. -/
def returnsAtOnce (s : QueueLife Thread Item) : Option Bool :=
  if s.state.queue.items ≠ [] then some false
  else if !s.state.queue.started then some true
  else none

/-- `WorkQueue::Shutdown` up to its wait. -/
def shutdown (thread : Thread) (s : QueueLife Thread Item) : QueueLife Thread Item :=
  if s.returnsAtOnce.isSome then s
  else
    { s with
      state := { s.state with queue := { s.state.queue with exit := true }.broadcast }
      stopping := Function.update s.stopping thread true }

/-- One look at `_workerExited`: the thread returns true or waits on. -/
def resume (thread : Thread) (s : QueueLife Thread Item) : QueueLife Thread Item :=
  if s.workerExited then
    { s with
      state := { s.state with queue := { s.state.queue with started := false } }
      stopping := Function.update s.stopping thread false }
  else s

/-- The end of `WorkQueue::Loop`. -/
def leave (s : QueueLife Thread Item) : QueueLife Thread Item :=
  { s with workerExited := true, alive := false, exits := s.exits + 1 }

/-- The sections that the mutex and the position of each thread permit. -/
def Enabled (s : QueueLife Thread Item) : Action Thread Item → Prop
  | .item a => s.state.Enabled a ∧ a.isLife = false ∧ (a.isWorker = true → s.alive = true)
  | .start _ => s.state.locked = none
  | .attachStart thread _ _ _ =>
      s.state.locked = none ∧ s.attaching thread = none ∧ s.stopping thread = false
  | .attach thread => s.state.locked = none ∧ s.attaching thread ≠ none
  | .shutdown thread => s.state.locked = none ∧ s.attaching thread = none ∧ s.stopping thread = false
  | .resume thread => s.state.locked = none ∧ s.stopping thread = true
  | .leave => s.state.locked = none ∧ s.alive = true ∧ s.state.queue.worker = .scanning ∧
      s.state.queue.exit = true

instance (s : QueueLife Thread Item) : (a : Action Thread Item) → Decidable (s.Enabled a)
  | .item _ => inferInstanceAs (Decidable (_ ∧ _ ∧ (_ → _)))
  | .start _ => inferInstanceAs (Decidable (s.state.locked = none))
  | .attachStart _ _ _ _ => inferInstanceAs (Decidable (_ ∧ _ ∧ _))
  | .attach _ => inferInstanceAs (Decidable (_ ∧ _))
  | .shutdown _ => inferInstanceAs (Decidable (_ ∧ _ ∧ _))
  | .resume _ => inferInstanceAs (Decidable (_ ∧ _))
  | .leave => inferInstanceAs (Decidable (_ ∧ _ ∧ _ ∧ _))

def next (s : QueueLife Thread Item) : Action Thread Item → QueueLife Thread Item
  | .item a => { s with state := s.state.next a }
  | .start spawned => s.start spawned
  | .attachStart thread i minimumIntervalUs spawned => s.attachStart thread i minimumIntervalUs spawned
  | .attach thread => s.attach thread
  | .shutdown thread => s.shutdown thread
  | .resume thread => s.resume thread
  | .leave => s.leave

/-- All runs, from a queue that was never started. -/
def system (Thread Item : Type) [DecidableEq Thread] [DecidableEq Item] :
    Transition (QueueLife Thread Item) (Action Thread Item) :=
  (Transition.ofFun (fun s => ∃ clock, s = { state := { clock } }) next).restrict Enabled

/-! ## What the other sections leave alone -/

/-- What a section of the threads and the worker does to the fields that matter here: the list does not
grow, and a worker that is to leave is not put to sleep without a signal. -/
structure Steady (q q' : WorkQueue Item) : Prop where
  started : q'.started = q.started
  exit : q'.exit = q.exit
  items : ∀ i ∈ q'.items, i ∈ q.items
  worker : (∃ wake, q'.worker = .waiting wake false) → q.exit = false ∨ q'.worker = q.worker

omit [DecidableEq Item] in
theorem broadcast_steady (q : WorkQueue Item) : Steady q q.broadcast := by
  unfold WorkQueue.broadcast
  split
  · exact ⟨rfl, rfl, fun _ hi => hi, fun hw => by obtain ⟨wake, hw⟩ := hw; cases hw⟩
  · exact ⟨rfl, rfl, fun _ hi => hi, fun _ => Or.inr rfl⟩

theorem next_steady (s : QueueState Thread Item) (a : QueueAction Thread Item) (ha : s.Enabled a)
    (hlife : a.isLife = false) : Steady s.queue (s.next a).queue ∧ (s.next a).workers = s.workers := by
  have hsame : Steady s.queue s.queue := ⟨rfl, rfl, fun _ hi => hi, fun _ => Or.inr rfl⟩
  have hmodify : ∀ i change, Steady s.queue (s.queue.modify i change).broadcast := by
    intro i change
    have hq := broadcast_steady (s.queue.modify i change)
    exact ⟨hq.started, hq.exit, hq.items, hq.worker⟩
  cases a with
  | start spawned => cases hlife
  | attach i m => cases hlife
  | schedule i now delayUs =>
      simp only [QueueState.next]
      split
      · rename_i henabled
        refine ⟨?_, rfl⟩
        show Steady s.queue (s.queue.schedule i now delayUs)
        unfold WorkQueue.schedule
        rw [if_pos henabled]
        exact hmodify i _
      · exact ⟨hsame, rfl⟩
  | setInterval i now intervalUs =>
      simp only [QueueState.next]
      split
      · rename_i hopen
        refine ⟨?_, rfl⟩
        show Steady s.queue (s.queue.setInterval i now intervalUs)
        unfold WorkQueue.setInterval
        rw [if_pos hopen]
        exact hmodify i _
      · exact ⟨hsame, rfl⟩
  | clear i => exact ⟨hmodify i _, rfl⟩
  | detach thread i now timeoutMs =>
      simp only [QueueState.next, QueueState.detach]
      split
      · exact ⟨hmodify i _, rfl⟩
      · exact ⟨hsame, rfl⟩
  | test thread now =>
      simp only [QueueState.next]
      split
      · rename_i i deadline _
        unfold QueueState.test
        split
        · split
          · exact ⟨hsame, rfl⟩
          · exact ⟨hsame, rfl⟩
        · exact ⟨⟨rfl, rfl, fun _ hj => List.mem_of_mem_erase hj, fun _ => Or.inr rfl⟩, rfl⟩
      · exact ⟨hsame, rfl⟩
  | scan now =>
      have hscan : Steady s.queue (s.queue.scan now) := by
        unfold WorkQueue.scan
        split
        · exact ⟨rfl, rfl, fun _ hi => hi, fun _ => Or.inl ha.2.2.1⟩
        · exact ⟨rfl, rfl, fun _ hi => hi, fun _ => Or.inl ha.2.2.1⟩
      simp only [QueueState.next]
      split
      · exact ⟨hscan, rfl⟩
      · exact ⟨hscan, rfl⟩
  | wake => exact ⟨⟨rfl, rfl, fun _ hi => hi, fun hw => by obtain ⟨wake, hw⟩ := hw; cases hw⟩, rfl⟩
  | finish i => exact ⟨⟨rfl, rfl, fun _ hi => hi, fun hw => by obtain ⟨wake, hw⟩ := hw; cases hw⟩, rfl⟩

omit [DecidableEq Item] in
theorem broadcast_scanning {q : WorkQueue Item} (h : q.worker = .scanning) : q.broadcast.worker = .scanning := by
  unfold WorkQueue.broadcast
  split
  · rename_i wake signalled hwaiting
    cases h.symm.trans hwaiting
  · exact h

/-- A section of the threads leaves a worker at the head of its loop where it is. -/
theorem next_scanning {s : QueueState Thread Item} {a : QueueAction Thread Item} (hlife : a.isLife = false)
    (hthread : a.isWorker = false) (h : s.queue.worker = .scanning) :
    (s.next a).queue.worker = .scanning := by
  cases a with
  | start spawned => cases hlife
  | attach i m => cases hlife
  | schedule i now delayUs =>
      simp only [QueueState.next]
      split
      · rename_i henabled
        show (s.queue.schedule i now delayUs).worker = .scanning
        unfold WorkQueue.schedule
        rw [if_pos henabled]
        exact broadcast_scanning h
      · exact h
  | setInterval i now intervalUs =>
      simp only [QueueState.next]
      split
      · rename_i hopen
        show (s.queue.setInterval i now intervalUs).worker = .scanning
        unfold WorkQueue.setInterval
        rw [if_pos hopen]
        exact broadcast_scanning h
      · exact h
  | clear i => exact broadcast_scanning (q := s.queue.modify i (·.clear)) h
  | detach thread i now timeoutMs =>
      simp only [QueueState.next, QueueState.detach]
      split
      · exact broadcast_scanning (q := s.queue.modify i (·.disable)) h
      · exact h
  | test thread now =>
      simp only [QueueState.next]
      split
      · rename_i i deadline _
        unfold QueueState.test
        split
        · split
          · exact h
          · exact h
        · exact h
      · exact h
  | scan now => cases hthread
  | wake => cases hthread
  | finish i => cases hthread

/-! ## The invariant -/

/-- What holds whenever the mutex is free. -/
structure Sane (s : QueueLife Thread Item) : Prop where
  sound : s.state.queue.Sound
  alive : s.alive = true ↔ s.state.queue.started = true ∧ s.workerExited = false
  exited : s.workerExited = true → s.state.queue.exit = true
  empty : s.state.queue.exit = true → s.state.queue.items = []
  parked : s.alive = false → s.state.queue.worker = .scanning
  awake : s.state.queue.exit = true → ∀ wake, s.state.queue.worker ≠ .waiting wake false
  workers : s.state.workers = s.exits + if s.alive then 1 else 0

omit [DecidableEq Thread] [DecidableEq Item] in
theorem initial_sane (clock : UInt64) : Sane ({ state := { clock } } : QueueLife Thread Item) where
  sound := WorkQueue.sound_empty
  alive := ⟨nofun, fun h => nomatch h.1⟩
  exited := nofun
  empty := nofun
  parked _ := rfl
  awake := nofun
  workers := rfl

theorem start_sane {s : QueueLife Thread Item} (h : Sane s) (spawned : Bool) : Sane (s.start spawned) := by
  unfold start
  split
  · exact h
  · rename_i hstarted
    have hdead : s.alive = false := by
      rw [← Bool.not_eq_true, h.alive]
      exact fun halive => hstarted halive.1
    have hqueue : (s.state.next (.start spawned)).queue =
        { s.state.queue with exit := false, started := spawned } := by
      show (s.state.queue.start spawned).2 = _
      unfold WorkQueue.start
      rw [if_neg hstarted]
    refine ⟨?_, ?_, nofun, ?_, fun _ => ?_, ?_, ?_⟩
    · show (s.state.next (.start spawned)).queue.Sound
      rw [hqueue]
      exact ⟨h.sound.nodup, h.sound.flags⟩
    · show spawned = true ↔ (s.state.next (.start spawned)).queue.started = true ∧ false = false
      rw [hqueue]
      exact ⟨fun hs => ⟨hs, rfl⟩, fun hs => hs.1⟩
    · show (s.state.next (.start spawned)).queue.exit = true → _
      rw [hqueue]
      exact nofun
    · show (s.state.next (.start spawned)).queue.worker = _
      rw [hqueue]
      exact h.parked hdead
    · show (s.state.next (.start spawned)).queue.exit = true → _
      rw [hqueue]
      exact nofun
    · show (if !s.state.queue.started && spawned then s.state.workers + 1 else s.state.workers) =
        s.exits + if spawned then 1 else 0
      rw [Bool.not_eq_true] at hstarted
      rw [hstarted, h.workers, hdead]
      cases spawned <;> rfl

theorem attachStart_sane {s : QueueLife Thread Item} (h : Sane s) (thread : Thread) (i : Item)
    (minimumIntervalUs : UInt64) (spawned : Bool) :
    Sane (s.attachStart thread i minimumIntervalUs spawned) := by
  have hstart := start_sane h spawned
  unfold attachStart
  split
  · exact ⟨hstart.sound, hstart.alive, hstart.exited, hstart.empty, hstart.parked, hstart.awake,
      hstart.workers⟩
  · exact hstart

/-- An item is attached only while the worker is not asked to leave. -/
theorem attach_sane {s : QueueLife Thread Item} (h : Sane s) (thread : Thread) : Sane (s.attach thread) := by
  unfold attach
  split
  · rename_i i minimumIntervalUs _
    have hattach := WorkQueue.attach_sound h.sound i minimumIntervalUs
    by_cases hdone : (s.state.queue.attach i minimumIntervalUs).1 = true
    · have hopen : s.state.queue.exit = false := by
        unfold WorkQueue.attach at hdone
        split at hdone
        · cases hdone
        · rename_i hfree
          exact (Bool.or_eq_false_iff.mp (Bool.not_eq_true _ ▸ hfree)).2
      have hstate : s.state.next (.attach i minimumIntervalUs) =
          { s.state with queue := (s.state.queue.attach i minimumIntervalUs).2 }.record i
            (.attached minimumIntervalUs) := if_pos hdone
      have hfields : (s.state.queue.attach i minimumIntervalUs).2.started = s.state.queue.started ∧
          (s.state.queue.attach i minimumIntervalUs).2.exit = s.state.queue.exit ∧
          (s.state.queue.attach i minimumIntervalUs).2.worker = s.state.queue.worker := by
        unfold WorkQueue.attach
        split
        · exact ⟨rfl, rfl, rfl⟩
        · exact ⟨rfl, rfl, rfl⟩
      obtain ⟨hstarted, hexit, hworker⟩ := hfields
      rw [hstate]
      refine ⟨hattach, ?_, fun hexited => ?_, fun hasked => ?_, fun hdead => ?_, fun hasked => ?_, h.workers⟩
      · exact h.alive.trans (by rw [QueueState.record_queue, hstarted])
      · exact hexit.trans (h.exited hexited)
      · exact absurd (hopen.symm.trans (hexit.symm.trans hasked)) (by decide)
      · exact hworker.trans (h.parked hdead)
      · exact absurd (hopen.symm.trans (hexit.symm.trans hasked)) (by decide)
    · have hstate : s.state.next (.attach i minimumIntervalUs) = s.state := if_neg hdone
      rw [hstate]
      exact ⟨h.sound, h.alive, h.exited, h.empty, h.parked, h.awake, h.workers⟩
  · exact h

omit [DecidableEq Item] in
theorem shutdown_sane {s : QueueLife Thread Item} (h : Sane s) (thread : Thread) :
    Sane (s.shutdown thread) := by
  unfold shutdown
  split
  · exact h
  · rename_i hwaits
    have hempty : s.state.queue.items = [] := by
      unfold returnsAtOnce at hwaits
      by_contra hne
      rw [if_pos hne] at hwaits
      exact hwaits rfl
    have hq := broadcast_steady { s.state.queue with exit := true }
    have hsound : ({ s.state.queue with exit := true } : WorkQueue Item).broadcast.Sound := by
      refine ⟨?_, fun i => ?_⟩
      · rw [WorkQueue.broadcast_items]
        exact h.sound.nodup
      · rw [WorkQueue.broadcast_items, WorkQueue.broadcast_item, WorkQueue.broadcast_running]
        exact h.sound.flags i
    refine ⟨hsound, ?_, fun _ => hq.exit, fun _ => ?_, fun hdead => ?_, fun _ wake hwake => ?_, h.workers⟩
    · exact h.alive.trans (by rw [hq.started])
    · show ({ s.state.queue with exit := true } : WorkQueue Item).broadcast.items = []
      rw [WorkQueue.broadcast_items]
      exact hempty
    · have hparked : ({ s.state.queue with exit := true } : WorkQueue Item).worker = .scanning := h.parked hdead
      show ({ s.state.queue with exit := true } : WorkQueue Item).broadcast.worker = .scanning
      exact broadcast_scanning hparked
    · -- the broadcast has reached a worker that waits
      have hbroadcast : ({ s.state.queue with exit := true } : WorkQueue Item).broadcast.worker =
        .waiting wake false := hwake
      unfold WorkQueue.broadcast at hbroadcast
      split at hbroadcast
      · cases hbroadcast
      · rename_i hnot
        exact hnot _ _ hbroadcast

omit [DecidableEq Item] in
theorem resume_sane {s : QueueLife Thread Item} (h : Sane s) (thread : Thread) : Sane (s.resume thread) := by
  unfold resume
  split
  · rename_i hexited
    have hdead : s.alive = false := by
      rw [← Bool.not_eq_true, h.alive]
      exact fun halive => absurd (hexited.symm.trans halive.2) (by decide)
    refine ⟨⟨h.sound.nodup, h.sound.flags⟩, ?_, h.exited, h.empty, h.parked, h.awake, h.workers⟩
    exact ⟨fun halive => absurd (hdead.symm.trans halive) (by decide), fun hs => nomatch hs.1⟩
  · exact h

omit [DecidableEq Thread] [DecidableEq Item] in
theorem leave_sane {s : QueueLife Thread Item} (h : Sane s) (halive : s.alive = true)
    (hworker : s.state.queue.worker = .scanning) (hexit : s.state.queue.exit = true) : Sane s.leave := by
  refine ⟨h.sound, ⟨nofun, fun hs => nomatch hs.2⟩, fun _ => hexit, h.empty, fun _ => hworker, h.awake, ?_⟩
  show s.state.workers = s.exits + 1 + 0
  rw [h.workers, halive]
  rfl

theorem item_sane {s : QueueLife Thread Item} (h : Sane s) {a : QueueAction Thread Item}
    (ha : s.Enabled (.item a)) : Sane { s with state := s.state.next a } := by
  obtain ⟨henabled, hlife, hworker⟩ := ha
  obtain ⟨hsteady, hworkers⟩ := next_steady s.state a henabled hlife
  refine ⟨QueueState.next_sound h.sound a henabled, ?_, fun hexited => ?_, fun hasked => ?_,
    fun hdead => ?_, fun hasked wake hwake => ?_, hworkers.trans h.workers⟩
  · exact h.alive.trans (by rw [hsteady.started])
  · exact hsteady.exit.trans (h.exited hexited)
  · have hempty := h.empty (hsteady.exit.symm.trans hasked)
    rw [List.eq_nil_iff_forall_not_mem]
    intro i hi
    have hmem := hsteady.items i hi
    rw [hempty] at hmem
    exact absurd hmem List.not_mem_nil
  · have hthread : a.isWorker = false := by
      rw [← Bool.not_eq_true]
      intro hw
      exact absurd (hdead.symm.trans (hworker hw)) (by decide)
    exact next_scanning hlife hthread (h.parked hdead)
  · rcases hsteady.worker ⟨wake, hwake⟩ with hopen | hsame
    · exact absurd (hopen.symm.trans (hsteady.exit.symm.trans hasked)) (by decide)
    · exact h.awake (hsteady.exit.symm.trans hasked) wake (hsame.symm.trans hwake)

theorem next_sane {s : QueueLife Thread Item} (h : Sane s) {a : Action Thread Item} (ha : s.Enabled a) :
    Sane (s.next a) := by
  cases a with
  | item a => exact item_sane h ha
  | start spawned => exact start_sane h spawned
  | attachStart thread i minimumIntervalUs spawned => exact attachStart_sane h thread i minimumIntervalUs spawned
  | attach thread => exact attach_sane h thread
  | shutdown thread => exact shutdown_sane h thread
  | resume thread => exact resume_sane h thread
  | leave => exact leave_sane h ha.2.1 ha.2.2.1 ha.2.2.2

theorem reachable_sane {s : QueueLife Thread Item} (h : (system Thread Item).Reachable s) : Sane s := by
  refine h.invariant Sane ?_ ?_
  · rintro s ⟨clock, rfl⟩
    exact initial_sane clock
  · rintro s a t - hs ⟨ha, rfl⟩
    exact next_sane hs ha

/-! ## A clean end -/

/-- Nothing is attached and nothing runs. -/
def Vacant (s : QueueLife Thread Item) : Prop :=
  s.alive = false ∧ ∀ i, (s.state.queue.item i).attached = false ∧ (s.state.queue.item i).running = false

omit [DecidableEq Thread] [DecidableEq Item] in
theorem unused_of_empty {s : QueueLife Thread Item} (h : Sane s) (hempty : s.state.queue.items = []) (i : Item) :
    (s.state.queue.item i).attached = false ∧ (s.state.queue.item i).running = false := by
  have hflags := h.sound.flags i
  have hfree : (s.state.queue.item i).attached = false := by
    rw [← Bool.not_eq_true, ← hflags.attached, hempty]
    exact List.not_mem_nil
  refine ⟨hfree, ?_⟩
  rw [← Bool.not_eq_true]
  intro hrunning
  exact absurd (hfree.symm.trans (hflags.kept hrunning)) (by decide)

/-- In every interleaving: at most one worker is alive, the others have left. A `Shutdown` that returns
true, at once or after its wait, leaves no worker and no attached or running item. While the worker is
asked to leave nothing is attached or running, and the worker is at the head of its loop or has been
signalled. -/
theorem shutdown_clean {s : QueueLife Thread Item} (h : (system Thread Item).Reachable s) :
    (s.state.workers = s.exits + if s.alive then 1 else 0) ∧
      (s.returnsAtOnce = some true → Vacant s) ∧
      (∀ thread, s.stopping thread = true → (s.resume thread).stopping thread = false →
        Vacant (s.resume thread)) ∧
      (s.state.queue.exit = true → s.alive = true →
        (∀ i, (s.state.queue.item i).attached = false ∧ (s.state.queue.item i).running = false) ∧
          (s.state.queue.worker = .scanning ∨ ∃ wake, s.state.queue.worker = .waiting wake true)) := by
  have hs := reachable_sane h
  refine ⟨hs.workers, fun hreturns => ?_, fun thread hwaits hreturns => ?_, fun hexit halive => ?_⟩
  · unfold returnsAtOnce at hreturns
    split at hreturns
    · cases hreturns
    · rename_i hempty
      split at hreturns
      · rename_i hstopped
        refine ⟨?_, unused_of_empty hs (not_not.mp hempty)⟩
        rw [← Bool.not_eq_true, hs.alive]
        rintro ⟨hstarted, -⟩
        rw [hstarted] at hstopped
        exact absurd hstopped (by decide)
      · cases hreturns
  · have hexited : s.workerExited = true := by
      by_contra hnot
      unfold resume at hreturns
      rw [if_neg hnot] at hreturns
      exact absurd (hwaits.symm.trans hreturns) (by decide)
    have hdone := resume_sane hs thread
    have hfields : (s.resume thread).alive = s.alive ∧
        (s.resume thread).state.queue.items = s.state.queue.items := by
      unfold resume
      split
      · exact ⟨rfl, rfl⟩
      · exact ⟨rfl, rfl⟩
    refine ⟨?_, unused_of_empty hdone (hfields.2.trans (hs.empty (hs.exited hexited)))⟩
    rw [hfields.1, ← Bool.not_eq_true, hs.alive]
    exact fun hlive => absurd (hexited.symm.trans hlive.2) (by decide)
  · have hunused := unused_of_empty hs (hs.empty hexit)
    refine ⟨hunused, ?_⟩
    cases hworker : s.state.queue.worker with
    | scanning => exact Or.inl rfl
    | running i =>
        have hrunning := (hs.sound.flags i).running.mpr hworker
        exact absurd ((hunused i).2.symm.trans hrunning) (by decide)
    | waiting wake signalled =>
        cases signalled with
        | true => exact Or.inr ⟨wake, rfl⟩
        | false => exact absurd hworker (hs.awake hexit wake)

/-- The worker is started, told to leave by thread `true`, and gone. -/
def leftWorker : QueueLife Bool Unit :=
  [.start true, .shutdown true, .leave].foldl next {}

theorem shutdown_clean_demo : Vacant (leftWorker.resume true) := by
  have hinit : (system Bool Unit).Reachable {} := .start ⟨0, rfl⟩
  have hreach : (system Bool Unit).Reachable leftWorker := hinit.foldl_restrict (by decide)
  exact (shutdown_clean hreach).2.2.1 true (by decide) (by decide)

/-! ## A worker for every item -/

/-- A thread inside `Attach`, or an item, keeps the queue started unless it is asked to leave. -/
def Backed (s : QueueLife Thread Item) : Prop :=
  s.failures = 0 → s.state.queue.exit = false →
    (∃ thread, s.attaching thread ≠ none) ∨ s.state.queue.items ≠ [] → s.state.queue.started = true

omit [DecidableEq Thread] [DecidableEq Item] in
theorem Backed.congr {s t : QueueLife Thread Item} (h : Backed s) (hfailures : t.failures = s.failures)
    (hexit : t.state.queue.exit = s.state.queue.exit) (hattaching : t.attaching = s.attaching)
    (hitems : ∀ i ∈ t.state.queue.items, i ∈ s.state.queue.items)
    (hstarted : t.state.queue.started = s.state.queue.started) : Backed t := by
  intro hnone hopen hin
  rw [hstarted]
  refine h (hfailures ▸ hnone) (hexit ▸ hopen) (hin.imp (fun hthread => hattaching ▸ hthread) ?_)
  intro hne hempty
  obtain ⟨i, hi⟩ := List.exists_mem_of_ne_nil _ hne
  have hold := hitems i hi
  rw [hempty] at hold
  exact absurd hold List.not_mem_nil

theorem start_backed {s : QueueLife Thread Item} (h : Backed s) (spawned : Bool) :
    Backed (s.start spawned) := by
  unfold start
  split
  · exact h
  · rename_i hstarted
    cases spawned with
    | true =>
        intro _ _ _
        show (s.state.queue.start true).2.started = true
        unfold WorkQueue.start
        rw [if_neg hstarted]
    | false => exact fun hnone => absurd hnone (Nat.succ_ne_zero _)

theorem next_backed {s : QueueLife Thread Item} (hs : Sane s) (h : Backed s) {a : Action Thread Item}
    (ha : s.Enabled a) : Backed (s.next a) := by
  cases a with
  | item a =>
      have hsteady := (next_steady s.state a ha.1 ha.2.1).1
      exact h.congr rfl hsteady.exit rfl hsteady.items hsteady.started
  | start spawned => exact start_backed h spawned
  | attachStart thread i minimumIntervalUs spawned =>
      show Backed (s.attachStart thread i minimumIntervalUs spawned)
      unfold attachStart
      split
      · rename_i hstarted
        exact fun _ _ _ => hstarted
      · exact start_backed h spawned
  | attach thread =>
      -- the thread itself is what keeps the queue started
      show Backed (s.attach thread)
      unfold attach
      split
      · rename_i i minimumIntervalUs hthread
        have hfields : (s.state.next (.attach i minimumIntervalUs)).queue.exit = s.state.queue.exit ∧
            (s.state.next (.attach i minimumIntervalUs)).queue.started = s.state.queue.started := by
          simp only [QueueState.next]
          split
          · show (s.state.queue.attach i minimumIntervalUs).2.exit = _ ∧
              (s.state.queue.attach i minimumIntervalUs).2.started = _
            unfold WorkQueue.attach
            split
            · exact ⟨rfl, rfl⟩
            · exact ⟨rfl, rfl⟩
          · exact ⟨rfl, rfl⟩
        intro hnone hopen _
        refine hfields.2.trans (h hnone (hfields.1.symm.trans hopen) (Or.inl ⟨thread, ?_⟩))
        rw [hthread]
        intro hnot
        cases hnot
      · exact h
  | shutdown thread =>
      show Backed (s.shutdown thread)
      unfold shutdown
      split
      · exact h
      · intro _ hopen
        have hexit : ({ s.state.queue with exit := true } : WorkQueue Item).broadcast.exit = true :=
          (broadcast_steady _).exit
        exact absurd (hopen.symm.trans hexit) (by decide)
  | resume thread =>
      show Backed (s.resume thread)
      unfold resume
      split
      · rename_i hexited
        intro _ hopen
        exact absurd (hopen.symm.trans (hs.exited hexited)) (by decide)
      · exact h
  | leave => exact h

/-- As long as every worker could be created, an attached item has a worker that is alive and is not asked
to leave, whatever `Start`, `Attach`, `Detach` and `Shutdown` do at the same time. -/
theorem attached_served {s : QueueLife Thread Item} (h : (system Thread Item).Reachable s)
    (hcreated : s.failures = 0) {i : Item} (hattached : (s.state.queue.item i).attached = true) :
    s.alive = true ∧ s.state.queue.exit = false ∧ s.state.queue.started = true := by
  have hbacked : Backed s := by
    refine h.invariant Backed ?_ ?_
    · rintro s ⟨clock, rfl⟩ - - hin
      rcases hin with ⟨thread, hthread⟩ | hne
      · exact absurd rfl hthread
      · exact absurd rfl hne
    · rintro s a t hreach hs ⟨ha, rfl⟩
      exact next_backed (reachable_sane hreach) hs ha
  have hs := reachable_sane h
  have hin : i ∈ s.state.queue.items := (hs.sound.flags i).attached.mpr hattached
  have hne : s.state.queue.items ≠ [] := List.ne_nil_of_mem hin
  have hopen : s.state.queue.exit = false := by
    rw [← Bool.not_eq_true]
    exact fun hexit => hne (hs.empty hexit)
  have hstarted := hbacked hcreated hopen (Or.inr hne)
  refine ⟨hs.alive.mpr ⟨hstarted, ?_⟩, hopen, hstarted⟩
  rw [← Bool.not_eq_true]
  exact fun hexited => absurd (hopen.symm.trans (hs.exited hexited)) (by decide)

/-- One thread shuts the queue down while another is about to attach, and the start that follows makes a
new worker. -/
def attachedLife : QueueLife Bool Unit :=
  [.start true, .shutdown true, .attachStart false () 0 true, .leave, .resume true, .attach false,
    .attachStart false () 0 true, .attach false].foldl next {}

theorem attached_served_demo : attachedLife.alive = true := by
  have hinit : (system Bool Unit).Reachable {} := .start ⟨0, rfl⟩
  have hreach : (system Bool Unit).Reachable attachedLife := hinit.foldl_restrict (by decide)
  have hattached : (attachedLife.state.queue.item ()).attached = true := by decide
  exact (attached_served hreach (by decide) hattached).1

/-- The window between the two sections of `Attach`: the queue is shut down, the next start fails, and the
item is attached to a queue without a worker. -/
def orphanLife : QueueLife Bool Unit :=
  [.attachStart false () 0 true, .shutdown true, .leave, .resume true, .start false, .attach false].foldl next {}

theorem orphan_reachable : (system Bool Unit).Reachable orphanLife ∧
    (orphanLife.state.queue.item ()).attached = true ∧ orphanLife.alive = false := by
  have hinit : (system Bool Unit).Reachable {} := .start ⟨0, rfl⟩
  have hreach : (system Bool Unit).Reachable orphanLife := hinit.foldl_restrict (by decide)
  exact ⟨hreach, by decide, by decide⟩

end QueueLife

end DualMagneticWheel
