/-
# DualMagneticWheel.WorkQueue.QueueSystem — a queue, its worker and the threads that use it

One step is one critical section of the queue's mutex. Two calls take more than one: `Attach` starts the
worker first and takes the mutex again, and `Detach` may wait any number of times. Between its first
clock reading and its first test of the running flag `Detach` keeps the mutex, so the thread that holds
it is part of the state.

The log records what happened to the items, newest first. `QueueState.next_item` says once what a step
can do to one item: nothing, or one of the moves of `WorkItem.Move`, which is the event recorded.
-/
import DualMagneticWheel.Foundation.EventLog
import DualMagneticWheel.Foundation.Transition
import DualMagneticWheel.WorkQueue.Queue

namespace DualMagneticWheel

open Foundation

/-- What happens to a work item. A call that is ignored is no event. -/
inductive ItemEvent (Thread : Type) where
  | attached (minimumIntervalUs : UInt64)
  | scheduled (time delayUs : UInt64)
  | interval (time intervalUs : UInt64)
  | cleared
  | detaching (thread : Thread)
  | detached (thread : Thread)
  | timedOut (thread : Thread)
  | started (time : UInt64)
  | finished
  deriving DecidableEq

/-- The queue with what its threads are doing; `workers` counts the workers ever created. -/
structure QueueState (Thread Item : Type) where
  queue : WorkQueue Item := {}
  workers : Nat := 0
  /-- The thread that keeps the mutex from one step to the next. -/
  locked : Option Thread := none
  /-- The threads inside `Detach` with their item and deadline. -/
  detaching : Thread → Option (Item × UInt64) := fun _ => none
  clock : UInt64 := 0
  log : List (Item × ItemEvent Thread) := []

/-- The critical sections, with the clock readings made in them. -/
inductive QueueAction (Thread Item : Type) where
  | start (spawned : Bool)
  | attach (i : Item) (minimumIntervalUs : UInt64)
  | schedule (i : Item) (now delayUs : UInt64)
  | setInterval (i : Item) (now intervalUs : UInt64)
  | clear (i : Item)
  | detach (thread : Thread) (i : Item) (now : UInt64) (timeoutMs : UInt32)
  | test (thread : Thread) (now : UInt64)
  | scan (now : UInt64)
  | wake
  | finish (i : Item)

/-- The clock reading of a critical section. -/
def QueueAction.time {Thread Item : Type} : QueueAction Thread Item → Option UInt64
  | .schedule _ now _ | .setInterval _ now _ | .detach _ _ now _ | .test _ now | .scan now => some now
  | .start _ | .attach _ _ | .clear _ | .wake | .finish _ => none

/-- The worker is inside `pthread_cond_wait` or `pthread_cond_timedwait`. -/
def Worker.blocked {Item : Type} : Worker Item → Bool
  | .waiting _ _ => true
  | _ => false

/-- What an event does to the item it happens to, at the clock `now`. -/
inductive WorkItem.Move {Thread : Type} (now : UInt64) (item : WorkItem) :
    ItemEvent Thread → WorkItem → Prop
  | attached (m : UInt64) : item.attached = false → Move now item (.attached m) (item.attach m)
  | scheduled (delayUs : UInt64) : item.enabled = true →
      Move now item (.scheduled now delayUs) (item.schedule now delayUs)
  | interval (intervalUs : UInt64) : item.attached = true → item.stopping = false →
      Move now item (.interval now intervalUs) (item.setInterval now intervalUs)
  | cleared : Move now item .cleared item.clear
  | detaching (thread : Thread) : item.attached = true →
      Move now item (.detaching thread) item.disable
  | detached (thread : Thread) : item.running = false →
      Move now item (.detached thread) { item with attached := false }
  | timedOut (thread : Thread) : item.running = true → Move now item (.timedOut thread) item
  | started (due : UInt64) : item.attached = true → item.running = false → item.due = some due →
      due ≤ now → Move now item (.started now) (item.begin now)
  | finished : item.running = true → Move now item .finished item.finish

namespace QueueState

variable {Thread Item : Type} [DecidableEq Thread] [DecidableEq Item]

/-- Add an event to the log. -/
def record (i : Item) (e : ItemEvent Thread) (s : QueueState Thread Item) : QueueState Thread Item :=
  { s with log := (i, e) :: s.log }

/-- The events of one item in a log. -/
def eventsOf (j : Item) (log : List (Item × ItemEvent Thread)) : List (ItemEvent Thread) :=
  log.filterMap fun e => if e.1 = j then some e.2 else none

/-- The events of one item, newest first. -/
def history (s : QueueState Thread Item) (j : Item) : List (ItemEvent Thread) := eventsOf j s.log

/-- The steps that the mutex and the position of each thread permit. -/
def Enabled (s : QueueState Thread Item) : QueueAction Thread Item → Prop
  | .start _ | .schedule _ _ _ | .setInterval _ _ _ | .clear _ => s.locked = none
  | .attach _ _ => s.locked = none ∧ s.queue.started = true
  | .detach thread _ _ _ => s.locked = none ∧ s.detaching thread = none
  | .test thread _ => (s.locked = none ∨ s.locked = some thread) ∧ s.detaching thread ≠ none
  | .scan _ => s.locked = none ∧ s.queue.started = true ∧ s.queue.exit = false ∧
      s.queue.worker = .scanning
  | .wake => s.locked = none ∧ s.queue.worker.blocked = true
  | .finish i => s.locked = none ∧ s.queue.worker = .running i

instance (s : QueueState Thread Item) : (a : QueueAction Thread Item) → Decidable (s.Enabled a)
  | .start _ | .schedule _ _ _ | .setInterval _ _ _ | .clear _ =>
      inferInstanceAs (Decidable (s.locked = none))
  | .attach _ _ => inferInstanceAs (Decidable (_ ∧ _))
  | .detach thread _ _ _ =>
      inferInstanceAs (Decidable (s.locked = none ∧ s.detaching thread = none))
  | .test thread _ =>
      inferInstanceAs (Decidable ((s.locked = none ∨ s.locked = some thread) ∧
        s.detaching thread ≠ none))
  | .scan _ => inferInstanceAs (Decidable (_ ∧ _ ∧ _ ∧ _))
  | .wake => inferInstanceAs (Decidable (_ ∧ _))
  | .finish i => inferInstanceAs (Decidable (s.locked = none ∧ s.queue.worker = .running i))

/-- `WorkQueue::Detach` up to its first test of the running flag. -/
def detach (thread : Thread) (i : Item) (now : UInt64) (timeoutMs : UInt32)
    (s : QueueState Thread Item) : QueueState Thread Item :=
  if (s.queue.item i).attached then
    { s with
      queue := s.queue.disable i, clock := now, locked := some thread
      detaching := Function.update s.detaching thread
        (some (i, now + timeoutMs.toUInt64 * 1000)) }.record i (.detaching thread)
  else s.record i (.detached thread)

/-- One test of the running flag in `WorkQueue::Detach`: wait on, give up, or unlink the item. -/
def test (thread : Thread) (i : Item) (deadline now : UInt64) (s : QueueState Thread Item) :
    QueueState Thread Item :=
  if (s.queue.item i).running then
    if now ≥ deadline then
      { s with
        clock := now, locked := none
        detaching := Function.update s.detaching thread none }.record i (.timedOut thread)
    else { s with clock := now, locked := none }
  else
    { s with
      queue := s.queue.unlink i, locked := none
      detaching := Function.update s.detaching thread none }.record i (.detached thread)

/-- The effect of a step. -/
def next (s : QueueState Thread Item) : QueueAction Thread Item → QueueState Thread Item
  | .start spawned =>
      { s with
        queue := (s.queue.start spawned).2
        workers := if !s.queue.started && spawned then s.workers + 1 else s.workers }
  | .attach i minimumIntervalUs =>
      if (s.queue.attach i minimumIntervalUs).1 then
        { s with queue := (s.queue.attach i minimumIntervalUs).2 }.record i
          (.attached minimumIntervalUs)
      else s
  | .schedule i now delayUs =>
      if (s.queue.item i).enabled then
        { s with queue := s.queue.schedule i now delayUs, clock := now }.record i
          (.scheduled now delayUs)
      else s
  | .setInterval i now intervalUs =>
      if (s.queue.item i).attached && !(s.queue.item i).stopping then
        { s with queue := s.queue.setInterval i now intervalUs, clock := now }.record i
          (.interval now intervalUs)
      else s
  | .clear i => { s with queue := s.queue.clear i }.record i .cleared
  | .detach thread i now timeoutMs => s.detach thread i now timeoutMs
  | .test thread now =>
      match s.detaching thread with
      | some (i, deadline) => s.test thread i deadline now
      | none => s
  | .scan now =>
      match (s.queue.select now).selected with
      | some i => { s with queue := s.queue.scan now, clock := now }.record i (.started now)
      | none => { s with queue := s.queue.scan now, clock := now }
  | .wake => { s with queue := s.queue.wake }
  | .finish i => { s with queue := s.queue.finish i }.record i .finished

/-- All runs of the threads and the worker, from an empty queue. -/
def system (Thread Item : Type) [DecidableEq Thread] [DecidableEq Item] :
    Transition (QueueState Thread Item) (QueueAction Thread Item) :=
  (Transition.ofFun (fun s => ∃ clock, s = { clock }) next).restrict Enabled

/-! ## Frames -/

section Frames

omit [DecidableEq Thread] [DecidableEq Item]

@[simp] theorem record_queue (i : Item) (e : ItemEvent Thread) (s : QueueState Thread Item) :
    (s.record i e).queue = s.queue := rfl

@[simp] theorem record_clock (i : Item) (e : ItemEvent Thread) (s : QueueState Thread Item) :
    (s.record i e).clock = s.clock := rfl

@[simp] theorem record_log (i : Item) (e : ItemEvent Thread) (s : QueueState Thread Item) :
    (s.record i e).log = (i, e) :: s.log := rfl

end Frames

section History

omit [DecidableEq Thread]

theorem history_of_log {s t : QueueState Thread Item} (h : t.log = s.log) (j : Item) :
    t.history j = s.history j := by
  unfold history
  rw [h]

@[simp] theorem history_record_self (i : Item) (e : ItemEvent Thread)
    (s : QueueState Thread Item) : (s.record i e).history i = e :: s.history i := by
  simp [history, eventsOf]

theorem history_record_of_ne {i j : Item} (h : j ≠ i) (e : ItemEvent Thread)
    (s : QueueState Thread Item) : (s.record i e).history j = s.history j := by
  simp [history, eventsOf, Ne.symm h]

end History

/-! ## The invariant of the queue -/

theorem next_sound {s : QueueState Thread Item} (h : s.queue.Sound) (a : QueueAction Thread Item)
    (ha : s.Enabled a) : (s.next a).queue.Sound := by
  cases a with
  | start spawned =>
      show (s.queue.start spawned).2.Sound
      unfold WorkQueue.start
      split
      · exact h
      · exact ⟨h.nodup, h.flags⟩
  | attach i minimumIntervalUs =>
      simp only [next]
      split
      · exact WorkQueue.attach_sound h i minimumIntervalUs
      · exact h
  | schedule i now delayUs =>
      simp only [next]
      split
      · exact WorkQueue.schedule_sound h i now delayUs
      · exact h
  | setInterval i now intervalUs =>
      simp only [next]
      split
      · exact WorkQueue.setInterval_sound h i now intervalUs
      · exact h
  | clear i => exact WorkQueue.clear_sound h i
  | detach thread i now timeoutMs =>
      show (s.detach thread i now timeoutMs).queue.Sound
      unfold detach
      split
      · exact WorkQueue.disable_sound h i
      · exact h
  | test thread now =>
      simp only [next]
      split
      · rename_i i deadline _
        unfold test
        split
        · split <;> exact h
        · rename_i hrunning
          exact WorkQueue.unlink_sound h (Bool.not_eq_true _ ▸ hrunning)
      · exact h
  | scan now =>
      have hscan := WorkQueue.scan_sound h ha.2.2.2 now
      simp only [next]
      split <;> exact hscan
  | wake =>
      refine WorkQueue.wake_sound h ?_
      intro i hi
      have hblocked := ha.2
      rw [hi] at hblocked
      cases hblocked
  | finish i => exact WorkQueue.finish_sound h ha.2

theorem sound {s : QueueState Thread Item} (h : (system Thread Item).Reachable s) :
    s.queue.Sound := by
  refine h.invariant (fun s => s.queue.Sound) ?_ ?_
  · rintro s ⟨clock, rfl⟩
    exact WorkQueue.sound_empty
  · rintro s a t - hs ⟨ha, rfl⟩
    exact next_sound hs a ha

/-! ## What a step does to one item -/

/-- Nothing happens to the item, or one event does. -/
def ItemStep (s t : QueueState Thread Item) (j : Item) : Prop :=
  t.queue.item j = s.queue.item j ∧ t.history j = s.history j ∨
    ∃ e, (s.queue.item j).Move t.clock e (t.queue.item j) ∧ t.history j = e :: s.history j

omit [DecidableEq Thread] in
theorem ItemStep.quiet {s t : QueueState Thread Item} (hitem : t.queue.item = s.queue.item)
    (hlog : t.log = s.log) (j : Item) : ItemStep s t j :=
  Or.inl ⟨congrFun hitem j, history_of_log hlog j⟩

omit [DecidableEq Thread] in
theorem ItemStep.of_record {s t : QueueState Thread Item} {i : Item} (now : UInt64)
    {e : ItemEvent Thread} {item : WorkItem} (hmove : (s.queue.item i).Move now e item)
    (hitem : t.queue.item = Function.update s.queue.item i item) (hclock : t.clock = now)
    (hlog : t.log = (i, e) :: s.log) (j : Item) : ItemStep s t j := by
  have hhistory : t.history j = (s.record i e).history j := history_of_log hlog j
  by_cases hj : j = i
  · subst hj
    refine Or.inr ⟨e, ?_, ?_⟩
    · rw [hitem, Function.update_self, hclock]
      exact hmove
    · rw [hhistory, history_record_self]
  · refine Or.inl ⟨?_, ?_⟩
    · rw [hitem, Function.update_of_ne hj]
    · rw [hhistory, history_record_of_ne hj]

theorem next_item {s : QueueState Thread Item} (h : s.queue.Sound) (a : QueueAction Thread Item)
    (ha : s.Enabled a) (j : Item) : ItemStep s (s.next a) j := by
  cases a with
  | start spawned =>
      have hitem : (s.queue.start spawned).2.item = s.queue.item := by
        unfold WorkQueue.start
        split <;> rfl
      simp only [next]
      refine .quiet ?_ ?_ j
      · exact hitem
      · rfl
  | attach i m =>
      simp only [next]
      split
      · rename_i hok
        unfold WorkQueue.attach at hok
        split at hok
        · cases hok
        · rename_i hfree
          have hfree' := hfree
          simp only [Bool.or_eq_true, not_or, Bool.not_eq_true] at hfree'
          refine .of_record s.clock (.attached m hfree'.1) ?_ ?_ ?_ j
          · simp only [record_queue, WorkQueue.attach, if_neg hfree, WorkQueue.modify]
          · rfl
          · rfl
      · exact .quiet rfl rfl j
  | schedule i now delayUs =>
      simp only [next]
      split
      · rename_i henabled
        refine .of_record now (.scheduled delayUs henabled) ?_ rfl rfl j
        simp only [record_queue, WorkQueue.schedule, if_pos henabled, WorkQueue.broadcast_item,
          WorkQueue.modify]
      · exact .quiet rfl rfl j
  | setInterval i now intervalUs =>
      simp only [next]
      split
      · rename_i hopen
        have hopen' := hopen
        simp only [Bool.and_eq_true, Bool.not_eq_true'] at hopen'
        refine .of_record now (.interval intervalUs hopen'.1 hopen'.2) ?_ rfl rfl j
        simp only [record_queue, WorkQueue.setInterval, if_pos hopen, WorkQueue.broadcast_item,
          WorkQueue.modify]
      · exact .quiet rfl rfl j
  | clear i =>
      simp only [next]
      refine .of_record (i := i) s.clock .cleared ?_ ?_ ?_ j
      · exact WorkQueue.broadcast_item _
      · rfl
      · rfl
  | detach thread i now timeoutMs =>
      simp only [next, detach]
      split
      · rename_i hattached
        exact .of_record now (.detaching thread hattached) (WorkQueue.broadcast_item _) rfl rfl j
      · rename_i hfree
        -- the call for an item that is not attached returns at once and changes nothing
        have hsame : { s.queue.item i with attached := false } = s.queue.item i := by
          rw [← (Bool.not_eq_true _).mp hfree]
        have hidle : (s.queue.item i).running = false := by
          cases hrunning : (s.queue.item i).running with
          | false => rfl
          | true => exact absurd ((h.flags i).kept hrunning) hfree
        refine .of_record s.clock (.detached thread hidle) ?_ ?_ ?_ j
        · rw [hsame, Function.update_eq_self, record_queue]
        · rfl
        · rfl
  | test thread now =>
      simp only [next]
      split
      · rename_i i deadline _
        unfold test
        split
        · rename_i hrunning
          split
          · -- the wait gives up and leaves the item as it is
            refine .of_record now (.timedOut thread hrunning) ?_ rfl rfl j
            rw [Function.update_eq_self, record_queue]
          · exact .quiet rfl rfl j
        · rename_i hrunning
          refine .of_record s.clock (.detached thread (Bool.not_eq_true _ ▸ hrunning)) ?_ ?_ ?_ j
          · rfl
          · rfl
          · rfl
      · exact .quiet rfl rfl j
  | scan now =>
      simp only [next]
      split
      · rename_i i hsel
        -- the worker is idle, so the selected item is not running
        obtain ⟨hdue, hnow, -⟩ := (WorkQueue.select_state s.queue now).best i hsel
        obtain ⟨attached, -, -, running, -⟩ := h.flags i
        have hlinked := attached.mp (WorkQueue.selected_spec hsel).1
        have hidle : (s.queue.item i).running = false := by
          rw [← Bool.not_eq_true, running, ha.2.2.2]
          exact nofun
        refine .of_record now (.started _ hlinked hidle hdue hnow) ?_ rfl rfl j
        simp only [record_queue, WorkQueue.scan, hsel, WorkQueue.modify]
      · rename_i hsel
        refine .quiet ?_ ?_ j
        · simp only [WorkQueue.scan, hsel]
        · rfl
  | wake =>
      simp only [next]
      exact .quiet rfl rfl j
  | finish i =>
      simp only [next]
      refine .of_record s.clock (.finished ((h.flags i).running.mpr ha.2)) ?_ ?_ ?_ j
      · rfl
      · rfl
      · rfl

end QueueState

end DualMagneticWheel
