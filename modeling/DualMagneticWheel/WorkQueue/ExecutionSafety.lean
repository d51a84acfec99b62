/-
# DualMagneticWheel.WorkQueue.ExecutionSafety — which items the worker runs

`ItemSafe` relates the flags of one item to its history; every move of an item keeps it, so it holds of
every item in every run. From it follow the rules of execution: a `Run` starts only between a
`SetInterval` and the next `Detach`, one at a time, never on an item whose `Detach` has succeeded.

`Detach` waits without the mutex and keeps nothing but the address of the item. A call that waits through
the detachment of its item by another thread and a new `Attach` waits on for the new attachment, and when
it gives up it has disabled nothing: `detach_overtaken` is such a run.
-/
import DualMagneticWheel.WorkQueue.QueueSystem

namespace DualMagneticWheel

open Foundation

namespace ItemEvent

variable {Thread : Type}

def isAttach : ItemEvent Thread → Bool
  | .attached _ => true
  | _ => false

def isInterval : ItemEvent Thread → Bool
  | .interval _ _ => true
  | _ => false

/-- A call of `Detach` has begun. -/
def isDetaching : ItemEvent Thread → Bool
  | .detaching _ => true
  | _ => false

/-- A call of `Detach` has succeeded. -/
def isDetached : ItemEvent Thread → Bool
  | .detached _ => true
  | _ => false

/-- A call of `Detach` has given up. -/
def isTimeout : ItemEvent Thread → Bool
  | .timedOut _ => true
  | _ => false

def isStart : ItemEvent Thread → Bool
  | .started _ => true
  | _ => false

end ItemEvent

/-! ## The flags and the history of one item -/

variable {Thread : Type}

/-- A `Run` may start: the item is attached, no `Detach` has begun since then, and an interval was set. -/
def RunPermitted (history : List (ItemEvent Thread)) : Prop :=
  Since (·.isAttach) (fun e => e.isDetaching || e.isDetached) history ∧
    Since (·.isInterval) (·.isAttach) history

/-- What the history of an item says about its flags. -/
structure ItemSafe (item : WorkItem) (history : List (ItemEvent Thread)) : Prop where
  attached : item.attached = true ↔ Since (·.isAttach) (·.isDetached) history
  /-- A `Detach` that has begun stops the item until it is attached again. -/
  stopping : Since (·.isDetaching) (·.isAttach) history →
    item.stopping = true ∧ item.enabled = false
  opened : item.attached = true → item.stopping = false →
    Since (·.isAttach) (fun e => e.isDetaching || e.isDetached) history
  enabled : item.enabled = true → Since (·.isInterval) (·.isAttach) history
  starts : Lawful (fun earlier e => e.isStart → RunPermitted earlier) history
  timeouts : Lawful (fun earlier e => e.isTimeout → Since (·.isAttach) (·.isDetached) earlier) history

theorem itemSafe_start : ItemSafe {} ([] : List (ItemEvent Thread)) where
  attached := by simp
  stopping := nofun
  opened := nofun
  enabled := nofun
  starts := lawful_nil
  timeouts := lawful_nil

/-- An event that is none of those the rules mark leaves the account as it is. -/
theorem ItemSafe.quiet {item item' : WorkItem} {history : List (ItemEvent Thread)}
    {e : ItemEvent Thread} (h : ItemSafe item history)
    (hquiet : e.isAttach = false ∧ e.isInterval = false ∧ e.isDetaching = false ∧
      e.isDetached = false)
    (hattached : item'.attached = item.attached) (hstopping : item'.stopping = item.stopping)
    (henabled : item'.enabled = item.enabled) (hstart : e.isStart → RunPermitted history)
    (htimeout : e.isTimeout → Since (·.isAttach) (·.isDetached) history) :
    ItemSafe item' (e :: history) := by
  obtain ⟨hattach, hinterval, hdetaching, hdetached⟩ := hquiet
  obtain ⟨attached, stopping, opened, enabled, starts, timeouts⟩ := h
  rw [← hattached] at attached opened
  rw [← hstopping] at stopping opened
  rw [← henabled] at stopping enabled
  refine ⟨?_, ?_, ?_, ?_, ⟨hstart, starts⟩, ⟨htimeout, timeouts⟩⟩
  · rw [since_cons_of_quiet (by simp [hattach]) (by simp [hdetached])]
    exact attached
  · rw [since_cons_of_quiet (by simp [hdetaching]) (by simp [hattach])]
    exact stopping
  · rw [since_cons_of_quiet (by simp [hattach]) (by simp [hdetaching, hdetached])]
    exact opened
  · rw [since_cons_of_quiet (by simp [hinterval]) (by simp [hattach])]
    exact enabled

/-- Every move of an item keeps the account of its flags. -/
theorem ItemSafe.move {item item' : WorkItem} {history : List (ItemEvent Thread)} {now : UInt64}
    {e : ItemEvent Thread} (h : ItemSafe item history)
    (hkept : item.running = true → item.attached = true)
    (hstopping : item.enabled = true → item.stopping = false) (hmove : item.Move now e item') :
    ItemSafe item' (e :: history) := by
  cases hmove with
  | attached m hfree =>
      obtain ⟨-, -, -, -, starts, timeouts⟩ := h
      refine ⟨⟨fun _ => Or.inl rfl, fun _ => rfl⟩, ?_, fun _ _ => Or.inl rfl, nofun,
        ⟨nofun, starts⟩, ⟨nofun, timeouts⟩⟩
      rintro (hmark | ⟨hopen, -⟩)
      · cases hmark
      · exact absurd rfl hopen
  | scheduled delayUs henabled =>
      obtain ⟨pending, deadline, hframe⟩ := item.schedule_frame now delayUs
      rw [hframe]
      exact h.quiet ⟨rfl, rfl, rfl, rfl⟩ rfl rfl rfl nofun nofun
  | interval intervalUs hattached hopen =>
      obtain ⟨-, -, -, hattached', hstopping'⟩ :=
        WorkItem.setInterval_enabled hattached hopen now intervalUs
      obtain ⟨attached, stopping, opened, -, starts, timeouts⟩ := h
      refine ⟨?_, ?_, ?_, fun _ => Or.inl rfl, ⟨nofun, starts⟩, ⟨nofun, timeouts⟩⟩
      · rw [since_cons_of_quiet nofun nofun, ← attached]
        exact ⟨fun _ => hattached, fun _ => hattached'⟩
      · rw [since_cons_of_quiet nofun nofun]
        intro hbegun
        have hstopped := (stopping hbegun).1
        rw [hopen] at hstopped
        cases hstopped
      · rw [since_cons_of_quiet nofun nofun]
        exact fun _ _ => opened hattached hopen
  | cleared => exact h.quiet ⟨rfl, rfl, rfl, rfl⟩ rfl rfl rfl nofun nofun
  | detaching thread hattached =>
      obtain ⟨attached, -, -, -, starts, timeouts⟩ := h
      refine ⟨?_, fun _ => ⟨rfl, rfl⟩, nofun, nofun, ⟨nofun, starts⟩, ⟨nofun, timeouts⟩⟩
      rw [since_cons_of_quiet nofun nofun]
      exact attached
  | detached thread hidle =>
      obtain ⟨-, stopping, -, enabled, starts, timeouts⟩ := h
      refine ⟨⟨nofun, ?_⟩, ?_, nofun, ?_, ⟨nofun, starts⟩, ⟨nofun, timeouts⟩⟩
      · rintro (hmark | ⟨hopen, -⟩)
        · cases hmark
        · exact absurd rfl hopen
      · rw [since_cons_of_quiet nofun nofun]
        exact stopping
      · rw [since_cons_of_quiet nofun nofun]
        exact enabled
  | timedOut thread hrunning =>
      have hattached := h.attached.mp (hkept hrunning)
      exact h.quiet ⟨rfl, rfl, rfl, rfl⟩ rfl rfl rfl nofun fun _ => hattached
  | started due hattached hidle hdue hnow =>
      -- only an enabled item is due, and no detachment of it is under way
      have henabled : item.enabled = true := WorkItem.enabled_of_due hdue
      have hpermitted := And.intro (h.opened hattached (hstopping henabled)) (h.enabled henabled)
      exact h.quiet ⟨rfl, rfl, rfl, rfl⟩ rfl rfl rfl (fun _ => hpermitted) nofun
  | finished hrunning => exact h.quiet ⟨rfl, rfl, rfl, rfl⟩ rfl rfl rfl nofun nofun

/-- No `Run` starts after an event that forbids it, until the item is attached anew. -/
theorem no_start_after {history later earlier : List (ItemEvent Thread)} {stop : ItemEvent Thread}
    (h : Lawful (fun earlier e => e.isStart → RunPermitted earlier) history)
    (hsplit : history = later ++ stop :: earlier) (hlater : ∀ e ∈ later, e.isAttach = false)
    (hstop : ¬ Since (·.isAttach) (fun e => e.isDetaching || e.isDetached) (stop :: earlier)) :
    ∀ e ∈ later, e.isStart = false := by
  intro e he
  obtain ⟨after, before, rfl⟩ := List.append_of_mem he
  cases hstart : e.isStart with
  | false => rfl
  | true =>
      have hpermitted : RunPermitted (before ++ stop :: earlier) :=
        lawful_iff_forall_split.mp h after e _ (by rw [hsplit]; simp) hstart
      refine absurd (Since.of_append hpermitted.1 ?_) hstop
      intro e' he'
      rw [hlater e' (by simp [he'])]
      exact Bool.false_ne_true

/-! ## The list and the worker -/

section Log

variable {Item : Type} [DecidableEq Item]

/-- The attached items in the order of their attachment. -/
def attachOrder : List (Item × ItemEvent Thread) → List Item
  | [] => []
  | (i, .attached _) :: older => attachOrder older ++ [i]
  | (i, .detached _) :: older => (attachOrder older).erase i
  | _ :: older => attachOrder older

/-- The items whose `Run` has started and has not finished. -/
def inProgress : List (Item × ItemEvent Thread) → List Item
  | [] => []
  | (i, .started _) :: older => i :: inProgress older
  | (i, .finished) :: older => (inProgress older).erase i
  | _ :: older => inProgress older

end Log

/-- The item that the worker runs. -/
def Worker.current {Item : Type} : Worker Item → List Item
  | .running i => [i]
  | _ => []

namespace QueueState

variable {Item : Type} [DecidableEq Thread] [DecidableEq Item]

/-- The log tells the list of the queue, what the worker runs and how many workers there are. -/
structure LogSound (s : QueueState Thread Item) : Prop where
  items : s.queue.items = attachOrder s.log
  running : s.queue.worker.current = inProgress s.log
  workers : s.workers = if s.queue.started then 1 else 0

omit [DecidableEq Item] in
theorem broadcast_current (q : WorkQueue Item) : q.broadcast.worker.current = q.worker.current := by
  unfold WorkQueue.broadcast
  split
  · rename_i wake signalled hworker
    rw [hworker]
    rfl
  · rfl

omit [DecidableEq Item] in
theorem broadcast_started (q : WorkQueue Item) : q.broadcast.started = q.started := by
  unfold WorkQueue.broadcast
  split <;> rfl

omit [DecidableEq Thread] in
/-- A critical section that changes the fields of one item and wakes the worker. -/
theorem LogSound.modify {s t : QueueState Thread Item} (h : s.LogSound) (i : Item)
    (change : WorkItem → WorkItem) (hqueue : t.queue = (s.queue.modify i change).broadcast)
    (hworkers : t.workers = s.workers) (horder : attachOrder t.log = attachOrder s.log)
    (hprogress : inProgress t.log = inProgress s.log) : t.LogSound := by
  refine ⟨?_, ?_, ?_⟩
  · rw [hqueue, horder, WorkQueue.broadcast_items]
    exact h.items
  · rw [hqueue, hprogress, broadcast_current]
    exact h.running
  · rw [hworkers, hqueue, broadcast_started]
    exact h.workers

theorem next_logSound {s : QueueState Thread Item} (hs : s.queue.Sound) (h : s.LogSound)
    (a : QueueAction Thread Item) (ha : s.Enabled a) : (s.next a).LogSound := by
  cases a with
  | start spawned =>
      obtain ⟨items, running, workers⟩ := h
      simp only [next]
      unfold WorkQueue.start
      cases hstarted : s.queue.started with
      | true =>
          refine ⟨items, running, ?_⟩
          simp [workers, hstarted]
      | false =>
          refine ⟨items, running, ?_⟩
          cases spawned <;> simp [workers, hstarted]
  | attach i m =>
      simp only [next]
      split
      · rename_i hok
        unfold WorkQueue.attach at hok ⊢
        split at hok
        · cases hok
        · rename_i hfree
          rw [if_neg hfree]
          exact ⟨congrArg (· ++ [i]) h.items, h.running, h.workers⟩
      · exact h
  | schedule i now delayUs =>
      simp only [next]
      split
      · rename_i henabled
        refine h.modify i (·.schedule now delayUs) ?_ rfl rfl rfl
        simp only [record_queue, WorkQueue.schedule, if_pos henabled]
      · exact h
  | setInterval i now intervalUs =>
      simp only [next]
      split
      · rename_i hopen
        refine h.modify i (·.setInterval now intervalUs) ?_ rfl rfl rfl
        simp only [record_queue, WorkQueue.setInterval, if_pos hopen]
      · exact h
  | clear i => exact h.modify i (·.clear) rfl rfl rfl rfl
  | detach thread i now timeoutMs =>
      simp only [next, detach]
      split
      · exact h.modify i (·.disable) rfl rfl rfl rfl
      · rename_i hfree
        -- the item is not attached, so nothing leaves the list
        have hmem : i ∉ attachOrder s.log := by
          rw [← h.items, (hs.flags i).attached]
          exact hfree
        refine ⟨?_, h.running, h.workers⟩
        show s.queue.items = (attachOrder s.log).erase i
        rw [List.erase_of_not_mem hmem]
        exact h.items
  | test thread now =>
      simp only [next]
      split
      · rename_i i deadline _
        unfold test
        split
        · split
          · exact ⟨h.items, h.running, h.workers⟩
          · exact ⟨h.items, h.running, h.workers⟩
        · exact ⟨congrArg (·.erase i) h.items, h.running, h.workers⟩
      · exact h
  | scan now =>
      have hidle : inProgress s.log = [] := by
        rw [← h.running, ha.2.2.2]
        rfl
      simp only [next, WorkQueue.scan]
      cases hsel : (s.queue.select now).selected with
      | none => exact ⟨h.items, hidle.symm, h.workers⟩
      | some i =>
          refine ⟨h.items, ?_, h.workers⟩
          show [i] = i :: inProgress s.log
          rw [hidle]
  | wake =>
      refine ⟨h.items, ?_, h.workers⟩
      show [] = inProgress s.log
      rw [← h.running]
      cases hworker : s.queue.worker with
      | running i =>
          -- a worker that runs an item does not wait
          have hblocked := ha.2
          rw [hworker] at hblocked
          cases hblocked
      | scanning => rfl
      | waiting wake signalled => rfl
  | finish i =>
      refine ⟨h.items, ?_, h.workers⟩
      show [] = (inProgress s.log).erase i
      rw [← h.running, ha.2]
      exact (List.erase_cons_head i []).symm

theorem logSound {s : QueueState Thread Item} (h : (system Thread Item).Reachable s) :
    s.LogSound := by
  refine h.invariant LogSound ?_ ?_
  · rintro s ⟨clock, rfl⟩
    exact ⟨rfl, rfl, rfl⟩
  · rintro s a t hr hs ⟨ha, rfl⟩
    exact next_logSound (sound hr) hs a ha

theorem itemSafe {s : QueueState Thread Item} (h : (system Thread Item).Reachable s) (j : Item) :
    ItemSafe (s.queue.item j) (s.history j) := by
  refine h.invariant (fun s => ItemSafe (s.queue.item j) (s.history j)) ?_ ?_
  · rintro s ⟨clock, rfl⟩
    exact itemSafe_start
  · rintro s a t hr hs ⟨ha, rfl⟩
    obtain ⟨-, enabled, -, -, kept⟩ := (sound hr).flags j
    rcases next_item (sound hr) a ha j with ⟨hitem, hhistory⟩ | ⟨e, hmove, hhistory⟩
    · rw [hitem, hhistory]
      exact hs
    · rw [hhistory]
      exact hs.move kept enabled hmove

/-! ## The rules of execution -/

/-- What holds of the items that the worker runs, reads and writes, and of the list. -/
structure ExecutionSafe (s : QueueState Thread Item) : Prop where
  permitted : ∀ j later time earlier, s.history j = later ++ .started time :: earlier →
    RunPermitted earlier
  exclusive : s.workers ≤ 1 ∧ (inProgress s.log).length ≤ 1
  released : ∀ j later thread earlier, s.history j = later ++ .detached thread :: earlier →
    (∀ e ∈ later, e.isAttach = false) →
      s.queue.Ignores j ∧ ∀ e ∈ later, e.isStart = false
  order : s.queue.items = attachOrder s.log ∧ s.queue.items.Nodup ∧
    ∀ j, j ∈ s.queue.items ↔ (s.queue.item j).attached = true

/-- The item was attached when the call gave up; it is disabled and does not start any more, unless it is
attached anew. -/
def LeftDisabled (s : QueueState Thread Item) (j : Item) (later earlier : List (ItemEvent Thread)) :
    Prop :=
  Since (·.isAttach) (·.isDetached) earlier ∧
    ((∀ e ∈ later, e.isAttach = false) →
      (s.queue.item j).enabled = false ∧ ∀ e ∈ later, e.isStart = false)

/-- A call of `Detach` for an item that does not run succeeds without waiting, at once or in its first
test of the running flag. -/
def DetachSucceeds (s : QueueState Thread Item) : Prop :=
  ∀ thread j now timeoutMs now', s.Enabled (.detach thread j now timeoutMs) →
    (s.queue.item j).running = false →
      let t := s.next (.detach thread j now timeoutMs)
      t.log = (j, .detached thread) :: s.log ∨
        t.locked = some thread ∧ t.Enabled (.test thread now') ∧
          (t.next (.test thread now')).log = (j, .detached thread) :: t.log

/-- Every call of `Detach` that times out leaves its item attached. -/
def TimeoutsLeaveAttached (s : QueueState Thread Item) : Prop :=
  ∀ j later thread earlier, s.history j = later ++ .timedOut thread :: earlier →
    Since (·.isAttach) (·.isDetached) (.timedOut thread :: earlier)

/-- Every call of `Detach` that times out leaves its item disabled. -/
def TimeoutsDisable (s : QueueState Thread Item) : Prop :=
  ∀ j later thread earlier, s.history j = later ++ .timedOut thread :: earlier →
    s.LeftDisabled j later earlier

/-- Every call of `Detach` that times out leaves its item disabled if the item was not attached anew
since the call began. -/
def OwnTimeoutsDisable (s : QueueState Thread Item) : Prop :=
  ∀ j later thread waiting earlier,
    s.history j = later ++ .timedOut thread :: (waiting ++ .detaching thread :: earlier) →
      (∀ e ∈ waiting, e.isAttach = false) →
        s.LeftDisabled j later (waiting ++ .detaching thread :: earlier)

theorem executionSafe {s : QueueState Thread Item} (h : (system Thread Item).Reachable s) :
    s.ExecutionSafe := by
  have hsound := sound h
  have hlog := logSound h
  refine ⟨?_, ⟨?_, ?_⟩, ?_, hlog.items, hsound.nodup, fun j => (hsound.flags j).attached⟩
  · intro j later time earlier hsplit
    exact lawful_iff_forall_split.mp (itemSafe h j).starts later _ earlier hsplit rfl
  · rw [hlog.workers]
    split <;> omega
  · rw [← hlog.running]
    unfold Worker.current
    split <;> simp
  · intro j later thread earlier hsplit hlater
    obtain ⟨attached, -, -, running, kept⟩ := hsound.flags j
    have hfree : ¬ (s.queue.item j).attached = true := by
      rw [(itemSafe h j).attached, hsplit]
      intro hsince
      have hnow := Since.of_append hsince fun e he => by simp [hlater e he]
      rcases hnow with hmark | ⟨hopen, -⟩
      · cases hmark
      · exact hopen rfl
    refine ⟨WorkQueue.ignores_of_not_mem (fun hmem => hfree (attached.mp hmem)) ?_, ?_⟩
    · exact fun hrun => hfree (kept (running.mpr hrun))
    · refine no_start_after (itemSafe h j).starts hsplit hlater ?_
      rintro (hmark | ⟨hopen, -⟩)
      · cases hmark
      · exact hopen rfl

omit [DecidableEq Thread] in
/-- While no item is attached anew, an item whose `Detach` has begun is disabled. -/
theorem leftDisabled {s : QueueState Thread Item} {j : Item} (h : ItemSafe (s.queue.item j) (s.history j))
    {later waiting earlier : List (ItemEvent Thread)} {thread : Thread}
    (hsplit : s.history j = later ++ .timedOut thread :: (waiting ++ .detaching thread :: earlier))
    (hwaiting : ∀ e ∈ waiting, e.isAttach = false) :
    s.LeftDisabled j later (waiting ++ .detaching thread :: earlier) := by
  refine ⟨lawful_iff_forall_split.mp h.timeouts later _ _ hsplit rfl, ?_⟩
  intro hlater
  have hbegun : ∀ e ∈ later ++ .timedOut thread :: waiting, e.isAttach = false := by
    intro e he
    rcases List.mem_append.mp he with he | he
    · exact hlater e he
    · rcases List.mem_cons.mp he with rfl | he
      · rfl
      · exact hwaiting e he
  have hsplit' : s.history j = (later ++ .timedOut thread :: waiting) ++ .detaching thread :: earlier := by
    rw [hsplit, List.append_assoc, List.cons_append]
  refine ⟨(h.stopping ?_).2, ?_⟩
  · rw [hsplit']
    exact Since.append (Or.inl rfl) fun e he => by simp [hbegun e he]
  · have hstarts := no_start_after h.starts hsplit' hbegun ?_
    · exact fun e he => hstarts e (List.mem_append_left _ he)
    · rintro (hmark | ⟨hopen, -⟩)
      · cases hmark
      · exact hopen rfl

theorem detachSucceeds (s : QueueState Thread Item) : s.DetachSucceeds := by
  intro thread j now timeoutMs now' henabled hidle
  simp only [next, detach]
  split
  · refine Or.inr ⟨rfl, ⟨Or.inr rfl, ?_⟩, ?_⟩
    · simp [record]
    · have hrun : ((s.queue.disable j).item j).running = false := by
        simp [WorkQueue.disable, WorkItem.disable, hidle]
      simp [record, test, hrun]
  · exact Or.inl rfl

/-- The rules of execution, in every run of any threads. A call of `Detach` that times out leaves its item
attached, and disables it unless the item was attached anew since the call began. -/
theorem execution_safety {s : QueueState Thread Item} (h : (system Thread Item).Reachable s) :
    s.ExecutionSafe ∧ s.TimeoutsLeaveAttached ∧ s.OwnTimeoutsDisable ∧ s.DetachSucceeds := by
  refine ⟨executionSafe h, ?_, ?_, detachSucceeds s⟩
  · intro j later thread earlier hsplit
    have hattached := lawful_iff_forall_split.mp (itemSafe h j).timeouts later _ earlier hsplit rfl
    exact Or.inr ⟨Bool.false_ne_true, hattached⟩
  · intro j later thread waiting earlier hsplit hwaiting
    exact leftDisabled (itemSafe h j) hsplit hwaiting

/-- The item runs; a `Detach` with one millisecond gives up and a later one succeeds. -/
def demoTimeout : List (QueueAction (Fin 2) Unit) :=
  [.start true, .attach () 0, .setInterval () 1 1000, .schedule () 2 0, .scan 3,
    .detach 0 () 4 1, .test 0 4, .test 0 1004, .finish (), .detach 1 () 1005 1, .test 1 1005]

theorem execution_safety_demo :
    (demoTimeout.foldl next {}).ExecutionSafe ∧ (demoTimeout.foldl next {}).TimeoutsLeaveAttached ∧
      (demoTimeout.foldl next {}).OwnTimeoutsDisable ∧ (demoTimeout.foldl next {}).DetachSucceeds := by
  have hstart : (system (Fin 2) Unit).Reachable {} := .start ⟨0, rfl⟩
  exact execution_safety (hstart.foldl_restrict (by decide))

/-- Threads 0 and 1 both wait in `Detach` for the running item. Thread 0 unlinks it, it is attached and
runs again, and now the call of thread 1 times out. -/
def overtaken : List (QueueAction (Fin 2) Unit) :=
  [.start true, .attach () 0, .setInterval () 1 0, .schedule () 2 0, .scan 3,
    .detach 0 () 4 5, .test 0 4, .detach 1 () 5 5, .test 1 5, .finish (), .test 0 6,
    .attach () 0, .setInterval () 7 0, .schedule () 8 0, .scan 9, .test 1 5005, .finish (),
    .schedule () 5006 0, .scan 5007]

/-- The item is attached and enabled after the call of thread 1 has timed out, and runs again. -/
theorem detach_overtaken :
    ∃ s : QueueState (Fin 2) Unit, (system (Fin 2) Unit).Reachable s ∧ ¬ s.TimeoutsDisable := by
  have hstart : (system (Fin 2) Unit).Reachable {} := .start ⟨0, rfl⟩
  refine ⟨overtaken.foldl next {}, hstart.foldl_restrict (by decide), ?_⟩
  intro h
  have hleft := h () [.started 5007, .scheduled 5006 0, .finished] 1 _ rfl
  have hrestart := (hleft.2 (by decide)).2 (.started 5007) List.mem_cons_self
  cases hrestart

end QueueState

end DualMagneticWheel
