/-
# DualMagneticWheel.WorkQueue.Queue — work items and the loop of their worker

A work item belongs to a module and carries its own bookkeeping; a queue is the list of its attached
items with one worker. Every function here is one critical section of the queue's mutex, with the clock
reading it makes. An item is attached first and enabled later, by its first `SetInterval`: until then
every request to schedule it is ignored.

`select` is the scan at the head of the worker's loop. `WorkQueue.Sound` is the invariant that all
critical sections keep: the list holds exactly the attached items, each once, and the running item is the
one the worker runs.
-/
import DualMagneticWheel.Foundation.Loop
import Mathlib.Data.List.Nodup
import Mathlib.Logic.Function.Basic

namespace DualMagneticWheel

open Foundation

/-- `UINT64_MAX`: no due time. -/
def never : UInt64 := 0xffffffffffffffff

/-! ## Work items -/

/-- The fields of class `WorkItem` beside its links. -/
structure WorkItem where
  attached : Bool := false
  enabled : Bool := false
  stopping : Bool := false
  running : Bool := false
  pending : Bool := false
  deadline : UInt64 := 0
  period : UInt64 := 0
  nextPeriodic : UInt64 := 0
  lastStart : UInt64 := 0
  minimumInterval : UInt64 := 0
  deriving DecidableEq

namespace WorkItem

/-- The fields that `WorkQueue::Attach` sets. -/
def attach (minimumIntervalUs : UInt64) (item : WorkItem) : WorkItem :=
  { item with
    minimumInterval := minimumIntervalUs, lastStart := 0, pending := false, period := 0
    attached := true, enabled := false, stopping := false }

/-- `WorkQueue::Schedule`, read at the clock `now`. -/
def schedule (now delayUs : UInt64) (item : WorkItem) : WorkItem :=
  if item.enabled then
    let deadline := now + delayUs
    let earliest := item.lastStart + item.minimumInterval
    let deadline := if item.lastStart ≠ 0 ∧ deadline < earliest then earliest else deadline
    { item with
      deadline := if !item.pending || decide (deadline < item.deadline) then deadline
        else item.deadline
      pending := true }
  else item

/-- `WorkQueue::SetInterval`. -/
def setInterval (now intervalUs : UInt64) (item : WorkItem) : WorkItem :=
  if item.attached && !item.stopping then
    { item with enabled := true, period := intervalUs, nextPeriodic := now + intervalUs }
  else item

/-- `WorkQueue::Clear`. -/
def clear (item : WorkItem) : WorkItem := { item with pending := false, period := 0 }

/-- The first part of `WorkQueue::Detach`: nothing schedules or selects the item any more. -/
def disable (item : WorkItem) : WorkItem :=
  { item with enabled := false, stopping := true, pending := false, period := 0 }

/-- The due time that the scan of `WorkQueue::Loop` computes; `none` where the scan goes on. -/
def due (item : WorkItem) : Option UInt64 :=
  let due := if item.pending then item.deadline else never
  let due := if item.period ≠ 0 ∧ item.nextPeriodic < due then item.nextPeriodic else due
  if !item.enabled || due == never then none
  else
    let earliest := item.lastStart + item.minimumInterval
    some (if item.lastStart ≠ 0 ∧ due < earliest then earliest else due)

/-- What the worker writes before it runs the item. -/
def begin (now : UInt64) (item : WorkItem) : WorkItem :=
  { item with
    pending := false, lastStart := now, running := true
    nextPeriodic := if item.period ≠ 0 then now + item.period else item.nextPeriodic }

/-- What the worker writes after it has run the item. -/
def finish (item : WorkItem) : WorkItem := { item with running := false }

@[simp] theorem schedule_pending (now delayUs : UInt64) (item : WorkItem) :
    (item.schedule now delayUs).pending = (item.pending || item.enabled) := by
  unfold schedule
  split
  · rename_i henabled
    simp [henabled]
  · rename_i henabled
    simp [henabled]

/-- A request to schedule touches the request only. -/
theorem schedule_frame (now delayUs : UInt64) (item : WorkItem) :
    ∃ pending deadline, item.schedule now delayUs = { item with pending, deadline } := by
  unfold schedule
  split
  · exact ⟨_, _, rfl⟩
  · exact ⟨item.pending, item.deadline, rfl⟩

/-- An attached item that is not being stopped is enabled by its first interval. -/
theorem setInterval_enabled {item : WorkItem} (hattached : item.attached = true)
    (hstopping : item.stopping = false) (now intervalUs : UInt64) :
    (item.setInterval now intervalUs).enabled = true ∧
      (item.setInterval now intervalUs).pending = item.pending ∧
      (item.setInterval now intervalUs).running = item.running ∧
      (item.setInterval now intervalUs).attached = true ∧
      (item.setInterval now intervalUs).stopping = false := by
  have hopen : (item.attached && !item.stopping) = true := by
    rw [hattached, hstopping]
    rfl
  unfold setInterval
  rw [if_pos hopen]
  exact ⟨rfl, rfl, rfl, hattached, hstopping⟩

/-- Only an enabled item is due. -/
theorem enabled_of_due {item : WorkItem} {d : UInt64} (h : item.due = some d) :
    item.enabled = true := by
  cases henabled : item.enabled with
  | true => rfl
  | false =>
      simp only [due, henabled, Bool.not_false, Bool.true_or] at h
      cases h

/-! ### The due time -/

/-- What the item asks for, before the rate limit. -/
def request (item : WorkItem) : UInt64 :=
  let due := if item.pending then item.deadline else never
  if item.period ≠ 0 ∧ item.nextPeriodic < due then item.nextPeriodic else due

theorem due_eq (item : WorkItem) :
    item.due = if !item.enabled || item.request == never then none
      else some (if item.lastStart ≠ 0 ∧ item.request < item.lastStart + item.minimumInterval then
        item.lastStart + item.minimumInterval else item.request) := rfl

theorem request_eq (item : WorkItem) :
    ∃ x, (x = if item.pending then item.deadline else never) ∧
      (item.period ≠ 0 ∧ item.nextPeriodic < x ∧ item.request = item.nextPeriodic ∨
        (item.period ≠ 0 → x ≤ item.nextPeriodic) ∧ item.request = x) := by
  refine ⟨_, rfl, ?_⟩
  unfold request
  generalize (if item.pending then item.deadline else never) = x
  dsimp only
  split
  · rename_i hlt
    exact Or.inl ⟨hlt.1, hlt.2, rfl⟩
  · rename_i hnot
    exact Or.inr ⟨fun hperiod => UInt64.not_lt.mp fun hlt => hnot ⟨hperiod, hlt⟩, rfl⟩

theorem request_le_deadline {item : WorkItem} (h : item.pending = true) :
    item.request ≤ item.deadline := by
  obtain ⟨x, hx, ⟨-, hlt, hrequest⟩ | ⟨-, hrequest⟩⟩ := item.request_eq
  · rw [hrequest, ← show x = item.deadline by rw [hx, if_pos h]]
    exact UInt64.le_of_lt hlt
  · rw [hrequest, hx, if_pos h]
    exact UInt64.le_refl _

theorem request_le_nextPeriodic {item : WorkItem} (h : item.period ≠ 0) :
    item.request ≤ item.nextPeriodic := by
  obtain ⟨x, -, ⟨-, -, hrequest⟩ | ⟨hle, hrequest⟩⟩ := item.request_eq
  · rw [hrequest]
    exact UInt64.le_refl _
  · rw [hrequest]
    exact hle h

theorem request_cases (item : WorkItem) :
    item.request = never ∨ item.pending = true ∧ item.request = item.deadline ∨
      item.period ≠ 0 ∧ item.request = item.nextPeriodic := by
  obtain ⟨x, hx, ⟨hperiod, -, hrequest⟩ | ⟨-, hrequest⟩⟩ := item.request_eq
  · exact Or.inr (Or.inr ⟨hperiod, hrequest⟩)
  · rw [hrequest, hx]
    split
    · rename_i hpending
      exact Or.inr (Or.inl ⟨hpending, rfl⟩)
    · exact Or.inl rfl

/-- An item that has run is not due before its rate limit. -/
theorem earliest_le_due {item : WorkItem} {d : UInt64} (h : item.due = some d)
    (hstarted : item.lastStart ≠ 0) : item.lastStart + item.minimumInterval ≤ d := by
  rw [due_eq] at h
  split at h
  · cases h
  · cases h
    split
    · exact UInt64.le_refl _
    · rename_i hnot
      exact UInt64.not_lt.mp fun hlt => hnot ⟨hstarted, hlt⟩

/-- No item is due before it asks to be. -/
theorem request_le_due {item : WorkItem} {d : UInt64} (h : item.due = some d) :
    item.request ≠ never ∧ item.request ≤ d := by
  rw [due_eq] at h
  split at h
  · cases h
  · rename_i hopen
    simp only [Bool.or_eq_true, beq_iff_eq, not_or] at hopen
    cases h
    refine ⟨hopen.2, ?_⟩
    split
    · rename_i hlt
      exact UInt64.le_of_lt hlt.2
    · exact UInt64.le_refl _

/-- An enabled item that asks for a run is due, at its time or at its rate limit. -/
theorem due_of_request {item : WorkItem} (henabled : item.enabled = true)
    (hrequest : item.request ≠ never) :
    ∃ d, item.due = some d ∧
      d.toNat ≤ max item.request.toNat (item.lastStart.toNat + item.minimumInterval.toNat) := by
  rw [due_eq]
  have hopen : (!item.enabled || item.request == never) = false := by
    simp [henabled, hrequest]
  rw [hopen, if_neg Bool.false_ne_true]
  refine ⟨_, rfl, ?_⟩
  split
  · have hsum := Nat.mod_le (item.lastStart.toNat + item.minimumInterval.toNat) (2 ^ 64)
    rw [UInt64.toNat_add]
    omega
  · exact Nat.le_max_left _ _

end WorkItem

/-! ## The queue -/

/-- Where the worker stands: at the head of its loop, inside `Run`, or blocked. A blocked worker has a
wake time, `never` without a time limit, and a broadcast may be outstanding for it. -/
inductive Worker (Item : Type) where
  | scanning
  | running (item : Item)
  | waiting (wake : UInt64) (signalled : Bool)
  deriving DecidableEq

/-- The fields of class `WorkQueue`, with the items it links and its worker. -/
structure WorkQueue (Item : Type) where
  item : Item → WorkItem := fun _ => {}
  items : List Item := []
  started : Bool := false
  exit : Bool := false
  worker : Worker Item := .scanning

namespace WorkQueue

variable {Item : Type} [DecidableEq Item]

/-- `pthread_cond_broadcast`. -/
def broadcast (q : WorkQueue Item) : WorkQueue Item :=
  match q.worker with
  | .waiting wake _ => { q with worker := .waiting wake true }
  | _ => q

/-- Write the fields of one item. -/
def modify (i : Item) (change : WorkItem → WorkItem) (q : WorkQueue Item) : WorkQueue Item :=
  { q with item := Function.update q.item i (change (q.item i)) }

/-- `WorkQueue::Start`; `spawned` is whether the worker could be created. -/
def start (spawned : Bool) (q : WorkQueue Item) : Bool × WorkQueue Item :=
  if q.started then (true, q) else (spawned, { q with exit := false, started := spawned })

/-- `WorkQueue::Attach` on a started queue: at the tail, so that the list is in attach order. -/
def attach (i : Item) (minimumIntervalUs : UInt64) (q : WorkQueue Item) : Bool × WorkQueue Item :=
  if (q.item i).attached || q.exit then (false, q)
  else (true, { q.modify i (·.attach minimumIntervalUs) with items := q.items ++ [i] })

/-- `WorkQueue::Schedule`. -/
def schedule (i : Item) (now delayUs : UInt64) (q : WorkQueue Item) : WorkQueue Item :=
  if (q.item i).enabled then (q.modify i (·.schedule now delayUs)).broadcast else q

/-- `WorkQueue::SetInterval`. -/
def setInterval (i : Item) (now intervalUs : UInt64) (q : WorkQueue Item) : WorkQueue Item :=
  if (q.item i).attached && !(q.item i).stopping then
    (q.modify i (·.setInterval now intervalUs)).broadcast
  else q

/-- `WorkQueue::Clear`. -/
def clear (i : Item) (q : WorkQueue Item) : WorkQueue Item := (q.modify i (·.clear)).broadcast

/-- `WorkQueue::Detach` up to its wait. -/
def disable (i : Item) (q : WorkQueue Item) : WorkQueue Item := (q.modify i (·.disable)).broadcast

/-- `WorkQueue::Detach` after its wait. -/
def unlink (i : Item) (q : WorkQueue Item) : WorkQueue Item :=
  { q.modify i ({ · with attached := false }) with items := q.items.erase i }

/-- The local variables of the scan. -/
structure Scan (Item : Type) where
  selected : Option Item := none
  selectedDeadline : UInt64 := never
  nextWake : UInt64 := never

/-- One item of the scan. -/
def scanTurn (item : Item → WorkItem) (now : UInt64) (s : Scan Item) (i : Item) : Scan Item :=
  match (item i).due with
  | none => s
  | some due =>
      let better := decide (due ≤ now) && decide (due < s.selectedDeadline)
      { selected := if better then some i else s.selected
        selectedDeadline := if better then due else s.selectedDeadline
        nextWake := if due < s.nextWake then due else s.nextWake }

/-- The scan of `WorkQueue::Loop`. -/
def select (now : UInt64) (q : WorkQueue Item) : Scan Item := q.items.foldl (scanTurn q.item now) {}

/-- One round of `WorkQueue::Loop` up to the release of the mutex: run the selected item or wait. -/
def scan (now : UInt64) (q : WorkQueue Item) : WorkQueue Item :=
  match (q.select now).selected with
  | some i => { q.modify i (·.begin now) with worker := .running i }
  | none => { q with worker := .waiting (q.select now).nextWake false }

/-- The worker returns from its wait. -/
def wake (q : WorkQueue Item) : WorkQueue Item := { q with worker := .scanning }

/-- The worker takes the mutex again after `Run`. -/
def finish (i : Item) (q : WorkQueue Item) : WorkQueue Item :=
  { q.modify i (·.finish) with worker := .scanning }

/-- Other contents in the fields of one item. -/
def overwrite (j : Item) (content : WorkItem) (q : WorkQueue Item) : WorkQueue Item :=
  q.modify j fun _ => content

/-- The worker neither reads nor writes the fields of the item: with any other contents of them, what it
does next is the same, and they stay as they are. -/
def Ignores (q : WorkQueue Item) (j : Item) : Prop :=
  ∀ content, (∀ now, (q.overwrite j content).scan now = (q.scan now).overwrite j content) ∧
    (q.overwrite j content).wake = q.wake.overwrite j content ∧
    ∀ i, q.worker = .running i →
      i ≠ j ∧ (q.overwrite j content).finish i = (q.finish i).overwrite j content

/-! ### What a scan finds -/

/-- The state of a scan that has gone over `pre`. -/
structure ScanState (item : Item → WorkItem) (now : UInt64) (pre : List Item) (s : Scan Item) :
    Prop where
  wake : ∀ j ∈ pre, ∀ y, (item j).due = some y → s.nextWake ≤ y
  idle : s.selected = none → s.selectedDeadline = never ∧
    ∀ j ∈ pre, ∀ y, (item j).due = some y → y ≤ now → y = never
  best : ∀ i, s.selected = some i → (item i).due = some s.selectedDeadline ∧
    s.selectedDeadline ≤ now ∧ ∃ before after, pre = before ++ i :: after ∧
      (∀ j ∈ before, ∀ y, (item j).due = some y → y ≤ now → s.selectedDeadline < y) ∧
      ∀ j ∈ after, ∀ y, (item j).due = some y → y ≤ now → s.selectedDeadline ≤ y

theorem le_never (x : UInt64) : x ≤ never := by
  rw [UInt64.le_iff_toNat_le]
  have := x.toNat_lt
  show x.toNat ≤ 18446744073709551615
  omega

omit [DecidableEq Item] in
theorem scanTurn_state {item : Item → WorkItem} {now : UInt64} {pre : List Item} {s : Scan Item}
    (h : ScanState item now pre s) (i : Item) :
    ScanState item now (pre ++ [i]) (scanTurn item now s i) := by
  obtain ⟨hwake, hidle, hbest⟩ := h
  unfold scanTurn
  cases hdue : (item i).due with
  | none =>
      -- the item is not enabled or has nothing to do: the scan passes it over
      have hskip : ∀ j ∈ [i], ∀ y, (item j).due = some y → False := by
        intro j hj y hy
        rw [List.mem_singleton.mp hj, hdue] at hy
        cases hy
      refine ⟨?_, ?_, ?_⟩
      · intro j hj y hy
        rcases List.mem_append.mp hj with hj | hj
        · exact hwake j hj y hy
        · exact (hskip j hj y hy).elim
      · intro hnone
        refine ⟨(hidle hnone).1, ?_⟩
        intro j hj y hy hnow
        rcases List.mem_append.mp hj with hj | hj
        · exact (hidle hnone).2 j hj y hy hnow
        · exact (hskip j hj y hy).elim
      · intro k hk
        obtain ⟨hk', hnow, before, after, rfl, hbefore, hafter⟩ := hbest k hk
        refine ⟨hk', hnow, before, after ++ [i], by simp, hbefore, ?_⟩
        intro j hj y hy
        rcases List.mem_append.mp hj with hj | hj
        · exact hafter j hj y hy
        · exact (hskip j hj y hy).elim
  | some due =>
      dsimp only
      -- whether it is selected or not, its deadline counts for the time to wake up
      have hwake' : ∀ j ∈ pre ++ [i], ∀ y, (item j).due = some y →
          (if due < s.nextWake then due else s.nextWake) ≤ y := by
        intro j hj y hy
        rcases List.mem_append.mp hj with hj | hj
        · have := hwake j hj y hy
          split
          · rename_i hlt
            exact UInt64.le_trans (UInt64.le_of_lt hlt) this
          · exact this
        · rw [List.mem_singleton.mp hj, hdue] at hy
          cases hy
          split
          · exact UInt64.le_refl _
          · rename_i hlt
            exact UInt64.not_lt.mp hlt
      by_cases hbetter : due ≤ now ∧ due < s.selectedDeadline
      · -- the item is due before everything found so far
        rw [show (decide (due ≤ now) && decide (due < s.selectedDeadline)) = true by
          simpa using hbetter]
        refine ⟨hwake', (fun hnone => by cases hnone), ?_⟩
        rintro k hk
        cases hk
        refine ⟨hdue, hbetter.1, pre, [], rfl, ?_, by simp⟩
        intro j hj y hy hnow
        apply UInt64.lt_of_lt_of_le hbetter.2
        cases hsel : s.selected with
        | none =>
            obtain ⟨hnever, hlate⟩ := hidle hsel
            rw [hlate j hj y hy hnow]
            exact le_never _
        | some k =>
            obtain ⟨hk, -, before, after, rfl, hbefore, hafter⟩ := hbest k hsel
            rcases List.mem_append.mp hj with hj | hj
            · exact UInt64.le_of_lt (hbefore j hj y hy hnow)
            · rcases List.mem_cons.mp hj with rfl | hj
              · rw [hk] at hy
                cases hy
                exact UInt64.le_refl _
              · exact hafter j hj y hy hnow
      · rw [show (decide (due ≤ now) && decide (due < s.selectedDeadline)) = false by
          simpa using hbetter]
        -- the first item of the earliest deadline keeps its place
        have hkeep : due ≤ now → s.selectedDeadline ≤ due :=
          fun hnow => UInt64.not_lt.mp fun hlt => hbetter ⟨hnow, hlt⟩
        refine ⟨hwake', ?_, ?_⟩
        · intro hnone
          obtain ⟨hnever, hlate⟩ := hidle hnone
          refine ⟨hnever, ?_⟩
          intro j hj y hy hnow
          rcases List.mem_append.mp hj with hj | hj
          · exact hlate j hj y hy hnow
          · rw [List.mem_singleton.mp hj, hdue] at hy
            cases hy
            have hle := hkeep hnow
            rw [hnever] at hle
            exact UInt64.le_antisymm (le_never _) hle
        · intro k hk
          obtain ⟨hk', hnow, before, after, rfl, hbefore, hafter⟩ := hbest k hk
          refine ⟨hk', hnow, before, after ++ [i], by simp, hbefore, ?_⟩
          intro j hj y hy hynow
          rcases List.mem_append.mp hj with hj | hj
          · exact hafter j hj y hy hynow
          · rw [List.mem_singleton.mp hj, hdue] at hy
            cases hy
            exact hkeep hynow

omit [DecidableEq Item] in
/-- What the scan of the whole list finds. -/
theorem select_state (q : WorkQueue Item) (now : UInt64) :
    ScanState q.item now q.items (q.select now) := by
  refine foldl_invariant (ScanState q.item now) ?_ ?_
  · exact ⟨by simp, fun _ => ⟨rfl, by simp⟩, fun i hi => by cases hi⟩
  · intro pre i s _ hs
    exact scanTurn_state hs i

omit [DecidableEq Item] in
/-- The worker selects a linked item that is enabled. -/
theorem selected_spec {q : WorkQueue Item} {now : UInt64} {i : Item}
    (hsel : (q.select now).selected = some i) : i ∈ q.items ∧ (q.item i).enabled = true := by
  obtain ⟨hdue, -, before, after, hitems, -⟩ := (select_state q now).best i hsel
  exact ⟨by rw [hitems]; simp, WorkItem.enabled_of_due hdue⟩

/-! ### Frames -/

section Frames

omit [DecidableEq Item]

@[simp] theorem broadcast_item (q : WorkQueue Item) : q.broadcast.item = q.item := by
  unfold broadcast
  split <;> rfl

@[simp] theorem broadcast_items (q : WorkQueue Item) : q.broadcast.items = q.items := by
  unfold broadcast
  split <;> rfl

@[simp] theorem broadcast_running (q : WorkQueue Item) (i : Item) :
    q.broadcast.worker = .running i ↔ q.worker = .running i := by
  unfold broadcast
  split
  · rename_i wake signalled hworker
    simp [hworker]
  · rfl

end Frames

@[simp] theorem modify_self (i : Item) (change : WorkItem → WorkItem) (q : WorkQueue Item) :
    (q.modify i change).item i = change (q.item i) := Function.update_self ..

@[simp] theorem modify_of_ne {i j : Item} (h : j ≠ i) (change : WorkItem → WorkItem)
    (q : WorkQueue Item) : (q.modify i change).item j = q.item j := Function.update_of_ne h ..

/-- Changes of two items can be made in either order. -/
theorem modify_comm {i j : Item} (h : i ≠ j) (f g : WorkItem → WorkItem) (q : WorkQueue Item) :
    (q.modify j g).modify i f = (q.modify i f).modify j g := by
  have hitem : Function.update (Function.update q.item j (g (q.item j))) i (f (q.item i)) =
      Function.update (Function.update q.item i (f (q.item i))) j (g (q.item j)) :=
    Function.update_comm h.symm ..
  unfold modify
  dsimp only
  rw [Function.update_of_ne h, Function.update_of_ne h.symm, hitem]

omit [DecidableEq Item] in
theorem foldl_scanTurn_congr {item item' : Item → WorkItem} (now : UInt64) {items : List Item}
    (h : ∀ i ∈ items, item i = item' i) (s : Scan Item) :
    items.foldl (scanTurn item now) s = items.foldl (scanTurn item' now) s := by
  induction items generalizing s with
  | nil => rfl
  | cons i items ih =>
      have hturn : scanTurn item now s i = scanTurn item' now s i := by
        unfold scanTurn
        rw [h i List.mem_cons_self]
      rw [List.foldl_cons, List.foldl_cons, hturn]
      exact ih (fun k hk => h k (List.mem_cons_of_mem i hk)) _

/-- An item that is not in the list and does not run is no concern of the worker's. -/
theorem ignores_of_not_mem {q : WorkQueue Item} {j : Item} (hmem : j ∉ q.items)
    (hrunning : q.worker ≠ .running j) : q.Ignores j := by
  intro content
  have hselect : ∀ now, (q.overwrite j content).select now = q.select now := by
    intro now
    refine foldl_scanTurn_congr now ?_ {}
    intro i hi
    exact modify_of_ne (ne_of_mem_of_not_mem hi hmem) _ q
  refine ⟨?_, rfl, ?_⟩
  · intro now
    unfold scan
    rw [hselect]
    cases hsel : (q.select now).selected with
    | none => rfl
    | some i =>
        have hi : i ≠ j := ne_of_mem_of_not_mem (selected_spec hsel).1 hmem
        unfold overwrite
        dsimp only
        rw [modify_comm hi]
        rfl
  · intro i hi
    have hne : i ≠ j := fun heq => hrunning (heq ▸ hi)
    refine ⟨hne, ?_⟩
    unfold finish overwrite
    rw [modify_comm hne]
    rfl

/-! ### The invariant of the flags -/

/-- The flags of an item tell whether the list links it and whether the worker runs it. -/
structure FlagsSound (item : WorkItem) (linked running : Prop) : Prop where
  attached : linked ↔ item.attached = true
  enabled : item.enabled = true → item.stopping = false
  pending : item.pending = true → item.enabled = true
  running : item.running = true ↔ running
  kept : item.running = true → item.attached = true

/-- The list holds exactly the attached items, each once; no item that is being stopped is enabled, only
enabled ones have a request; the running item is attached and the worker runs it. -/
structure Sound (q : WorkQueue Item) : Prop where
  nodup : q.items.Nodup
  flags : ∀ i, FlagsSound (q.item i) (i ∈ q.items) (q.worker = .running i)

omit [DecidableEq Item] in
theorem sound_empty : Sound ({} : WorkQueue Item) where
  nodup := List.nodup_nil
  flags i := ⟨by simp, nofun, nofun, by simp, nofun⟩

/-- A critical section that concerns one item. -/
theorem Sound.step {q q' : WorkQueue Item} (h : Sound q) (i : Item) (hnodup : q'.items.Nodup)
    (hother : ∀ j, j ≠ i → q'.item j = q.item j ∧ (j ∈ q'.items ↔ j ∈ q.items) ∧
      (q'.worker = .running j ↔ q.worker = .running j))
    (hself : FlagsSound (q'.item i) (i ∈ q'.items) (q'.worker = .running i)) : Sound q' := by
  refine ⟨hnodup, ?_⟩
  intro j
  by_cases hj : j = i
  · rw [hj]
    exact hself
  · obtain ⟨hitem, hlinked, hrunning⟩ := hother j hj
    rw [hitem, hlinked, hrunning]
    exact h.flags j

/-- A change of the request fields of one item. -/
theorem Sound.modify {q : WorkQueue Item} (h : Sound q) (i : Item) {change : WorkItem → WorkItem}
    (hattached : (change (q.item i)).attached = (q.item i).attached)
    (hrunning : (change (q.item i)).running = (q.item i).running)
    (henabled : (change (q.item i)).enabled = true → (change (q.item i)).stopping = false)
    (hpending : (change (q.item i)).pending = true → (change (q.item i)).enabled = true) :
    Sound (q.modify i change).broadcast := by
  obtain ⟨attached, -, -, running, kept⟩ := h.flags i
  refine h.step i ?_ ?_ ?_
  · rw [broadcast_items]
    exact h.nodup
  · intro j hj
    rw [broadcast_item, broadcast_items, broadcast_running, modify_of_ne hj]
    exact ⟨rfl, Iff.rfl, Iff.rfl⟩
  · rw [broadcast_item, broadcast_items, broadcast_running, modify_self]
    rw [← hattached] at attached kept
    rw [← hrunning] at running kept
    exact ⟨attached, henabled, hpending, running, kept⟩

theorem schedule_sound {q : WorkQueue Item} (h : Sound q) (i : Item) (now delayUs : UInt64) :
    Sound (q.schedule i now delayUs) := by
  unfold schedule
  split
  · rename_i henabled
    obtain ⟨pending, deadline, hframe⟩ := (q.item i).schedule_frame now delayUs
    refine h.modify i ?_ ?_ ?_ ?_
    · rw [hframe]
    · rw [hframe]
    · rw [hframe]
      exact (h.flags i).enabled
    · rw [hframe]
      exact fun _ => henabled
  · exact h

theorem setInterval_sound {q : WorkQueue Item} (h : Sound q) (i : Item) (now intervalUs : UInt64) :
    Sound (q.setInterval i now intervalUs) := by
  unfold setInterval
  split
  · rename_i hopen
    simp only [Bool.and_eq_true, Bool.not_eq_true'] at hopen
    obtain ⟨henabled, hpending, hrunning, hattached, hstopping⟩ :=
      WorkItem.setInterval_enabled hopen.1 hopen.2 now intervalUs
    exact h.modify i (hattached.trans hopen.1.symm) hrunning (fun _ => hstopping)
      (fun _ => henabled)
  · exact h

theorem clear_sound {q : WorkQueue Item} (h : Sound q) (i : Item) : Sound (q.clear i) :=
  h.modify i rfl rfl (h.flags i).enabled nofun

theorem disable_sound {q : WorkQueue Item} (h : Sound q) (i : Item) : Sound (q.disable i) :=
  h.modify i rfl rfl nofun nofun

theorem attach_sound {q : WorkQueue Item} (h : Sound q) (i : Item) (minimumIntervalUs : UInt64) :
    Sound (q.attach i minimumIntervalUs).2 := by
  unfold attach
  split
  · exact h
  · rename_i hfree
    simp only [Bool.or_eq_true, not_or, Bool.not_eq_true] at hfree
    obtain ⟨attached, -, -, running, kept⟩ := h.flags i
    have hnew : i ∉ q.items := by
      rw [attached, hfree.1]
      exact Bool.false_ne_true
    refine h.step i ?_ ?_ ?_
    · refine List.nodup_append.mpr ⟨h.nodup, List.nodup_singleton i, ?_⟩
      rintro j hj k hk rfl
      exact hnew (List.mem_singleton.mp hk ▸ hj)
    · intro j hj
      refine ⟨modify_of_ne hj _ q, ?_, Iff.rfl⟩
      rw [List.mem_append, List.mem_singleton]
      exact or_iff_left hj
    · dsimp only
      rw [modify_self]
      exact ⟨⟨fun _ => rfl, fun _ => List.mem_append_right _ (List.mem_singleton_self i)⟩, nofun,
        nofun, running, fun _ => rfl⟩

/-- An item may be unlinked while it does not run. -/
theorem unlink_sound {q : WorkQueue Item} (h : Sound q) {i : Item}
    (hrunning : (q.item i).running = false) : Sound (q.unlink i) := by
  obtain ⟨-, enabled, pending, running, -⟩ := h.flags i
  refine h.step i (h.nodup.erase i) ?_ ?_
  · intro j hj
    refine ⟨?_, List.mem_erase_of_ne hj, Iff.rfl⟩
    unfold unlink
    dsimp only
    rw [modify_of_ne hj]
  · unfold unlink
    dsimp only
    rw [modify_self]
    refine ⟨⟨fun hmem => absurd hmem h.nodup.not_mem_erase, nofun⟩, enabled, pending, running, ?_⟩
    intro hrun
    rw [hrunning] at hrun
    cases hrun

theorem scan_sound {q : WorkQueue Item} (h : Sound q) (hworker : q.worker = .scanning) (now : UInt64) :
    Sound (q.scan now) := by
  unfold scan
  split
  · rename_i i hsel
    obtain ⟨hmem, -⟩ := selected_spec hsel
    obtain ⟨attached, enabled, -, -, -⟩ := h.flags i
    refine h.step i h.nodup ?_ ?_
    · intro j hj
      refine ⟨modify_of_ne hj _ q, Iff.rfl, ?_⟩
      rw [hworker]
      exact ⟨fun hrun => absurd (Worker.running.inj hrun).symm hj, nofun⟩
    · dsimp only
      rw [modify_self]
      exact ⟨attached, enabled, nofun, ⟨fun _ => rfl, fun _ => rfl⟩, fun _ => attached.mp hmem⟩
  · refine ⟨h.nodup, ?_⟩
    intro j
    obtain ⟨attached, enabled, pending, running, kept⟩ := h.flags j
    rw [hworker] at running
    exact ⟨attached, enabled, pending, running.trans ⟨nofun, nofun⟩, kept⟩

omit [DecidableEq Item] in
theorem wake_sound {q : WorkQueue Item} (h : Sound q) (hworker : ∀ i, q.worker ≠ .running i) :
    Sound q.wake := by
  refine ⟨h.nodup, ?_⟩
  intro j
  obtain ⟨attached, enabled, pending, running, kept⟩ := h.flags j
  exact ⟨attached, enabled, pending,
    running.trans ⟨fun hrun => absurd hrun (hworker j), nofun⟩, kept⟩

theorem finish_sound {q : WorkQueue Item} (h : Sound q) {i : Item} (hworker : q.worker = .running i) :
    Sound (q.finish i) := by
  obtain ⟨attached, enabled, pending, -, -⟩ := h.flags i
  refine h.step i h.nodup ?_ ?_
  · intro j hj
    refine ⟨modify_of_ne hj _ q, Iff.rfl, ?_⟩
    rw [hworker]
    exact ⟨nofun, fun hrun => absurd (Worker.running.inj hrun).symm hj⟩
  · unfold finish
    dsimp only
    rw [modify_self]
    exact ⟨attached, enabled, pending, ⟨nofun, nofun⟩, nofun⟩

end WorkQueue

end DualMagneticWheel
