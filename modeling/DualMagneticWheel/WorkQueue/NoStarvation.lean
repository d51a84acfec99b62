/-
# DualMagneticWheel.WorkQueue.NoStarvation — a due item is not passed by twice

The worker starts the item with the smallest due time, the earliest attached on a tie. An item that has
started is due again no earlier than it started: its requests and its period are counted from a later
time. So it cannot pass by an item that was due before its start a second time.

`ItemBounded` is the lower bound for the due times of one item, `due_after_start` what it says after a
start. The bound is on sums of times, so one of two kinds of sums has to stay below 2^64: the rate limit
of the item that started, or all its requests and periods. `bypassed_twice` is a run where both wrap.
-/
import DualMagneticWheel.WorkQueue.TimingContract

namespace DualMagneticWheel

open Foundation

namespace ItemEvent

variable {Thread : Type}

/-- The events other than requests and the end of a `Run`. -/
def touches : ItemEvent Thread → Bool
  | .scheduled _ _ | .finished | .timedOut _ => false
  | _ => true

end ItemEvent

/-! ## Lower bounds for due times -/

variable {Thread : Type}

/-- The requests of an item are counted from calls after its last start, its period from the last start or
a later interval. -/
structure ItemBounded (item : WorkItem) (history : List (ItemEvent Thread)) : Prop where
  requested : item.pending = true → ∃ t delayUs,
    Since (· = .scheduled t delayUs) (·.isStart) history ∧ t + delayUs ≤ item.deadline
  repeated : item.period ≠ 0 → ∃ base, OpenPeriod base item.period history ∧
    (Since (· = .interval base item.period) (·.isStart) history ∧
        item.nextPeriodic = base + item.period ∨
      ∃ t, Since (· = .started t) (fun e => e.isStart || e.isInterval) history ∧
        item.nextPeriodic = t + item.period)

theorem itemBounded_start : ItemBounded {} ([] : List (ItemEvent Thread)) where
  requested := nofun
  repeated h := absurd rfl h

/-- An event that neither starts the item nor concerns its requests and its period. -/
theorem ItemBounded.other {item item' : WorkItem} {history : List (ItemEvent Thread)}
    {e : ItemEvent Thread} (h : ItemBounded item history)
    (hkind : e.isStart = false ∧ e.isInterval = false ∧ e.endsPeriod = false)
    (hrequest : item'.pending = item.pending ∧ item'.deadline = item.deadline)
    (hperiod : item'.period = item.period ∧ item'.nextPeriodic = item.nextPeriodic) :
    ItemBounded item' (e :: history) := by
  obtain ⟨hstart, hinterval, hends⟩ := hkind
  obtain ⟨requested, repeated⟩ := h
  rw [← hrequest.1, ← hrequest.2] at requested
  rw [← hperiod.1, ← hperiod.2] at repeated
  refine ⟨?_, ?_⟩
  · intro hpending
    obtain ⟨t, delayUs, hsince, hle⟩ := requested hpending
    exact ⟨t, delayUs, Or.inr ⟨by simp [hstart], hsince⟩, hle⟩
  · intro hset
    obtain ⟨base, hopen, ⟨hsince, hnext⟩ | ⟨t, hsince, hnext⟩⟩ := repeated hset
    · exact ⟨base, Or.inr ⟨by simp [hends], hopen⟩,
        Or.inl ⟨Or.inr ⟨by simp [hstart], hsince⟩, hnext⟩⟩
    · exact ⟨base, Or.inr ⟨by simp [hends], hopen⟩,
        Or.inr ⟨t, Or.inr ⟨by simp [hstart, hinterval], hsince⟩, hnext⟩⟩

/-- A request made now asks for no earlier time than its delay, or for what was asked before. -/
theorem WorkItem.le_schedule_deadline (item : WorkItem) (now delayUs : UInt64)
    (henabled : item.enabled = true) :
    now + delayUs ≤ (item.schedule now delayUs).deadline ∨
      item.pending = true ∧ (item.schedule now delayUs).deadline = item.deadline := by
  unfold schedule
  rw [if_pos henabled]
  dsimp only
  generalize hx : (if item.lastStart ≠ 0 ∧ now + delayUs < item.lastStart + item.minimumInterval then
    item.lastStart + item.minimumInterval else now + delayUs) = x
  have hle : now + delayUs ≤ x := by
    rw [← hx]
    split
    · rename_i hlimited
      exact UInt64.le_of_lt hlimited.2
    · exact UInt64.le_refl _
  split
  · exact Or.inl hle
  · rename_i hworse
    simp only [Bool.or_eq_true, Bool.not_eq_true', decide_eq_true_eq, not_or,
      Bool.not_eq_false] at hworse
    exact Or.inr ⟨hworse.1, rfl⟩

theorem ItemBounded.move {item item' : WorkItem} {history : List (ItemEvent Thread)} {now : UInt64}
    {e : ItemEvent Thread} (h : ItemBounded item history) (hmove : item.Move now e item') :
    ItemBounded item' (e :: history) := by
  cases hmove with
  | attached m hfree => exact ⟨nofun, fun hset => absurd rfl hset⟩
  | scheduled delayUs henabled =>
      have hbound := item.le_schedule_deadline now delayUs henabled
      obtain ⟨pending, deadline, hframe⟩ := item.schedule_frame now delayUs
      rw [hframe] at hbound ⊢
      refine ⟨?_, ?_⟩
      · intro _
        rcases hbound with hle | ⟨hpending, hsame⟩
        · exact ⟨now, delayUs, Or.inl rfl, hle⟩
        · obtain ⟨t, delay, hsince, hle⟩ := h.requested hpending
          exact ⟨t, delay, Or.inr ⟨nofun, hsince⟩, hsame ▸ hle⟩
      · exact (h.other ⟨rfl, rfl, rfl⟩ ⟨rfl, rfl⟩ ⟨rfl, rfl⟩).repeated
  | interval intervalUs hattached hopen =>
      have hset : item.setInterval now intervalUs =
          { item with enabled := true, period := intervalUs, nextPeriodic := now + intervalUs } := by
        unfold WorkItem.setInterval
        rw [hattached, hopen]
        rfl
      rw [hset]
      refine ⟨?_, fun _ => ⟨now, Or.inl rfl, Or.inl ⟨Or.inl rfl, rfl⟩⟩⟩
      intro hpending
      obtain ⟨t, delay, hsince, hle⟩ := h.requested hpending
      exact ⟨t, delay, Or.inr ⟨nofun, hsince⟩, hle⟩
  | cleared => exact ⟨nofun, fun hset => absurd rfl hset⟩
  | detaching thread hattached => exact ⟨nofun, fun hset => absurd rfl hset⟩
  | detached thread hidle => exact h.other ⟨rfl, rfl, rfl⟩ ⟨rfl, rfl⟩ ⟨rfl, rfl⟩
  | timedOut thread hrunning => exact h.other ⟨rfl, rfl, rfl⟩ ⟨rfl, rfl⟩ ⟨rfl, rfl⟩
  | started due hattached hidle hdue hnow =>
      refine ⟨nofun, ?_⟩
      intro hset
      have hset' : item.period ≠ 0 := hset
      obtain ⟨base, hopen, -⟩ := h.repeated hset'
      refine ⟨base, Or.inr ⟨nofun, hopen⟩, Or.inr ⟨now, Or.inl rfl, ?_⟩⟩
      show (if item.period ≠ 0 then now + item.period else item.nextPeriodic) = _
      rw [if_pos hset']
      rfl
  | finished hrunning => exact h.other ⟨rfl, rfl, rfl⟩ ⟨rfl, rfl⟩ ⟨rfl, rfl⟩

/-- The sums of times that decide when an item is due after it has started at `t₁`: either its rate limit
does not wrap and it is not attached anew, or none of its requests and periods wraps. -/
def SumsFit (mid : List (ItemEvent Thread)) (t₁ : UInt64) (before : List (ItemEvent Thread)) : Prop :=
  (∃ m, LastAttach m before ∧ t₁.toNat + m.toNat < 2 ^ 64 ∧ ∀ e ∈ mid, e.isAttach = false) ∨
    (∀ t delayUs, .scheduled t delayUs ∈ mid → t.toNat + delayUs.toNat < 2 ^ 64) ∧
      (∀ t p, .interval t p ∈ mid → t.toNat + p.toNat < 2 ^ 64) ∧
        ∀ base p, OpenPeriod base p before → t₁.toNat + p.toNat < 2 ^ 64

theorem le_add_of_fits {x y : UInt64} (h : x.toNat + y.toNat < 2 ^ 64) : x ≤ x + y := by
  rw [UInt64.le_iff_toNat_le, UInt64.toNat_add, Nat.mod_eq_of_lt h]
  exact Nat.le_add_right _ _

/-- An item that started at `t₁`, and not again since, is due no earlier. -/
theorem due_after_start {clock t₁ due : UInt64} {item : WorkItem} {mid before : List (ItemEvent Thread)}
    (htimed : ItemTimed clock item (mid ++ .started t₁ :: before))
    (hbounded : ItemBounded item (mid ++ .started t₁ :: before))
    (hmid : ∀ e ∈ mid, e.isStart = false) (hfits : SumsFit mid t₁ before)
    (hdue : item.due = some due) : t₁ ≤ due := by
  rcases hfits with ⟨m, hattach, hsum, hsame⟩ | ⟨hrequests, hintervals, hperiod⟩
  · -- the rate limit of the same attachment
    have hstart : LastStart t₁ (mid ++ .started t₁ :: before) := by
      refine Since.append (Or.inl rfl) ?_
      intro e he
      simp [hmid e he, hsame e he]
    have hattach' : LastAttach m (mid ++ .started t₁ :: before) := by
      refine Since.append (Or.inr ⟨nofun, hattach⟩) ?_
      intro e he
      simp [hsame e he]
    obtain ⟨hlast, hne⟩ := htimed.started t₁ hstart
    have hlimit := WorkItem.earliest_le_due hdue (by rw [hlast]; exact hne)
    rw [hlast, htimed.minimum m hattach'] at hlimit
    exact UInt64.le_trans (le_add_of_fits hsum) hlimit
  · -- every request and interval of `mid` was made after the start
    have hlate : ∀ e ∈ mid, ∀ t ∈ e.time, t₁ ≤ t := by
      intro e he t ht
      obtain ⟨newer, older, rfl⟩ := List.append_of_mem he
      refine lawful_iff_forall_split.mp htimed.ordered newer e (older ++ .started t₁ :: before) ?_ t ht
        (.started t₁) ?_ t₁ rfl
      · simp
      · simp
    obtain ⟨hne, hrequest⟩ := WorkItem.request_le_due hdue
    refine UInt64.le_trans ?_ hrequest
    rcases item.request_cases with hnever | ⟨hpending, hrequest⟩ | ⟨hset, hrequest⟩
    · exact absurd hnever hne
    · -- a request that is pending was made after the start, which served the older ones
      obtain ⟨t, delayUs, hsince, hle⟩ := hbounded.requested hpending
      obtain ⟨e, he, rfl⟩ := hsince.mem_newer rfl nofun
      rw [hrequest]
      exact UInt64.le_trans (hlate _ he t rfl)
        (UInt64.le_trans (le_add_of_fits (hrequests t delayUs he)) hle)
    · obtain ⟨base, hopen, ⟨hsince, hnext⟩ | ⟨t, hsince, hnext⟩⟩ := hbounded.repeated hset
      · obtain ⟨e, he, rfl⟩ := hsince.mem_newer rfl nofun
        rw [hrequest, hnext]
        exact UInt64.le_trans (hlate _ he base rfl) (le_add_of_fits (hintervals base item.period he))
      · -- the period was renewed by that start
        obtain ⟨hmark, hquiet⟩ := hsince.at_barred (by rintro e he rfl; cases hmid _ he) rfl
        cases hmark
        have hbefore : OpenPeriod base item.period before := by
          have hrest := Since.of_append hopen (by rintro e he rfl; exact hquiet _ he rfl)
          rcases hrest with hmark | ⟨-, hbefore⟩
          · cases hmark
          · exact hbefore
        rw [hrequest, hnext]
        exact le_add_of_fits (hperiod base item.period hbefore)

/-! ## The scan -/

namespace QueueState

variable {Item : Type} [DecidableEq Thread] [DecidableEq Item]

/-- The worker starts the item that is due first, of those the earliest attached, and it starts one if one
is due; `Due` are the due times that count. -/
def ScansFairly (Due : UInt64 → Prop) (s : QueueState Thread Item) : Prop :=
  ∀ now, s.Enabled (.scan now) →
    (∀ i, (s.next (.scan now)).queue.worker = .running i →
      ∃ d before after, (s.queue.item i).due = some d ∧ d ≤ now ∧
        attachOrder s.log = before ++ i :: after ∧
        (∀ j ∈ before, ∀ y, (s.queue.item j).due = some y → y ≤ now → d < y) ∧
        ∀ j ∈ after, ∀ y, (s.queue.item j).due = some y → y ≤ now → d ≤ y) ∧
      ((∃ j ∈ attachOrder s.log, ∃ y, (s.queue.item j).due = some y ∧ y ≤ now ∧ Due y) →
        ∃ i, (s.next (.scan now)).queue.worker = .running i)

theorem scan_worker (s : QueueState Thread Item) (now : UInt64) :
    (s.next (.scan now)).queue.worker =
      match (s.queue.select now).selected with
      | some i => .running i
      | none => .waiting (s.queue.select now).nextWake false := by
  simp only [next, WorkQueue.scan]
  cases (s.queue.select now).selected <;> rfl

theorem scansFairly {s : QueueState Thread Item} (h : (system Thread Item).Reachable s) :
    s.ScansFairly (· ≠ never) := by
  intro now _
  have hstate := WorkQueue.select_state s.queue now
  rw [scan_worker, ← (logSound h).items]
  cases hsel : (s.queue.select now).selected with
  | none =>
      refine ⟨nofun, ?_⟩
      rintro ⟨j, hj, y, hdue, hnow, hy⟩
      exact absurd ((hstate.idle hsel).2 j hj y hdue hnow) hy
  | some i =>
      obtain ⟨hdue, hnow, before, after, hitems, hbefore, hafter⟩ := hstate.best i hsel
      refine ⟨?_, fun _ => ⟨i, rfl⟩⟩
      rintro j ⟨⟩
      exact ⟨_, before, after, hdue, hnow, hitems, hbefore, hafter⟩

/-! ## Runs from a state in which an item is due -/

/-- The runs with a clock that go on from a state. -/
def timedFrom (s₀ : QueueState Thread Item) :
    Transition (QueueState Thread Item) (QueueAction Thread Item) :=
  (Transition.ofFun (· = s₀) next).restrict fun s a => s.Enabled a ∧ s.Clocked a

theorem timedFrom_reachable {s₀ s : QueueState Thread Item} (h₀ : (timed Thread Item).Reachable s₀)
    (h : (timedFrom s₀).Reachable s) : (timed Thread Item).Reachable s := by
  induction h with
  | start h0 =>
      cases h0
      exact h₀
  | next _ hst ih => exact .next ih hst

theorem itemBounded {s : QueueState Thread Item} (h : (system Thread Item).Reachable s) (j : Item) :
    ItemBounded (s.queue.item j) (s.history j) := by
  refine h.invariant (fun s => ItemBounded (s.queue.item j) (s.history j)) ?_ ?_
  · rintro s ⟨clock, rfl⟩
    exact itemBounded_start
  · rintro s a t hr hs ⟨ha, rfl⟩
    rcases next_item (sound hr) a ha j with ⟨hitem, hhistory⟩ | ⟨e, hmove, hhistory⟩
    · rw [hitem, hhistory]
      exact hs
    · rw [hhistory]
      exact hs.move hmove

/-- Some item has started twice, with no start in between, at times after `d`, while nothing touched `X`
and `X` did not start. -/
def BypassedTwice (Fits : List (ItemEvent Thread) → UInt64 → List (ItemEvent Thread) → Prop)
    (s₀ s : QueueState Thread Item) (X : Item) (d : UInt64) : Prop :=
  ∃ Y later t₂ mid t₁ first, Y ≠ X ∧
    s.log = later ++ (Y, .started t₂) :: (mid ++ (Y, .started t₁) :: (first ++ s₀.log)) ∧
    (∀ e ∈ eventsOf Y mid, e.isStart = false) ∧
    (∀ e ∈ eventsOf X (mid ++ (Y, .started t₁) :: first), e.touches = false) ∧
    d < t₁ ∧ d < t₂ ∧ Fits (eventsOf Y mid) t₁ (eventsOf Y (first ++ s₀.log))

omit [DecidableEq Thread] in
theorem eventsOf_append (j : Item) (newer older : List (Item × ItemEvent Thread)) :
    eventsOf j (newer ++ older) = eventsOf j newer ++ eventsOf j older :=
  List.filterMap_append

omit [DecidableEq Thread] in
theorem eventsOf_cons_self (j : Item) (e : ItemEvent Thread) (older : List (Item × ItemEvent Thread)) :
    eventsOf j ((j, e) :: older) = e :: eventsOf j older := by
  simp [eventsOf]

/-- While `X` is not touched and does not start, it stays attached and due no later than `d`. -/
structure DueKept (s₀ s : QueueState Thread Item) (X : Item) (d : UInt64) : Prop where
  grown : ∃ new, s.log = new ++ s₀.log
  kept : ∀ new, s.history X = new ++ s₀.history X → (∀ e ∈ new, e.touches = false) →
    (s.queue.item X).attached = true ∧ ∃ due, (s.queue.item X).due = some due ∧ due ≤ d

/-- A step records at most one event. -/
theorem next_log (s : QueueState Thread Item) (a : QueueAction Thread Item) :
    (s.next a).log = s.log ∨ ∃ e, (s.next a).log = e :: s.log := by
  cases a with
  | start spawned => exact Or.inl rfl
  | attach i m =>
      simp only [next]
      split
      · exact Or.inr ⟨_, rfl⟩
      · exact Or.inl rfl
  | schedule i now delayUs =>
      simp only [next]
      split
      · exact Or.inr ⟨_, rfl⟩
      · exact Or.inl rfl
  | setInterval i now intervalUs =>
      simp only [next]
      split
      · exact Or.inr ⟨_, rfl⟩
      · exact Or.inl rfl
  | clear i => exact Or.inr ⟨_, rfl⟩
  | detach thread i now timeoutMs =>
      simp only [next, detach]
      split
      · exact Or.inr ⟨_, rfl⟩
      · exact Or.inr ⟨_, rfl⟩
  | test thread now =>
      simp only [next]
      split
      · unfold test
        split
        · split
          · exact Or.inr ⟨_, rfl⟩
          · exact Or.inl rfl
        · exact Or.inr ⟨_, rfl⟩
      · exact Or.inl rfl
  | scan now =>
      simp only [next]
      split
      · exact Or.inr ⟨_, rfl⟩
      · exact Or.inl rfl
  | wake => exact Or.inl rfl
  | finish i => exact Or.inr ⟨_, rfl⟩

/-- A request only brings the due time forward. -/
theorem due_schedule_le {item : WorkItem} {now delayUs due : UInt64} (h : item.due = some due) :
    ∃ due', (item.schedule now delayUs).due = some due' ∧ due' ≤ due := by
  have henabled := WorkItem.enabled_of_due h
  obtain ⟨hne, hle⟩ := WorkItem.request_le_due h
  obtain ⟨-, hmerge⟩ := item.schedule_deadline_le now delayUs henabled
  have hpending := item.schedule_pending now delayUs
  rw [henabled, Bool.or_true] at hpending
  obtain ⟨pending, deadline, hframe⟩ := item.schedule_frame now delayUs
  rw [hframe] at hmerge hpending ⊢
  -- the new request is no later than the old one
  have hrequest : WorkItem.request { item with pending, deadline } ≤ item.request := by
    rcases item.request_cases with hnever | ⟨hold, heq⟩ | ⟨hset, heq⟩
    · exact absurd hnever hne
    · rw [heq]
      exact UInt64.le_trans (WorkItem.request_le_deadline hpending) (hmerge hold)
    · rw [heq]
      have hset' : WorkItem.period { item with pending, deadline } ≠ 0 := hset
      exact WorkItem.request_le_nextPeriodic hset'
  have hne' : WorkItem.request { item with pending, deadline } ≠ never := by
    intro heq
    rw [heq] at hrequest
    exact hne (UInt64.le_antisymm (WorkQueue.le_never _) hrequest)
  have hopen : (!item.enabled || WorkItem.request { item with pending, deadline } == never) = false :=
    Bool.or_eq_false_iff.mpr ⟨by rw [henabled]; rfl, beq_eq_false_iff_ne.mpr hne'⟩
  rw [WorkItem.due_eq, hopen, if_neg Bool.false_ne_true]
  refine ⟨_, rfl, ?_⟩
  split
  · rename_i hlimited
    have hlimit : item.lastStart + item.minimumInterval ≤ due :=
      WorkItem.earliest_le_due h hlimited.1
    exact hlimit
  · exact UInt64.le_trans hrequest hle

theorem dueKept {s₀ s : QueueState Thread Item} {X : Item} {d : UInt64}
    (h₀ : (timed Thread Item).Reachable s₀) (hX : X ∈ s₀.queue.items)
    (hd : (s₀.queue.item X).due = some d) (h : (timedFrom s₀).Reachable s) : DueKept s₀ s X d := by
  refine h.invariant (DueKept s₀ · X d) ?_ ?_
  · rintro s rfl
    refine ⟨⟨[], rfl⟩, fun _ _ _ => ⟨?_, d, hd, UInt64.le_refl d⟩⟩
    exact ((sound (timed_reachable h₀)).flags X).attached.mp hX
  · rintro s a t hr ⟨⟨new, hgrown⟩, hkept⟩ ⟨⟨ha, -⟩, rfl⟩
    have hsound := sound (timed_reachable (timedFrom_reachable h₀ hr))
    have hhistory : s.history X = eventsOf X new ++ s₀.history X := by
      unfold history
      rw [hgrown, eventsOf_append]
    refine ⟨?_, ?_⟩
    · rcases next_log s a with hlog | ⟨e, hlog⟩
      · exact ⟨new, hlog.trans hgrown⟩
      · exact ⟨e :: new, by rw [hlog, hgrown, List.cons_append]⟩
    · intro new' hnew' hquiet
      rcases next_item hsound a ha X with ⟨hitem, hsame⟩ | ⟨e, hmove, hcons⟩
      · rw [hitem]
        exact hkept new' (hsame ▸ hnew') hquiet
      · rw [hcons, hhistory, ← List.cons_append] at hnew'
        obtain rfl := List.append_cancel_right hnew'
        obtain ⟨hattached, due, hdue, hle⟩ := hkept _ hhistory
          fun e' he' => hquiet e' (List.mem_cons_of_mem e he')
        have htouch := hquiet e List.mem_cons_self
        generalize (s.next a).queue.item X = item' at hmove ⊢
        cases hmove with
        | scheduled delayUs henabled =>
            obtain ⟨due', hdue', hle'⟩ := due_schedule_le hdue
            refine ⟨?_, due', hdue', UInt64.le_trans hle' hle⟩
            obtain ⟨pending, deadline, hframe⟩ :=
              (s.queue.item X).schedule_frame (s.next a).clock delayUs
            rw [hframe]
            exact hattached
        | timedOut thread hrunning => exact ⟨hattached, due, hdue, hle⟩
        | finished hrunning => exact ⟨hattached, due, hdue, hle⟩
        | _ => cases htouch

/-- Only the scan starts an item, the one it selects. -/
theorem next_started {s : QueueState Thread Item} {a : QueueAction Thread Item} {i : Item} {t : UInt64}
    (h : (s.next a).log = (i, .started t) :: s.log) :
    a = .scan t ∧ (s.queue.select t).selected = some i := by
  cases a with
  | scan now =>
      simp only [next] at h
      cases hsel : (s.queue.select now).selected with
      | none =>
          rw [hsel] at h
          exact absurd h List.ne_cons_self
      | some j =>
          rw [hsel] at h
          simp only [record_log, List.cons.injEq, Prod.mk.injEq, ItemEvent.started.injEq, and_true] at h
          obtain ⟨rfl, rfl⟩ := h
          exact ⟨rfl, hsel⟩
  | start spawned => exact absurd h List.ne_cons_self
  | attach i m =>
      simp only [next] at h
      split at h <;> simp at h
  | schedule i now delayUs =>
      simp only [next] at h
      split at h <;> simp at h
  | setInterval i now intervalUs =>
      simp only [next] at h
      split at h <;> simp at h
  | clear i => simp [next] at h
  | detach thread i now timeoutMs =>
      simp only [next, detach] at h
      split at h <;> simp at h
  | test thread now =>
      simp only [next] at h
      split at h
      · unfold test at h
        split at h
        · split at h <;> simp at h
        · simp at h
      · simp at h
  | wake => simp [next] at h
  | finish i => simp [next] at h

/-- A start of `Y` at `t₂` when `Y` has started at `t₁` since `X` became due. -/
theorem not_started_twice {s₀ s : QueueState Thread Item} {X Y : Item} {d t₁ t₂ : UInt64}
    {mid first : List (Item × ItemEvent Thread)} (h₀ : (timed Thread Item).Reachable s₀)
    (hX : X ∈ s₀.queue.items) (hd : (s₀.queue.item X).due = some d)
    (h : (timedFrom s₀).Reachable s) (hYX : Y ≠ X)
    (hlog : s.log = mid ++ (Y, .started t₁) :: (first ++ s₀.log))
    (hmid : ∀ e ∈ eventsOf Y mid, e.isStart = false)
    (hquiet : ∀ e ∈ eventsOf X (mid ++ (Y, .started t₁) :: first), e.touches = false)
    (ht₁ : d < t₁) (ht₂ : d < t₂) (hfits : SumsFit (eventsOf Y mid) t₁ (eventsOf Y (first ++ s₀.log))) :
    (s.queue.select t₂).selected ≠ some Y := by
  intro hsel
  have hr := timedFrom_reachable h₀ h
  have hlogX : s.history X = eventsOf X (mid ++ (Y, .started t₁) :: first) ++ s₀.history X := by
    unfold history
    rw [hlog, ← eventsOf_append, List.append_assoc, List.cons_append]
  obtain ⟨hattached, dueX, hdueX, hleX⟩ := (dueKept h₀ hX hd h).kept _ hlogX hquiet
  -- the scan starts the item that is due first
  obtain ⟨hdueY, -, before, after, hitems, hbefore, hafter⟩ := (WorkQueue.select_state s.queue t₂).best Y hsel
  have hmemX : X ∈ before ++ Y :: after :=
    hitems ▸ ((sound (timed_reachable hr)).flags X).attached.mpr hattached
  have hnowX : dueX ≤ t₂ := UInt64.le_trans hleX (UInt64.le_of_lt ht₂)
  have hfirst : (s.queue.select t₂).selectedDeadline ≤ dueX := by
    rcases List.mem_append.mp hmemX with hmem | hmem
    · exact UInt64.le_of_lt (hbefore X hmem dueX hdueX hnowX)
    · rcases List.mem_cons.mp hmem with heq | hmem
      · exact absurd heq.symm hYX
      · exact hafter X hmem dueX hdueX hnowX
  -- but `Y` is due no earlier than it started
  have hlogY : s.history Y = eventsOf Y mid ++ .started t₁ :: eventsOf Y (first ++ s₀.log) := by
    unfold history
    rw [hlog, eventsOf_append, eventsOf_cons_self]
  have htimed := (itemTimed hr Y).2
  have hbounded := itemBounded (timed_reachable hr) Y
  rw [hlogY] at htimed hbounded
  have hlate := due_after_start htimed hbounded hmid hfits hdueY
  have hcycle := UInt64.lt_of_lt_of_le ht₁ (UInt64.le_trans hlate (UInt64.le_trans hfirst hleX))
  exact UInt64.lt_irrefl d hcycle

/-- The worker starts the items fairly, and no item passes by another one that is due twice. -/
theorem no_starvation {s₀ : QueueState Thread Item} (h₀ : (timed Thread Item).Reachable s₀) :
    s₀.ScansFairly (· ≠ never) ∧
      ∀ X d, X ∈ s₀.queue.items → (s₀.queue.item X).due = some d →
        ∀ s, (timedFrom s₀).Reachable s → ¬ BypassedTwice SumsFit s₀ s X d := by
  refine ⟨scansFairly (timed_reachable h₀), ?_⟩
  intro X d hX hd s h
  refine h.invariant (fun s => ¬ BypassedTwice SumsFit s₀ s X d) ?_ ?_
  · rintro s rfl ⟨Y, later, t₂, mid, t₁, first, -, hlog, -⟩
    have hlength := congrArg List.length hlog
    simp only [List.length_append, List.length_cons] at hlength
    omega
  · rintro s a t hr hs ⟨-, rfl⟩ ⟨Y, later, t₂, mid, t₁, first, hYX, hlog, hrest⟩
    rcases next_log s a with hsame | ⟨e, hcons⟩
    · exact hs ⟨Y, later, t₂, mid, t₁, first, hYX, hsame ▸ hlog, hrest⟩
    · rw [hcons] at hlog
      cases later with
      | cons e' later =>
          rw [List.cons_append, List.cons.injEq] at hlog
          exact hs ⟨Y, later, t₂, mid, t₁, first, hYX, hlog.2, hrest⟩
      | nil =>
          rw [List.nil_append, List.cons.injEq] at hlog
          obtain ⟨rfl, hlog⟩ := hlog
          obtain ⟨hmid, hquiet, ht₁, ht₂, hfits⟩ := hrest
          obtain ⟨-, hsel⟩ := next_started hcons
          exact not_started_twice h₀ hX hd hr hYX hlog hmid hquiet ht₁ ht₂ hfits hsel

/-- Two items are requested; `false` is due at 5, `true` at 4, with the rate limit given. -/
def twoDue (minimumIntervalUs : UInt64) : List (QueueAction Unit Bool) :=
  [.start true, .attach false 0, .attach true minimumIntervalUs, .setInterval false 1 0,
    .setInterval true 1 0, .schedule false 1 4, .schedule true 1 3]

/-- Item `true` runs and requests its next run from inside `Run`. -/
def rescheduled (delayUs : UInt64) : List (QueueAction Unit Bool) :=
  [.scan 10, .schedule true 10 delayUs, .finish true, .scan 11]

theorem twoDue_reachable {minimumIntervalUs : UInt64}
    (h : Transition.Along (fun s a => Enabled s a ∧ Clocked s a) next { clock := 1 }
      (twoDue minimumIntervalUs)) :
    (timed Unit Bool).Reachable ((twoDue minimumIntervalUs).foldl next { clock := 1 }) := by
  have hstart : (timed Unit Bool).Reachable { clock := 1 } := .start ⟨1, by decide, rfl⟩
  exact hstart.foldl_restrict h

theorem no_starvation_demo :
    ((twoDue 100).foldl next { clock := 1 }).ScansFairly (· ≠ never) ∧
      ¬ BypassedTwice SumsFit ((twoDue 100).foldl next { clock := 1 })
        ((rescheduled 0).foldl next ((twoDue 100).foldl next { clock := 1 })) false 5 := by
  have hfrom : (timedFrom ((twoDue 100).foldl next { clock := 1 })).Reachable
      ((twoDue 100).foldl next { clock := 1 }) := .start rfl
  have hreach : (timed Unit Bool).Reachable ((twoDue 100).foldl next { clock := 1 }) :=
    twoDue_reachable (by decide)
  obtain ⟨hscan, hbypass⟩ := no_starvation hreach
  exact ⟨hscan, hbypass false 5 (by decide) (by decide) _ (hfrom.foldl_restrict (by decide))⟩

/-- With a rate limit and a delay whose sums wrap, the item `true` starts twice while `false` is due. -/
theorem bypassed_twice :
    ∃ (s₀ s : QueueState Unit Bool) (X : Bool) (d : UInt64), (timed Unit Bool).Reachable s₀ ∧
      X ∈ s₀.queue.items ∧ (s₀.queue.item X).due = some d ∧ (timedFrom s₀).Reachable s ∧
      BypassedTwice (fun _ _ _ => True) s₀ s X d := by
  let s₀ : QueueState Unit Bool := (twoDue 18446744073709551608).foldl next { clock := 1 }
  have hfrom : (timedFrom s₀).Reachable s₀ := .start rfl
  refine ⟨s₀, (rescheduled 18446744073709551610).foldl next s₀, false, 5, twoDue_reachable (by decide),
    by decide, by decide, hfrom.foldl_restrict (by decide), ?_⟩
  refine ⟨true, [], 11, [(true, .finished), (true, .scheduled 10 18446744073709551610)], 10, [], ?_⟩
  exact ⟨by decide, by decide, by decide, by decide, by decide, by decide, trivial⟩

end QueueState

end DualMagneticWheel
