/-
# DualMagneticWheel.WorkQueue.TimingContract — when the worker runs an item

The runs are those with a clock that never goes back and never reads zero, which the code uses for "has
not run". `ItemTimed` is what the history of an item then says about its times: the rate limit, the
deadline of a request that is still open, the next periodic run. Every move of an item keeps it.

The sums of times wrap at 2^64, and `UINT64_MAX` stands for "not due", so the contract holds of sums that
stay below it. `TimingSafe` has the permitted sums as a parameter; `timing_wraps` is a run with a rate
limit so large that the sum wraps.
-/
import DualMagneticWheel.WorkQueue.ExecutionSafety
import Mathlib.Algebra.Group.Nat.Defs

namespace DualMagneticWheel

open Foundation

namespace ItemEvent

variable {Thread : Type}

/-- The clock reading of an event. -/
def time : ItemEvent Thread → Option UInt64
  | .scheduled time _ | .interval time _ | .started time => some time
  | _ => none

/-- A `Run` answers the open request, `Clear` and `Detach` withdraw it. -/
def endsRequest : ItemEvent Thread → Bool
  | .started _ | .cleared | .detaching _ | .detached _ | .attached _ => true
  | _ => false

/-- The period in use ends. -/
def endsPeriod : ItemEvent Thread → Bool
  | .interval _ _ | .cleared | .detaching _ | .attached _ => true
  | _ => false

/-- The periodic runs are counted from here. -/
def startsPeriod (base : UInt64) : ItemEvent Thread → Bool
  | .started time | .interval time _ => time == base
  | _ => false

end ItemEvent

/-! ## The times and the history of one item -/

variable {Thread : Type}

/-- The last event that started a `Run` of the present attachment. -/
def LastStart (t : UInt64) (history : List (ItemEvent Thread)) : Prop :=
  Since (· = .started t) (fun e => e.isStart || e.isAttach) history

/-- The rate limit of the present attachment. -/
def LastAttach (m : UInt64) (history : List (ItemEvent Thread)) : Prop :=
  Since (· = .attached m) (·.isAttach) history

/-- A request that no `Run` has answered and that was not withdrawn. -/
def OpenRequest (t delayUs : UInt64) (history : List (ItemEvent Thread)) : Prop :=
  Since (· = .scheduled t delayUs) (·.endsRequest) history

/-- The interval that gives the period in use. -/
def OpenPeriod (base p : UInt64) (history : List (ItemEvent Thread)) : Prop :=
  Since (· = .interval base p) (·.endsPeriod) history

/-- The last event from which the periodic runs are counted. -/
def PeriodBase (base : UInt64) (history : List (ItemEvent Thread)) : Prop :=
  Since (·.startsPeriod base) (fun e => e.isStart || e.isInterval) history

section Quiet

variable {e : ItemEvent Thread} {history : List (ItemEvent Thread)}

theorem lastStart_cons_of_quiet (hstart : e.isStart = false) (hattach : e.isAttach = false)
    (t : UInt64) : LastStart t (e :: history) ↔ LastStart t history := by
  have hne : e ≠ .started t := by
    rintro rfl
    cases hstart
  unfold LastStart
  rw [since_cons, or_iff_right hne, and_iff_right (by simp [hstart, hattach])]

theorem lastAttach_cons_of_quiet (hattach : e.isAttach = false) (m : UInt64) :
    LastAttach m (e :: history) ↔ LastAttach m history := by
  have hne : e ≠ .attached m := by
    rintro rfl
    cases hattach
  unfold LastAttach
  rw [since_cons, or_iff_right hne, and_iff_right (by simp [hattach])]

theorem openRequest_cons_of_quiet {t delayUs : UInt64} (hkind : e.endsRequest = false)
    (hne : e ≠ .scheduled t delayUs) :
    OpenRequest t delayUs (e :: history) ↔ OpenRequest t delayUs history := by
  unfold OpenRequest
  rw [since_cons, or_iff_right hne, and_iff_right (by simp [hkind])]

theorem not_openRequest_of_ends {t delayUs : UInt64} (hkind : e.endsRequest = true) :
    ¬ OpenRequest t delayUs (e :: history) := by
  rintro (rfl | ⟨hopen, -⟩)
  · cases hkind
  · exact hopen hkind

theorem openPeriod_cons_of_quiet (hkind : e.endsPeriod = false) (base p : UInt64) :
    OpenPeriod base p (e :: history) ↔ OpenPeriod base p history := by
  have hne : e ≠ .interval base p := by
    rintro rfl
    cases hkind
  unfold OpenPeriod
  rw [since_cons, or_iff_right hne, and_iff_right (by simp [hkind])]

theorem PeriodBase.cons {base : UInt64} (h : PeriodBase base history) (hstart : e.isStart = false)
    (hinterval : e.isInterval = false) : PeriodBase base (e :: history) :=
  Or.inr ⟨by simp [hstart, hinterval], h⟩

end Quiet

/-- What the history of an item says about its times. -/
structure ItemTimed (clock : UInt64) (item : WorkItem) (history : List (ItemEvent Thread)) :
    Prop where
  times : ∀ e ∈ history, ∀ t ∈ e.time, t ≤ clock
  minimum : ∀ m, LastAttach m history → item.minimumInterval = m
  started : ∀ t, LastStart t history → item.lastStart = t ∧ t ≠ 0
  rate : Lawful (fun earlier e => ∀ t₂, e = .started t₂ → ∀ t₁ m, LastStart t₁ earlier →
    LastAttach m earlier → t₁ + m ≤ t₂) history
  ordered : Lawful (fun earlier e => ∀ t ∈ e.time, ∀ e' ∈ earlier, ∀ t' ∈ e'.time, t' ≤ t) history
  served : ∀ t delayUs, OpenRequest t delayUs history →
    item.pending = true ∧ item.enabled = true ∧
      item.deadline.toNat ≤
        max (t.toNat + delayUs.toNat) (item.lastStart.toNat + item.minimumInterval.toNat)
  interval : ∀ base p, OpenPeriod base p history → item.period = p
  set : item.period ≠ 0 → ∃ base, OpenPeriod base item.period history
  periodic : item.period ≠ 0 → item.enabled = true ∧
    ∃ base, PeriodBase base history ∧ item.nextPeriodic.toNat ≤ base.toNat + item.period.toNat

theorem itemTimed_start (clock : UInt64) : ItemTimed clock {} ([] : List (ItemEvent Thread)) where
  times := by simp
  minimum := nofun
  started := nofun
  rate := lawful_nil
  ordered := lawful_nil
  served := nofun
  interval := nofun
  set h := absurd rfl h
  periodic h := absurd rfl h

theorem ItemTimed.later {clock now : UInt64} {item : WorkItem} {history : List (ItemEvent Thread)}
    (h : ItemTimed clock item history) (hnow : clock ≤ now) : ItemTimed now item history :=
  { h with times := fun e he t ht => UInt64.le_trans (h.times e he t ht) hnow }

theorem add_toNat_le (x y : UInt64) : (x + y).toNat ≤ x.toNat + y.toNat := by
  rw [UInt64.toNat_add]
  exact Nat.mod_le _ _

/-- A request made now is due after its delay or at the rate limit, whatever was requested before. -/
theorem WorkItem.schedule_deadline_le (item : WorkItem) (now delayUs : UInt64)
    (henabled : item.enabled = true) :
    (item.schedule now delayUs).deadline.toNat ≤
      max (now.toNat + delayUs.toNat) (item.lastStart.toNat + item.minimumInterval.toNat) ∧
      (item.pending = true → (item.schedule now delayUs).deadline ≤ item.deadline) := by
  have hdelay := add_toNat_le now delayUs
  have hearliest := add_toNat_le item.lastStart item.minimumInterval
  unfold schedule
  rw [if_pos henabled]
  dsimp only
  generalize hx : (if item.lastStart ≠ 0 ∧ now + delayUs < item.lastStart + item.minimumInterval then
    item.lastStart + item.minimumInterval else now + delayUs) = x
  have hle : x.toNat ≤ max (now.toNat + delayUs.toNat)
      (item.lastStart.toNat + item.minimumInterval.toNat) := by
    rw [← hx]
    split <;> omega
  split
  · rename_i hbetter
    refine ⟨hle, ?_⟩
    intro hpending
    simp only [hpending, Bool.not_true, Bool.false_or, decide_eq_true_eq] at hbetter
    exact UInt64.le_of_lt hbetter
  · rename_i hworse
    simp only [Bool.or_eq_true, Bool.not_eq_true', decide_eq_true_eq, not_or,
      Bool.not_eq_false] at hworse
    refine ⟨?_, fun _ => UInt64.le_refl _⟩
    exact Nat.le_trans (UInt64.le_iff_toNat_le.mp (UInt64.not_lt.mp hworse.2)) hle

/-- An event that starts nothing, sets no interval and attaches nothing: what is open of the requests has
to be told, the rest stays. -/
theorem ItemTimed.other {clock now : UInt64} {item item' : WorkItem}
    {history : List (ItemEvent Thread)} {e : ItemEvent Thread} (h : ItemTimed clock item history)
    (hnow : clock ≤ now) (htime : ∀ t ∈ e.time, t = now)
    (hkind : e.isStart = false ∧ e.isAttach = false ∧ e.isInterval = false)
    (hstart : item'.lastStart = item.lastStart)
    (hminimum : item'.minimumInterval = item.minimumInterval)
    (hperiod : item'.period = 0 ∧ e.endsPeriod = true ∨ e.endsPeriod = false ∧
      item'.period = item.period ∧ item'.nextPeriodic = item.nextPeriodic ∧ item'.enabled = item.enabled)
    (hserved : ∀ t delayUs, OpenRequest t delayUs (e :: history) →
      item'.pending = true ∧ item'.enabled = true ∧ item'.deadline.toNat ≤
        max (t.toNat + delayUs.toNat) (item.lastStart.toNat + item.minimumInterval.toNat)) :
    ItemTimed now item' (e :: history) := by
  obtain ⟨hstarts, hattaches, hinterval⟩ := hkind
  have hne : ∀ t, e ≠ .started t := by
    rintro t rfl
    cases hstarts
  refine ⟨?_, ?_, ?_, ⟨?_, h.rate⟩, ⟨?_, h.ordered⟩, ?_, ?_, ?_, ?_⟩
  · refine List.forall_mem_cons.mpr ⟨?_, (h.later hnow).times⟩
    exact fun t ht => htime t ht ▸ UInt64.le_refl t
  · intro m hm
    rw [hminimum]
    exact h.minimum m ((lastAttach_cons_of_quiet hattaches m).mp hm)
  · intro t ht
    rw [hstart]
    exact h.started t ((lastStart_cons_of_quiet hstarts hattaches t).mp ht)
  · intro t heq
    exact absurd heq (hne t)
  · exact fun t ht => htime t ht ▸ (h.later hnow).times
  · rw [hstart, hminimum]
    exact hserved
  · intro base p hlast
    rcases hperiod with ⟨-, hends⟩ | ⟨hkeeps, hperiod, -⟩
    · rcases hlast with rfl | ⟨hopen, -⟩
      · cases hinterval
      · exact absurd hends hopen
    · rw [hperiod]
      exact h.interval base p ((openPeriod_cons_of_quiet hkeeps base p).mp hlast)
  · intro hset
    rcases hperiod with ⟨hzero, -⟩ | ⟨hkeeps, hperiod, -⟩
    · exact absurd hzero hset
    · rw [hperiod] at hset ⊢
      obtain ⟨base, hlast⟩ := h.set hset
      exact ⟨base, (openPeriod_cons_of_quiet hkeeps base _).mpr hlast⟩
  · intro hset
    rcases hperiod with ⟨hzero, -⟩ | ⟨-, hperiod, hnext, henabled⟩
    · exact absurd hzero hset
    · rw [hperiod] at hset
      obtain ⟨hen, base, hbase, hle⟩ := h.periodic hset
      rw [hperiod, hnext, henabled]
      exact ⟨hen, base, hbase.cons hstarts hinterval, hle⟩

theorem ItemTimed.move {clock now : UInt64} {item item' : WorkItem}
    {history : List (ItemEvent Thread)} {e : ItemEvent Thread} (h : ItemTimed clock item history)
    (hnow : clock ≤ now) (hpos : 0 < now) (hmove : item.Move now e item') :
    ItemTimed now item' (e :: history) := by
  cases hmove with
  | attached m hfree =>
      refine ⟨?_, ?_, ?_, ⟨nofun, h.rate⟩, ⟨nofun, h.ordered⟩, ?_, ?_, fun hset => absurd rfl hset,
        fun hset => absurd rfl hset⟩
      · exact List.forall_mem_cons.mpr ⟨nofun, (h.later hnow).times⟩
      · rintro m' (hm | ⟨hopen, -⟩)
        · cases hm
          rfl
        · exact absurd rfl hopen
      · rintro t (ht | ⟨hopen, -⟩)
        · cases ht
        · exact absurd rfl hopen
      · intro t delayUs hopen
        exact absurd hopen (not_openRequest_of_ends rfl)
      · rintro base p (hlast | ⟨hopen, -⟩)
        · cases hlast
        · exact absurd rfl hopen
  | scheduled delayUs henabled =>
      obtain ⟨hle, hmerge⟩ := item.schedule_deadline_le now delayUs henabled
      have hpending := item.schedule_pending now delayUs
      obtain ⟨pending, deadline, hframe⟩ := item.schedule_frame now delayUs
      rw [hframe] at hle hmerge hpending ⊢
      refine h.other hnow ?_ ⟨rfl, rfl, rfl⟩ rfl rfl (Or.inr ⟨rfl, rfl, rfl, rfl⟩) ?_
      · rintro t ⟨⟩
        rfl
      · intro t delay hopen
        refine ⟨by rw [hpending, henabled, Bool.or_true], henabled, ?_⟩
        by_cases hnew : (ItemEvent.scheduled now delayUs : ItemEvent Thread) = .scheduled t delay
        · cases hnew
          exact hle
        · -- an older request that is still open only gets an earlier deadline
          obtain ⟨hold, -, hbound⟩ := h.served t delay ((openRequest_cons_of_quiet rfl hnew).mp hopen)
          exact Nat.le_trans (UInt64.le_iff_toNat_le.mp (hmerge hold)) hbound
  | interval intervalUs hattached hopen =>
      have hset : item.setInterval now intervalUs =
          { item with enabled := true, period := intervalUs, nextPeriodic := now + intervalUs } := by
        unfold WorkItem.setInterval
        rw [hattached, hopen]
        rfl
      rw [hset]
      refine ⟨?_, ?_, ?_, ⟨nofun, h.rate⟩, ⟨?_, h.ordered⟩, ?_, ?_, fun _ => ⟨now, Or.inl rfl⟩, ?_⟩
      · refine List.forall_mem_cons.mpr ⟨?_, (h.later hnow).times⟩
        rintro t ⟨⟩
        exact UInt64.le_refl _
      · intro m hm
        exact h.minimum m ((lastAttach_cons_of_quiet rfl m).mp hm)
      · intro t ht
        exact h.started t ((lastStart_cons_of_quiet rfl rfl t).mp ht)
      · rintro t ⟨⟩
        exact (h.later hnow).times
      · intro t delay hreq
        obtain ⟨hpending, -, hbound⟩ := h.served t delay ((openRequest_cons_of_quiet rfl (by nofun)).mp hreq)
        exact ⟨hpending, rfl, hbound⟩
      · rintro base p (hlast | ⟨hopen, -⟩)
        · cases hlast
          rfl
        · exact absurd rfl hopen
      · intro _
        exact ⟨rfl, now, Or.inl (beq_self_eq_true now), add_toNat_le now intervalUs⟩
  | cleared =>
      refine h.other hnow nofun ⟨rfl, rfl, rfl⟩ rfl rfl (Or.inl ⟨rfl, rfl⟩) ?_
      intro t delay hopen
      exact absurd hopen (not_openRequest_of_ends rfl)
  | detaching thread hattached =>
      refine h.other hnow nofun ⟨rfl, rfl, rfl⟩ rfl rfl (Or.inl ⟨rfl, rfl⟩) ?_
      intro t delay hopen
      exact absurd hopen (not_openRequest_of_ends rfl)
  | detached thread hidle =>
      refine h.other hnow nofun ⟨rfl, rfl, rfl⟩ rfl rfl (Or.inr ⟨rfl, rfl, rfl, rfl⟩) ?_
      intro t delay hopen
      exact absurd hopen (not_openRequest_of_ends rfl)
  | timedOut thread hrunning =>
      refine h.other hnow nofun ⟨rfl, rfl, rfl⟩ rfl rfl (Or.inr ⟨rfl, rfl, rfl, rfl⟩) ?_
      intro t delay hopen
      exact h.served t delay ((openRequest_cons_of_quiet rfl (by nofun)).mp hopen)
  | started due hattached hidle hdue hdueNow =>
      refine ⟨?_, ?_, ?_, ⟨?_, h.rate⟩, ⟨?_, h.ordered⟩, ?_, ?_, ?_, ?_⟩
      · refine List.forall_mem_cons.mpr ⟨?_, (h.later hnow).times⟩
        rintro t ⟨⟩
        exact UInt64.le_refl _
      · intro m hm
        exact h.minimum m ((lastAttach_cons_of_quiet rfl m).mp hm)
      · rintro t (ht | ⟨hopen, -⟩)
        · cases ht
          exact ⟨rfl, (UInt64.ne_of_lt hpos).symm⟩
        · exact absurd rfl hopen
      · rintro t₂ ⟨⟩ t₁ m ht₁ hm
        -- the next run is due a whole minimum interval after the last one
        obtain ⟨hlast, hne⟩ := h.started t₁ ht₁
        have hlimit := WorkItem.earliest_le_due hdue (by rw [hlast]; exact hne)
        rw [hlast, h.minimum m hm] at hlimit
        exact UInt64.le_trans hlimit hdueNow
      · rintro t ⟨⟩
        exact (h.later hnow).times
      · intro t delay hopen
        exact absurd hopen (not_openRequest_of_ends rfl)
      · intro base p hlast
        exact h.interval base p ((openPeriod_cons_of_quiet rfl base p).mp hlast)
      · intro hset
        obtain ⟨base, hlast⟩ := h.set hset
        exact ⟨base, (openPeriod_cons_of_quiet rfl base item.period).mpr hlast⟩
      · intro hset
        -- the period starts again at this run
        have hset' : item.period ≠ 0 := hset
        have henabled : item.enabled = true := WorkItem.enabled_of_due hdue
        refine ⟨henabled, now, Or.inl (beq_self_eq_true now), ?_⟩
        show (if item.period ≠ 0 then now + item.period else item.nextPeriodic).toNat ≤ _
        rw [if_pos hset']
        exact add_toNat_le now item.period
  | finished hrunning =>
      refine h.other hnow nofun ⟨rfl, rfl, rfl⟩ rfl rfl (Or.inr ⟨rfl, rfl, rfl, rfl⟩) ?_
      intro t delay hopen
      exact h.served t delay ((openRequest_cons_of_quiet rfl (by nofun)).mp hopen)

/-! ## Runs with a clock -/

namespace QueueState

variable {Item : Type} [DecidableEq Thread] [DecidableEq Item]

/-- The clock does not go back. -/
def Clocked (s : QueueState Thread Item) (a : QueueAction Thread Item) : Prop :=
  ∀ now ∈ a.time, s.clock ≤ now

instance (s : QueueState Thread Item) (a : QueueAction Thread Item) : Decidable (s.Clocked a) :=
  Option.decidableForallMem a.time

/-- The runs with a clock that never goes back and never reads zero. -/
def timed (Thread Item : Type) [DecidableEq Thread] [DecidableEq Item] :
    Transition (QueueState Thread Item) (QueueAction Thread Item) :=
  (Transition.ofFun (fun s => ∃ clock, 0 < clock ∧ s = { clock }) next).restrict
    fun s a => s.Enabled a ∧ s.Clocked a

theorem timed_reachable {s : QueueState Thread Item} (h : (timed Thread Item).Reachable s) :
    (system Thread Item).Reachable s := by
  induction h with
  | start h0 =>
      obtain ⟨clock, -, rfl⟩ := h0
      exact .start ⟨clock, rfl⟩
  | next _ hst ih => exact .next ih ⟨hst.1.1, hst.2⟩

theorem next_clock {s : QueueState Thread Item} {a : QueueAction Thread Item} (h : s.Clocked a) :
    s.clock ≤ (s.next a).clock := by
  cases a with
  | start spawned => exact UInt64.le_refl _
  | attach i m =>
      simp only [next]
      split <;> exact UInt64.le_refl _
  | schedule i now delayUs =>
      simp only [next]
      split
      · exact h now rfl
      · exact UInt64.le_refl _
  | setInterval i now intervalUs =>
      simp only [next]
      split
      · exact h now rfl
      · exact UInt64.le_refl _
  | clear i => exact UInt64.le_refl _
  | detach thread i now timeoutMs =>
      simp only [next, detach]
      split
      · exact h now rfl
      · exact UInt64.le_refl _
  | test thread now =>
      simp only [next]
      split
      · unfold test
        split
        · split <;> exact h now rfl
        · exact UInt64.le_refl _
      · exact UInt64.le_refl _
  | scan now =>
      simp only [next]
      split <;> exact h now rfl
  | wake => exact UInt64.le_refl _
  | finish i => exact UInt64.le_refl _

theorem itemTimed {s : QueueState Thread Item} (h : (timed Thread Item).Reachable s) (j : Item) :
    0 < s.clock ∧ ItemTimed s.clock (s.queue.item j) (s.history j) := by
  refine h.invariant (fun s => 0 < s.clock ∧ ItemTimed s.clock (s.queue.item j) (s.history j)) ?_ ?_
  · rintro s ⟨clock, hpos, rfl⟩
    exact ⟨hpos, itemTimed_start clock⟩
  · rintro s a t hr ⟨hpos, hs⟩ ⟨⟨ha, hclocked⟩, rfl⟩
    have hnow := next_clock hclocked
    have hpos' := UInt64.lt_of_lt_of_le hpos hnow
    refine ⟨hpos', ?_⟩
    rcases next_item (sound (timed_reachable hr)) a ha j with ⟨hitem, hhistory⟩ | ⟨e, hmove, hhistory⟩
    · rw [hitem, hhistory]
      exact hs.later hnow
    · rw [hhistory]
      exact hs.move hnow hpos' hmove

/-! ## The wake time of the worker -/

/-- A worker that is blocked and has not been signalled wakes before any item of its list is due. -/
def WakesInTime (q : WorkQueue Item) : Prop :=
  ∀ wake, q.worker = .waiting wake false → ∀ i ∈ q.items, ∀ d, (q.item i).due = some d → wake ≤ d

omit [DecidableEq Item] in
theorem wakesInTime_broadcast (q : WorkQueue Item) : WakesInTime q.broadcast := by
  intro wake hwait
  unfold WorkQueue.broadcast at hwait
  split at hwait
  · cases hwait
  · rename_i hother
    exact absurd hwait (hother wake false)

theorem next_wakesInTime {s : QueueState Thread Item} (h : WakesInTime s.queue)
    (a : QueueAction Thread Item) : WakesInTime (s.next a).queue := by
  cases a with
  | start spawned =>
      simp only [next, WorkQueue.start]
      split <;> exact h
  | attach i m =>
      simp only [next]
      split
      · rename_i hok
        rw [record_queue]
        unfold WorkQueue.attach at hok ⊢
        split at hok
        · cases hok
        · rename_i hfree
          rw [if_neg hfree]
          intro wake hwait j hj d hd
          by_cases hji : j = i
          · -- the new item is not enabled yet
            subst hji
            have hen := WorkItem.enabled_of_due hd
            dsimp only at hen
            rw [WorkQueue.modify_self] at hen
            cases hen
          · rcases List.mem_append.mp hj with hj | hj
            · dsimp only at hd
              rw [WorkQueue.modify_of_ne hji] at hd
              exact h wake hwait j hj d hd
            · exact absurd (List.mem_singleton.mp hj) hji
      · exact h
  | schedule i now delayUs =>
      simp only [next]
      split
      · rename_i henabled
        rw [record_queue]
        simp only [WorkQueue.schedule, if_pos henabled]
        exact wakesInTime_broadcast _
      · exact h
  | setInterval i now intervalUs =>
      simp only [next]
      split
      · rename_i hopen
        rw [record_queue]
        simp only [WorkQueue.setInterval, if_pos hopen]
        exact wakesInTime_broadcast _
      · exact h
  | clear i => exact wakesInTime_broadcast _
  | detach thread i now timeoutMs =>
      simp only [next, detach]
      split
      · exact wakesInTime_broadcast _
      · exact h
  | test thread now =>
      simp only [next]
      split
      · rename_i i deadline _
        unfold test
        split
        · split <;> exact h
        · -- the detached item has left the list, the deadlines of the others are as they were
          intro wake hwait j hj d hd
          refine h wake hwait j (List.mem_of_mem_erase hj) d ?_
          rw [← hd]
          by_cases hji : j = i
          · subst hji
            simp only [record_queue, WorkQueue.unlink, WorkQueue.modify_self]
            rfl
          · simp only [record_queue, WorkQueue.unlink, WorkQueue.modify_of_ne hji]
      · exact h
  | scan now =>
      -- the worker goes to sleep until the earliest deadline the scan has seen
      have hstate := WorkQueue.select_state s.queue now
      intro wake hwait j hj d hd
      simp only [next, WorkQueue.scan] at hwait hj hd
      cases hsel : (s.queue.select now).selected with
      | some i =>
          simp only [hsel, record_queue] at hwait
          cases hwait
      | none =>
          simp only [hsel] at hwait hj hd
          cases hwait
          exact hstate.wake j hj d hd
  | wake =>
      intro wake hwait
      cases hwait
  | finish i =>
      intro wake hwait
      cases hwait

theorem wakesInTime {s : QueueState Thread Item} (h : (system Thread Item).Reachable s) :
    WakesInTime s.queue := by
  refine h.invariant (fun s => WakesInTime s.queue) ?_ ?_
  · rintro s ⟨clock, rfl⟩ wake hwait
    cases hwait
  · rintro s a t - hs ⟨-, rfl⟩
    exact next_wakesInTime hs a

/-! ## The contract -/

/-- The timing contract, for the sums of times that are `Fits`. -/
structure TimingSafe (Fits : Nat → Prop) (s : QueueState Thread Item) : Prop where
  /-- Two consecutive starts of one attachment keep the rate limit. -/
  rate : ∀ j later t₂ earlier t₁ m, s.history j = later ++ .started t₂ :: earlier →
    LastStart t₁ earlier → LastAttach m earlier → Fits (t₁.toNat + m.toNat) →
      t₁.toNat + m.toNat ≤ t₂.toNat
  /-- An open request keeps the item due, whatever else is requested. -/
  served : ∀ j t delayUs, OpenRequest t delayUs (s.history j) →
    Fits (max (t.toNat + delayUs.toNat)
      ((s.queue.item j).lastStart.toNat + (s.queue.item j).minimumInterval.toNat)) →
      ∃ due, (s.queue.item j).due = some due ∧ due.toNat ≤ max (t.toNat + delayUs.toNat)
        ((s.queue.item j).lastStart.toNat + (s.queue.item j).minimumInterval.toNat)
  /-- The `Run` that answers a request starts after it. -/
  answered : ∀ j later t' earlier t delayUs, s.history j = later ++ .started t' :: earlier →
    .scheduled t delayUs ∈ earlier → t ≤ t'
  /-- The rate limit and the last start are those of the present attachment. -/
  attachment : ∀ j, (∀ m, LastAttach m (s.history j) → (s.queue.item j).minimumInterval = m) ∧
    ∀ t, LastStart t (s.history j) → (s.queue.item j).lastStart = t
  /-- The period is the argument of the last `SetInterval`, as long as nothing has ended it. -/
  period : ∀ j, (∀ base p, OpenPeriod base p (s.history j) → (s.queue.item j).period = p) ∧
    ((s.queue.item j).period ≠ 0 → ∃ base, OpenPeriod base (s.queue.item j).period (s.history j))
  /-- A period keeps the item due. -/
  periodic : ∀ j, (s.queue.item j).period ≠ 0 → ∃ base, PeriodBase base (s.history j) ∧
    (Fits (base.toNat + (s.queue.item j).period.toNat) →
      ∃ due, (s.queue.item j).due = some due ∧
        due.toNat ≤ max (base.toNat + (s.queue.item j).period.toNat)
          ((s.queue.item j).lastStart.toNat + (s.queue.item j).minimumInterval.toNat))
  /-- A blocked worker wakes in time. -/
  wake : WakesInTime s.queue

/-- An item that asks for a run no later than `bound` is due no later than that or its rate limit. -/
theorem due_of_request_le {item : WorkItem} {bound : Nat} (henabled : item.enabled = true)
    (hrequest : item.request.toNat ≤ bound) (hfits : bound < 2 ^ 64 - 1) :
    ∃ due, item.due = some due ∧
      due.toNat ≤ max bound (item.lastStart.toNat + item.minimumInterval.toNat) := by
  have hne : item.request ≠ never := by
    intro heq
    rw [heq] at hrequest
    have hnever : never.toNat = 2 ^ 64 - 1 := rfl
    omega
  obtain ⟨due, hdue, hle⟩ := WorkItem.due_of_request henabled hne
  exact ⟨due, hdue, by omega⟩

/-- The timing contract holds in every run with a clock, of sums that stay below `UINT64_MAX`. -/
theorem timing_contract {s : QueueState Thread Item} (h : (timed Thread Item).Reachable s) :
    s.TimingSafe (· < 2 ^ 64 - 1) := by
  refine ⟨?_, ?_, ?_, ?_, ?_, ?_, wakesInTime (timed_reachable h)⟩
  · intro j later t₂ earlier t₁ m hsplit hstart hattach hfits
    have hrate := lawful_iff_forall_split.mp (itemTimed h j).2.rate later _ earlier hsplit t₂ rfl t₁ m
      hstart hattach
    rw [UInt64.le_iff_toNat_le, UInt64.toNat_add, Nat.mod_eq_of_lt (by omega)] at hrate
    exact hrate
  · intro j t delayUs hopen hfits
    obtain ⟨hpending, henabled, hdeadline⟩ := (itemTimed h j).2.served t delayUs hopen
    have hrequest := UInt64.le_iff_toNat_le.mp (WorkItem.request_le_deadline hpending)
    obtain ⟨due, hdue, hle⟩ := due_of_request_le henabled (Nat.le_trans hrequest hdeadline) hfits
    exact ⟨due, hdue, by omega⟩
  · intro j later t' earlier t delayUs hsplit hmem
    exact lawful_iff_forall_split.mp (itemTimed h j).2.ordered later _ earlier hsplit t' rfl _ hmem t rfl
  · intro j
    exact ⟨(itemTimed h j).2.minimum, fun t hlast => ((itemTimed h j).2.started t hlast).1⟩
  · intro j
    exact ⟨(itemTimed h j).2.interval, (itemTimed h j).2.set⟩
  · intro j hperiod
    obtain ⟨henabled, base, hbase, hnext⟩ := (itemTimed h j).2.periodic hperiod
    refine ⟨base, hbase, ?_⟩
    intro hfits
    have hrequest := UInt64.le_iff_toNat_le.mp (WorkItem.request_le_nextPeriodic hperiod)
    exact due_of_request_le henabled (Nat.le_trans hrequest hnext) hfits

/-- A request during the `Run` and one with an earlier time, with a rate limit of one millisecond. -/
def demoRequests : List (QueueAction Unit Unit) :=
  [.start true, .attach () 1000, .setInterval () 1 20000, .schedule () 2 0, .scan 3,
    .schedule () 4 5000, .finish (), .schedule () 5 0, .scan 6, .wake, .scan 1003]

theorem timing_contract_demo :
    (demoRequests.foldl next { clock := 1 }).TimingSafe (· < 2 ^ 64 - 1) := by
  have hstart : (timed Unit Unit).Reachable { clock := 1 } := .start ⟨1, by decide, rfl⟩
  exact timing_contract (hstart.foldl_restrict (by decide))

/-- Two requests for an item with the largest rate limit. -/
def wrapping : List (QueueAction Unit Unit) :=
  [.start true, .attach () never, .setInterval () 1 0, .schedule () 1 0, .scan 1, .finish (),
    .schedule () 2 0, .scan 2]

/-- With the largest rate limit the sum with the last start wraps, and the item starts twice within a
microsecond. -/
theorem timing_wraps :
    ∃ s : QueueState Unit Unit, (timed Unit Unit).Reachable s ∧ ¬ s.TimingSafe fun _ => True := by
  have hstart : (timed Unit Unit).Reachable { clock := 1 } := .start ⟨1, by decide, rfl⟩
  refine ⟨wrapping.foldl next { clock := 1 }, hstart.foldl_restrict (by decide), ?_⟩
  intro h
  have hrate := h.rate () [] 2 [.scheduled 2 0, .finished, .started 1, .scheduled 1 0, .interval 1 0,
    .attached never] 1 never (by decide) (by unfold LastStart; decide) (by unfold LastAttach; decide)
    trivial
  exact absurd hrate (by decide)

end QueueState

end DualMagneticWheel
