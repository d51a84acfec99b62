/-
# DualMagneticWheel.Common.Lifecycle — one live instance, and which task a stop terminates

`Effect` says once what a step can do to the tasks and the object of a module. From it follow the facts
about the log: a task exists from its spawn to its cleanup or termination, an object from its publication
to its deletion, and there is never a second one.

`stop_command` clears `_stopInProgress` before it takes the mutex again to terminate the task. Between the
two the old task may end and a `start` may pass; `stop_kills_newer` is such a run. `Unovertaken` is the
condition that no `start` creates a task while a stop is still in progress, and then a stop only
terminates the task that was current when it began.
-/
import DualMagneticWheel.Common.ModuleBase
import Mathlib.Data.Fintype.Basic

namespace DualMagneticWheel

open Foundation

namespace LifeEvent

variable {Shell : Type}

/-- The task with this number has ended. -/
def ends (k : Nat) : LifeEvent Shell → Bool
  | .cleaned j _ => j == k
  | .killed _ _ task _ => task == some k
  | _ => false

/-- The object with this number was deleted. -/
def deletes (k : Nat) : LifeEvent Shell → Bool
  | .cleaned _ object => object == some k
  | .killed _ _ _ object => object == some k
  | _ => false

/-- The object with this number was published. -/
def publishes (k : Nat) : LifeEvent Shell → Bool
  | .published j => j == k
  | _ => false

def isCleaned : LifeEvent Shell → Bool
  | .cleaned _ _ => true
  | _ => false

def isSpawn : LifeEvent Shell → Bool
  | .spawned _ => true
  | _ => false

end LifeEvent

namespace ModuleState

variable {Shell : Type} [DecidableEq Shell]

/-- The task was spawned and has neither finished its cleanup nor been terminated. -/
def TaskExists (k : Nat) (log : List (LifeEvent Shell)) : Prop :=
  Since (· = .spawned k) (·.ends k) log

/-- The object was published and not deleted. -/
def ObjectExists (k : Nat) (log : List (LifeEvent Shell)) : Prop :=
  Since (· = .published k) (·.deletes k) log

/-! ## What a step does to the tasks and the object -/

/-- What a step does, `s` before and `t` after it. -/
inductive Effect (s t : ModuleState Shell) : Prop
  | quiet : t.tasks = s.tasks → t.object = s.object → t.taskId = s.taskId → t.spawns = s.spawns →
      t.log = s.log → Effect s t
  | used (k : Nat) : s.object = some k → t.tasks = s.tasks → t.object = s.object →
      t.taskId = s.taskId → t.spawns = s.spawns → t.log = .used k :: s.log → Effect s t
  | spawned (pid : Int) : s.tasks = [] → s.object = none → t.tasks = [{ spawn := s.spawns, pid }] →
      t.object = none → t.spawns = s.spawns + 1 → t.log = .spawned s.spawns :: s.log → Effect s t
  | stored (u : ModuleTask) : s.tasks = [u] → 0 ≤ u.pid → t.tasks = s.tasks → t.object = s.object →
      t.taskId = u.pid → t.spawns = s.spawns → t.log = .stored u.spawn :: s.log → Effect s t
  | published (u : ModuleTask) : s.tasks = [u] → u.stage = .instantiating → s.object = none →
      t.tasks = [{ u with stage := .running }] → t.object = some u.spawn → t.taskId = s.taskId →
      t.spawns = s.spawns → t.log = .published u.spawn :: s.log → Effect s t
  | left (u : ModuleTask) : s.tasks = [u] → t.tasks = [{ u with stage := .leaving }] →
      t.object = s.object → t.taskId = s.taskId → t.spawns = s.spawns → t.log = s.log → Effect s t
  | ended (u : ModuleTask) (e : LifeEvent Shell) : s.tasks = [u] → t.tasks = [] → t.object = none →
      t.spawns = s.spawns → (e = .cleaned u.spawn s.object ∨
        ∃ shell stage current, s.shells shell = .stopping stage current ∧
          e = .killed shell current (some u.spawn) s.object) →
      t.log = e :: s.log → Effect s t
  | spared (shell : Shell) (current : Option Nat) : s.tasks = [] → s.object = none → t.tasks = [] →
      t.object = none → t.spawns = s.spawns → t.log = .killed shell current none none :: s.log →
      Effect s t

omit [DecidableEq Shell] in
theorem effect_useObject (s : ModuleState Shell) {t : ModuleState Shell}
    (hcore : t.tasks = s.tasks ∧ t.object = s.object ∧ t.taskId = s.taskId ∧ t.spawns = s.spawns)
    (hlog : t.log = s.useObject.log) : Effect s t := by
  obtain ⟨htasks, hobject, htaskId, hspawns⟩ := hcore
  unfold useObject at hlog
  split at hlog
  · rename_i k hk
    exact .used k hk htasks hobject htaskId hspawns hlog
  · exact .quiet htasks hobject htaskId hspawns hlog

theorem next_effect {s : ModuleState Shell} (h : s.Sound) (a : LifeAction Shell) (ha : s.Enabled a) :
    Effect s (s.next a) := by
  cases a with
  | start shell pid =>
      obtain ⟨hfree, hidle, -⟩ := ha
      simp only [next]
      split
      · exact .quiet rfl rfl rfl rfl rfl
      · rename_i hopen
        simp only [Bool.or_eq_true, not_or, Bool.not_eq_true] at hopen
        -- the shell holds the module lock, so there is neither a task nor an object
        obtain ⟨htasks, hobject, htaskId⟩ := h.not_running hfree hopen.1
        split
        · exact .quiet rfl rfl htaskId.symm rfl rfl
        · refine .spawned pid htasks hobject ?_ hobject rfl rfl
          simp [record, moveShell, htasks]
  | storeId shell =>
      cases hstage : s.shells shell with
      | storing pid =>
          have hlocked : s.locked = some shell := (h.locked shell).mp (by rw [hstage]; rfl)
          simp only [next, hstage]
          cases h.occupied with
          | free _ _ _ hfree =>
              rw [hfree] at hlocked
              cases hlocked
          | live u htasks hpid hspawn _ hid =>
              -- the lock belongs to one shell, so the id that is stored is that of the task
              rcases hid with ⟨-, starter, hstarter⟩ | ⟨-, hothers⟩
              · obtain rfl := h.eq_starter hlocked hstarter
                rw [hstage] at hstarter
                cases hstarter
                refine .stored u htasks hpid rfl rfl rfl rfl ?_
                show .stored (s.spawns - 1) :: s.log = .stored u.spawn :: s.log
                rw [← hspawn, Nat.add_sub_cancel]
              · have hno := hothers shell
                rw [hstage] at hno
                cases hno
      | _ =>
          have hno : (s.shells shell).isStoring = true := ha
          rw [hstage] at hno
          cases hno
  | await shell =>
      simp only [next]
      split <;> exact .quiet rfl rfl rfl rfl rfl
  | status shell =>
      obtain ⟨htasks, hobject, htaskId, -, hspawns, -⟩ := useObject_frame s
      simp only [next]
      split
      · exact effect_useObject s ⟨htasks, hobject, htaskId, hspawns⟩ rfl
      · exact .quiet rfl rfl rfl rfl rfl
  | custom shell =>
      obtain ⟨htasks, hobject, htaskId, -, hspawns, -⟩ := useObject_frame s
      exact effect_useObject s ⟨htasks, hobject, htaskId, hspawns⟩ rfl
  | stop shell =>
      obtain ⟨htasks, hobject, htaskId, -, hspawns, -⟩ := useObject_frame s
      simp only [next]
      split
      · exact .quiet rfl rfl rfl rfl rfl
      · exact effect_useObject s ⟨htasks, hobject, htaskId, hspawns⟩ rfl
  | poll shell => exact .quiet rfl rfl rfl rfl rfl
  | poke shell =>
      obtain ⟨htasks, hobject, htaskId, -, hspawns, -⟩ := useObject_frame s
      exact effect_useObject s ⟨htasks, hobject, htaskId, hspawns⟩ rfl
  | check shell => exact .quiet rfl rfl rfl rfl rfl
  | clear shell => exact .quiet rfl rfl rfl rfl rfl
  | kill shell =>
      obtain ⟨hfree, hkilling⟩ := ha
      cases hrunning : s.isRunning with
      | true =>
          obtain ⟨u, htasks, hid, hcurrent⟩ := (h.isRunning_iff hfree).mp hrunning
          have hstage : s.shells shell = .stopping .killing (s.shells shell).begun := by
            cases hstage : s.shells shell with
            | stopping stage current =>
                rw [hstage] at hkilling
                cases hkilling
                rfl
            | _ => rw [hstage] at hkilling; cases hkilling
          refine .ended u _ htasks ?_ rfl rfl
            (Or.inr ⟨shell, .killing, (s.shells shell).begun, hstage, ?_⟩) rfl
          · simp [next, record, moveShell, htasks, hid]
          · rw [hcurrent]
      | false =>
          obtain ⟨htasks, hobject, htaskId⟩ := h.not_running hfree hrunning
          refine .spared shell (s.shells shell).begun htasks hobject ?_ rfl rfl ?_
          · simp [next, record, moveShell, htasks]
          · simp [next, record, moveShell, current, htasks, hobject]
  | finishStop shell => exact .quiet rfl rfl rfl rfl rfl
  | publish k ok =>
      obtain ⟨u, htasks, rfl, hstage, -, -, howns, -⟩ := h.taskAt ha
      unfold Owns at howns
      rw [hstage] at howns
      simp only [next]
      split
      · refine .published u htasks hstage howns ?_ rfl rfl rfl rfl
        simp [record, moveTask, htasks]
      · refine .left u htasks ?_ howns.symm rfl rfl rfl
        simp [moveTask, htasks]
  | runReturns k =>
      obtain ⟨u, htasks, rfl, -⟩ := h.taskAt ha
      refine .left u htasks ?_ rfl rfl rfl rfl
      simp [next, moveTask, htasks]
  | cleanup k =>
      obtain ⟨u, htasks, rfl, -⟩ := h.taskAt ha.2
      refine .ended u _ htasks ?_ rfl rfl (Or.inl rfl) rfl
      simp [next, record, htasks]

/-! ## What the log says -/

section LogSound

omit [DecidableEq Shell]

@[simp] theorem taskExists_cons (k : Nat) (e : LifeEvent Shell) (log : List (LifeEvent Shell)) :
    TaskExists k (e :: log) ↔ e = .spawned k ∨ e.ends k = false ∧ TaskExists k log := by
  unfold TaskExists
  rw [since_cons, Bool.not_eq_true]

@[simp] theorem objectExists_cons (k : Nat) (e : LifeEvent Shell) (log : List (LifeEvent Shell)) :
    ObjectExists k (e :: log) ↔ e = .published k ∨ e.deletes k = false ∧ ObjectExists k log := by
  unfold ObjectExists
  rw [since_cons, Bool.not_eq_true]

/-- The tasks that exist by the log are the live ones. -/
def TasksLogged (s : ModuleState Shell) : Prop :=
  ∀ k, TaskExists k s.log ↔ ∃ t ∈ s.tasks, t.spawn = k

theorem TasksLogged.step {s t : ModuleState Shell} (h : TasksLogged s) (he : Effect s t) :
    TasksLogged t := by
  intro k
  have hk := h k
  cases he with
  | quiet htasks _ _ _ hlog =>
      rw [htasks, hlog]
      exact hk
  | used j _ htasks _ _ _ hlog =>
      rw [htasks, hlog, taskExists_cons]
      simpa [LifeEvent.ends] using hk
  | spawned pid hfree _ htasks _ _ hlog =>
      rw [htasks, hlog, taskExists_cons, hk, hfree]
      simp
  | stored u _ _ htasks _ _ _ hlog =>
      rw [htasks, hlog, taskExists_cons]
      simpa [LifeEvent.ends] using hk
  | published u hu _ _ htasks _ _ _ hlog =>
      rw [htasks, hlog, taskExists_cons, hk, hu]
      simp [LifeEvent.ends]
  | left u hu htasks _ _ _ hlog =>
      rw [htasks, hlog, hk, hu]
      simp
  | ended u e hu htasks _ _ hkind hlog =>
      rw [htasks, hlog, taskExists_cons, hk, hu]
      rcases hkind with rfl | ⟨shell, stage, current, -, rfl⟩ <;> simp [LifeEvent.ends]
  | spared shell current hfree _ htasks _ _ hlog =>
      rw [htasks, hlog, taskExists_cons, hk, hfree]
      simp

/-- The object that exists by the log is the published one. -/
def ObjectLogged (s : ModuleState Shell) : Prop := ∀ k, ObjectExists k s.log ↔ s.object = some k

theorem ObjectLogged.step {s t : ModuleState Shell} (h : ObjectLogged s) (he : Effect s t) :
    ObjectLogged t := by
  intro k
  have hk := h k
  cases he with
  | quiet _ hobject _ _ hlog =>
      rw [hobject, hlog]
      exact hk
  | used j _ _ hobject _ _ hlog =>
      rw [hobject, hlog, objectExists_cons]
      simpa [LifeEvent.deletes] using hk
  | spawned pid _ hnone _ hobject _ hlog =>
      rw [hobject, hlog, objectExists_cons, hk, hnone]
      simp
  | stored u _ _ _ hobject _ _ hlog =>
      rw [hobject, hlog, objectExists_cons]
      simpa [LifeEvent.deletes] using hk
  | published u _ _ hnone _ hobject _ _ hlog =>
      rw [hobject, hlog, objectExists_cons, hk, hnone]
      simp
  | left u _ _ hobject _ _ hlog =>
      rw [hobject, hlog]
      exact hk
  | ended u e _ _ hobject _ hkind hlog =>
      rw [hobject, hlog, objectExists_cons, hk]
      rcases hkind with rfl | ⟨shell, stage, current, -, rfl⟩ <;> simp [LifeEvent.deletes]
  | spared shell current _ hnone _ hobject _ hlog =>
      rw [hobject, hlog, objectExists_cons, hk, hnone]
      simp

/-- While the task whose id was stored exists, its id is there. -/
def IdLogged (s : ModuleState Shell) : Prop :=
  ∀ k, Since (· = .stored k) (·.ends k) s.log → ∃ t ∈ s.tasks, t.spawn = k ∧ s.taskId = t.pid ∧ 0 ≤ t.pid

theorem IdLogged.step {s t : ModuleState Shell} (h : IdLogged s) (he : Effect s t) : IdLogged t := by
  intro k
  have hk := h k
  cases he with
  | quiet htasks _ htaskId _ hlog =>
      rw [htasks, htaskId, hlog]
      exact hk
  | used j _ htasks _ htaskId _ hlog =>
      rw [htasks, htaskId, hlog, since_cons]
      simpa [LifeEvent.ends] using hk
  | spawned pid hfree _ _ _ _ hlog =>
      rw [hlog, since_cons]
      rintro (hmark | ⟨-, hsince⟩)
      · cases hmark
      · obtain ⟨u, hu, -⟩ := hk hsince
        rw [hfree] at hu
        cases hu
  | stored u hu hpid htasks _ htaskId _ hlog =>
      rw [htasks, htaskId, hlog, since_cons, hu]
      rintro (hmark | ⟨-, hsince⟩)
      · cases hmark
        exact ⟨u, List.mem_singleton_self u, rfl, rfl, hpid⟩
      · obtain ⟨u', hu', hspawn, -⟩ := hk hsince
        rw [hu, List.mem_singleton] at hu'
        subst hu'
        exact ⟨u', List.mem_singleton_self u', hspawn, rfl, hpid⟩
  | published u hu _ _ htasks _ htaskId _ hlog =>
      rw [htasks, htaskId, hlog, since_cons]
      simpa [LifeEvent.ends, hu] using hk
  | left u hu htasks _ htaskId _ hlog =>
      rw [htasks, htaskId, hlog]
      simpa [hu] using hk
  | ended u e hu _ _ _ hkind hlog =>
      rw [hlog, since_cons]
      rintro (hmark | ⟨hopen, hsince⟩)
      · rcases hkind with rfl | ⟨shell, stage, current, -, rfl⟩ <;> cases hmark
      · -- the only task is the one that ends
        obtain ⟨u', hu', rfl, -⟩ := hk hsince
        rw [hu, List.mem_singleton] at hu'
        subst hu'
        rcases hkind with rfl | ⟨shell, stage, current, -, rfl⟩ <;> simp [LifeEvent.ends] at hopen
  | spared shell current hfree _ _ _ _ hlog =>
      rw [hlog, since_cons]
      rintro (hmark | ⟨-, hsince⟩)
      · cases hmark
      · obtain ⟨u, hu, -⟩ := hk hsince
        rw [hfree] at hu
        cases hu

/-- After a cleanup there is no task until the next spawn. -/
def CleanLogged (s : ModuleState Shell) : Prop :=
  Since (·.isCleaned) (·.isSpawn) s.log → s.tasks = []

theorem CleanLogged.step {s t : ModuleState Shell} (h : CleanLogged s) (he : Effect s t) :
    CleanLogged t := by
  unfold CleanLogged at h ⊢
  cases he with
  | quiet htasks _ _ _ hlog =>
      rw [htasks, hlog]
      exact h
  | used j _ htasks _ _ _ hlog =>
      rw [htasks, hlog, since_cons]
      simpa [LifeEvent.isCleaned, LifeEvent.isSpawn] using h
  | spawned pid _ _ _ _ _ hlog =>
      rw [hlog, since_cons]
      simp [LifeEvent.isCleaned, LifeEvent.isSpawn]
  | stored u _ _ htasks _ _ _ hlog =>
      rw [htasks, hlog, since_cons]
      simpa [LifeEvent.isCleaned, LifeEvent.isSpawn] using h
  | published u hu _ _ _ _ _ _ hlog =>
      rw [hlog, since_cons]
      rintro (hmark | ⟨-, hsince⟩)
      · cases hmark
      · rw [h hsince] at hu
        cases hu
  | left u hu _ _ _ _ hlog =>
      rw [hlog]
      intro hsince
      rw [h hsince] at hu
      cases hu
  | ended u e _ htasks _ _ _ _ => exact fun _ => htasks
  | spared shell current _ _ htasks _ _ _ => exact fun _ => htasks

/-- Every object that was published and is not the present one was deleted, once; an object is published
once, by its task. -/
structure Counted (s : ModuleState Shell) (k : Nat) : Prop where
  balance : s.log.countP (·.deletes k) + (if s.object = some k then 1 else 0) =
    s.log.countP (·.publishes k)
  once : s.log.countP (·.publishes k) ≤ 1
  fresh : s.log.countP (·.publishes k) ≠ 0 → k < s.spawns ∧ ¬ s.TaskAt k .instantiating

/-- An event that neither publishes nor deletes. -/
theorem Counted.quiet {s t : ModuleState Shell} {k : Nat} {e : LifeEvent Shell} (h : Counted s k)
    (hlog : t.log = e :: s.log) (hobject : t.object = s.object) (hpublishes : e.publishes k = false)
    (hdeletes : e.deletes k = false) (hspawns : s.spawns ≤ t.spawns)
    (htasks : k < s.spawns → t.TaskAt k .instantiating → s.TaskAt k .instantiating) : Counted t k := by
  obtain ⟨balance, once, fresh⟩ := h
  refine ⟨?_, ?_, ?_⟩
  · rw [hlog, hobject, List.countP_cons, List.countP_cons, hpublishes, hdeletes]
    exact balance
  · rw [hlog, List.countP_cons, hpublishes]
    exact once
  · rw [hlog, List.countP_cons, hpublishes]
    intro hcount
    obtain ⟨hlt, hat⟩ := fresh hcount
    exact ⟨by omega, fun hat' => hat (htasks hlt hat')⟩

theorem Counted.step {s t : ModuleState Shell} (hs : s.Sound) {k : Nat} (h : Counted s k)
    (he : Effect s t) : Counted t k := by
  cases he with
  | quiet htasks hobject _ hspawns hlog =>
      obtain ⟨balance, once, fresh⟩ := h
      refine ⟨?_, ?_, ?_⟩
      · rw [hlog, hobject]
        exact balance
      · rw [hlog]
        exact once
      · unfold TaskAt
        rw [hlog, hspawns, htasks]
        exact fresh
  | used j _ htasks hobject _ hspawns hlog =>
      refine h.quiet hlog hobject rfl rfl (Nat.le_of_eq hspawns.symm) ?_
      unfold TaskAt
      rw [htasks]
      exact fun _ hat => hat
  | spawned pid hfree hnone htasks hobject hspawns hlog =>
      refine h.quiet hlog (hobject.trans hnone.symm) rfl rfl (by omega) ?_
      unfold TaskAt
      rw [htasks]
      rintro hlt ⟨u, hu, rfl, -⟩
      rw [List.mem_singleton] at hu
      subst hu
      exact absurd hlt (Nat.lt_irrefl _)
  | stored u _ _ htasks hobject _ hspawns hlog =>
      refine h.quiet hlog hobject rfl rfl (Nat.le_of_eq hspawns.symm) ?_
      unfold TaskAt
      rw [htasks]
      exact fun _ hat => hat
  | published u hu hstage hnone htasks hobject _ hspawns hlog =>
      obtain ⟨balance, once, fresh⟩ := h
      have hat : s.TaskAt u.spawn .instantiating := ⟨u, by rw [hu]; exact List.mem_singleton_self u, rfl, hstage⟩
      -- the task has published its object now, so it does so once
      have hgone : ¬ t.TaskAt k .instantiating := by
        rintro ⟨u', hu', -, hstage'⟩
        rw [htasks, List.mem_singleton] at hu'
        subst hu'
        cases hstage'
      by_cases hk : u.spawn = k
      · -- the first publication of this object
        subst hk
        have hnever : s.log.countP (·.publishes u.spawn) = 0 := by
          by_contra hcount
          exact (fresh hcount).2 hat
        obtain ⟨u', -, hsame, -, -, hspawn, -⟩ := hs.taskAt hat
        rw [hnone] at balance
        refine ⟨?_, ?_, fun _ => ⟨by rw [hspawns]; omega, hgone⟩⟩
        · rw [hlog, hobject, List.countP_cons, List.countP_cons]
          simpa [LifeEvent.deletes, LifeEvent.publishes, hnever] using balance
        · rw [hlog, List.countP_cons, hnever]
          simp [LifeEvent.publishes]
      · have hpublishes : (LifeEvent.published u.spawn : LifeEvent Shell).publishes k = false :=
          beq_eq_false_iff_ne.mpr hk
        rw [hnone] at balance
        refine ⟨?_, ?_, ?_⟩
        · rw [hlog, hobject, List.countP_cons, List.countP_cons, hpublishes]
          simpa [LifeEvent.deletes, hk] using balance
        · rw [hlog, List.countP_cons, hpublishes]
          exact once
        · rw [hlog, List.countP_cons, hpublishes]
          exact fun hcount => ⟨by rw [hspawns]; exact (fresh hcount).1, hgone⟩
  | left u hu htasks hobject _ hspawns hlog =>
      obtain ⟨balance, once, fresh⟩ := h
      refine ⟨?_, ?_, ?_⟩
      · rw [hlog, hobject]
        exact balance
      · rw [hlog]
        exact once
      · rw [hlog, hspawns]
        intro hcount
        refine ⟨(fresh hcount).1, ?_⟩
        rintro ⟨u', hu', -, hstage'⟩
        rw [htasks, List.mem_singleton] at hu'
        subst hu'
        cases hstage'
  | ended u e hu htasks hobject hspawns hkind hlog =>
      obtain ⟨balance, once, fresh⟩ := h
      have hevent : e.publishes k = false ∧ e.deletes k = (s.object == some k) := by
        rcases hkind with rfl | ⟨shell, stage, current, -, rfl⟩ <;> exact ⟨rfl, rfl⟩
      have hgone : ¬ t.TaskAt k .instantiating := by
        rintro ⟨u', hu', -⟩
        rw [htasks] at hu'
        cases hu'
      refine ⟨?_, ?_, ?_⟩
      · rw [hlog, hobject, List.countP_cons, List.countP_cons, hevent.1, hevent.2]
        simpa using balance
      · rw [hlog, List.countP_cons, hevent.1]
        exact once
      · rw [hlog, List.countP_cons, hevent.1]
        exact fun hcount => ⟨by rw [hspawns]; exact (fresh hcount).1, hgone⟩
  | spared shell current hfree hnone htasks hobject hspawns hlog =>
      refine h.quiet hlog (hobject.trans hnone.symm) rfl rfl (Nat.le_of_eq hspawns.symm) ?_
      unfold TaskAt
      rw [htasks]
      rintro - ⟨u, hu, -⟩
      cases hu

/-- Objects are used while they exist, tasks are spawned while none does. -/
structure UseLawful (s : ModuleState Shell) : Prop where
  used : Lawful (fun earlier e => ∀ k, e = .used k → ObjectExists k earlier) s.log
  spawned : Lawful (fun earlier e => e.isSpawn → ∀ j, ¬ TaskExists j earlier) s.log

/-- An event that is neither a use nor a spawn. -/
theorem UseLawful.quiet {s t : ModuleState Shell} {e : LifeEvent Shell} (h : UseLawful s)
    (hlog : t.log = e :: s.log) (hused : ∀ k, e ≠ .used k) (hspawned : e.isSpawn = false) :
    UseLawful t := by
  refine ⟨?_, ?_⟩
  · rw [hlog]
    exact ⟨fun k hk => absurd hk (hused k), h.used⟩
  · rw [hlog]
    refine ⟨?_, h.spawned⟩
    intro hspawn
    rw [hspawned] at hspawn
    cases hspawn

theorem UseLawful.step {s t : ModuleState Shell} (htasks : TasksLogged s) (hobject : ObjectLogged s)
    (h : UseLawful s) (he : Effect s t) : UseLawful t := by
  cases he with
  | quiet _ _ _ _ hlog => exact ⟨hlog ▸ h.used, hlog ▸ h.spawned⟩
  | used j hj _ _ _ _ hlog =>
      refine ⟨?_, ?_⟩
      · rw [hlog]
        refine ⟨?_, h.used⟩
        rintro k ⟨⟩
        exact (hobject j).mpr hj
      · rw [hlog]
        exact ⟨nofun, h.spawned⟩
  | spawned pid hfree _ _ _ _ hlog =>
      refine ⟨?_, ?_⟩
      · rw [hlog]
        exact ⟨nofun, h.used⟩
      · rw [hlog]
        refine ⟨?_, h.spawned⟩
        intro _ j hj
        rw [htasks j, hfree] at hj
        obtain ⟨u, hu, -⟩ := hj
        cases hu
  | stored u _ _ _ _ _ _ hlog => exact h.quiet hlog nofun rfl
  | published u _ _ _ _ _ _ _ hlog => exact h.quiet hlog nofun rfl
  | left u _ _ _ _ _ hlog => exact ⟨hlog ▸ h.used, hlog ▸ h.spawned⟩
  | ended u e _ _ _ _ hkind hlog =>
      rcases hkind with rfl | ⟨shell, stage, current, -, rfl⟩
      · exact h.quiet hlog nofun rfl
      · exact h.quiet hlog nofun rfl
  | spared shell current _ _ _ _ _ hlog => exact h.quiet hlog nofun rfl

end LogSound

/-- The log tells which task and which object there are, and what was done with them. -/
structure LogSound (s : ModuleState Shell) : Prop where
  tasks : TasksLogged s
  object : ObjectLogged s
  id : IdLogged s
  clean : CleanLogged s
  counted : ∀ k, Counted s k
  lawful : UseLawful s

theorem logSound {s : ModuleState Shell} (h : (system Shell).Reachable s) : s.LogSound := by
  refine h.invariant LogSound ?_ ?_
  · rintro s rfl
    exact ⟨fun k => ⟨nofun, by simp⟩, fun k => ⟨nofun, nofun⟩, fun k => nofun, nofun,
      fun k => ⟨rfl, Nat.zero_le 1, fun h => absurd rfl h⟩, ⟨lawful_nil, lawful_nil⟩⟩
  · rintro s a t hr hs ⟨ha, rfl⟩
    have he := next_effect (sound hr) a ha
    exact ⟨hs.tasks.step he, hs.object.step he, hs.id.step he, hs.clean.step he,
      fun k => (hs.counted k).step (sound hr) he, hs.lawful.step hs.tasks hs.object he⟩

/-! ## One live instance -/

/-- What holds of the tasks and objects of a module. -/
structure SingleInstance (s : ModuleState Shell) : Prop where
  oneTask : s.tasks.length ≤ 1 ∧ ∀ j k, TaskExists j s.log → TaskExists k s.log → j = k
  oneObject : ∀ j k, ObjectExists j s.log → ObjectExists k s.log → j = k
  deletedOnce : ∀ k, s.log.countP (·.deletes k) ≤ 1
  /-- Status, custom commands and stop requests are calls of an object that exists. -/
  usedAlive : ∀ later k older, s.log = later ++ .used k :: older → ObjectExists k older
  /-- From the moment its id is stored the module is running for as long as the task exists. -/
  running : ∀ k, Since (· = .stored k) (·.ends k) s.log → s.isRunning = true
  spawnedAlone : ∀ later k older, s.log = later ++ .spawned k :: older → ∀ j, ¬ TaskExists j older
  /-- After the cleanup of a task, whether its `instantiate` failed or not. -/
  cleaned : Since (·.isCleaned) (·.isSpawn) s.log → s.isRunning = false
  restarts : s.isRunning = false → (∀ shell, (s.shells shell).stopStage = none) →
    ∀ shell pid, s.Enabled (.start shell pid) → 0 ≤ pid →
      (s.next (.start shell pid)).log = .spawned s.spawns :: s.log

theorem single_instance {s : ModuleState Shell} (h : (system Shell).Reachable s) : s.SingleInstance := by
  have hsound := sound h
  have hlog := logSound h
  have hone : s.tasks.length ≤ 1 := by
    cases hsound.occupied with
    | free htasks => rw [htasks]; exact Nat.zero_le 1
    | live t htasks => rw [htasks]; exact Nat.le_refl 1
  refine ⟨⟨hone, ?_⟩, ?_, ?_, ?_, ?_, ?_, ?_, ?_⟩
  · intro j k hj hk
    obtain ⟨t, ht, rfl⟩ := (hlog.tasks j).mp hj
    obtain ⟨u, hu, rfl⟩ := (hlog.tasks k).mp hk
    cases hsound.occupied with
    | free htasks =>
        rw [htasks] at ht
        cases ht
    | live v htasks =>
        rw [htasks, List.mem_singleton] at ht hu
        rw [ht, hu]
  · intro j k hj hk
    rw [hlog.object] at hj hk
    exact Option.some.inj (hj.symm.trans hk)
  · intro k
    have hbalance := (hlog.counted k).balance
    have honce := (hlog.counted k).once
    omega
  · -- every use finds the object in place
    intro later k older hsplit
    exact lawful_iff_forall_split.mp hlog.lawful.used later _ older hsplit k rfl
  · intro k hstored
    obtain ⟨t, -, -, hid, hpid⟩ := hlog.id k hstored
    unfold isRunning
    rw [bne_iff_ne, hid]
    omega
  · intro later k older hsplit
    exact lawful_iff_forall_split.mp hlog.lawful.spawned later _ older hsplit rfl
  · intro hcleaned
    have htasks := hlog.clean hcleaned
    cases hsound.occupied with
    | free _ _ htaskId =>
        unfold isRunning
        rw [htaskId]
        rfl
    | live t ht =>
        rw [htasks] at ht
        cases ht
  · intro hidle hstops shell pid ha hpid
    have hflag : s.stopInProgress = false := by
      cases hset : s.stopInProgress with
      | false => rfl
      | true =>
          obtain ⟨other, hother⟩ := hsound.flag hset
          exact absurd (hstops other) hother
    simp only [next, hidle, hflag, Bool.or_self, if_neg Bool.false_ne_true]
    rw [if_neg (by omega)]
    rfl

/-- A start whose `instantiate` fails; then a start that succeeds and is asked for its status. -/
def demoLife : List (LifeAction Bool) :=
  [.start true 7, .storeId true, .publish 0 false] ++ List.replicate 501 (.await true) ++
    [.cleanup 0, .start false 8, .storeId false, .publish 1 true, .await false, .status true]

theorem single_instance_demo : (demoLife.foldl next {}).SingleInstance := by
  have hstart : (system Bool).Reachable {} := .start rfl
  exact single_instance (hstart.foldl_restrict (by decide +kernel))

/-! ## Which task a stop terminates -/

/-- Every stop that timed out has terminated and deleted nothing but the task that was current when it
began and its object. -/
def StopsOwn (s : ModuleState Shell) : Prop :=
  ∀ shell current task object, .killed shell current task object ∈ s.log →
    (∀ k, task = some k → current = some k) ∧ ∀ k, object = some k → current = some k

/-- No start creates a task while a stop is in progress. -/
def Unovertaken (s : ModuleState Shell) : LifeAction Shell → Prop
  | .start _ pid => s.isRunning = false → s.stopInProgress = false → 0 ≤ pid →
      ∀ shell, (s.shells shell).stopStage = none
  | _ => True

instance [Fintype Shell] (s : ModuleState Shell) :
    (a : LifeAction Shell) → Decidable (s.Unovertaken a)
  | .start _ pid => inferInstanceAs (Decidable (s.isRunning = false → s.stopInProgress = false →
      0 ≤ pid → ∀ shell, (s.shells shell).stopStage = none))
  | .storeId _ | .await _ | .status _ | .custom _ | .stop _ | .poll _ | .poke _ | .check _
  | .clear _ | .kill _ | .finishStop _ | .publish _ _ | .runReturns _ | .cleanup _ =>
      inferInstanceAs (Decidable True)

/-- The runs in which no start overtakes a stop. -/
def unovertaken (Shell : Type) [DecidableEq Shell] : Transition (ModuleState Shell) (LifeAction Shell) :=
  (Transition.ofFun (· = {}) next).restrict fun s a => s.Enabled a ∧ s.Unovertaken a

theorem unovertaken_reachable {s : ModuleState Shell} (h : (unovertaken Shell).Reachable s) :
    (system Shell).Reachable s := by
  induction h with
  | start h0 => exact .start h0
  | next _ hst ih => exact .next ih ⟨hst.1.1, hst.2⟩

/-- The task that exists while a stop is in progress is the one that was current when the stop began. -/
def StopsCurrent (s : ModuleState Shell) : Prop :=
  ∀ shell stage current, s.shells shell = .stopping stage current →
    ∀ t ∈ s.tasks, current = some t.spawn

omit [DecidableEq Shell] in
/-- A step of a task that begins no task. -/
theorem StopsCurrent.keep {s t : ModuleState Shell} (h : StopsCurrent s) (hshells : t.shells = s.shells)
    (htasks : ∀ u ∈ t.tasks, ∃ u' ∈ s.tasks, u'.spawn = u.spawn) : StopsCurrent t := by
  intro shell stage current hstop u hu
  obtain ⟨u', hu', hsame⟩ := htasks u hu
  rw [← hsame]
  exact h shell stage current (hshells ▸ hstop) u' hu'

/-- A step of a shell that begins neither a stop nor a task. -/
theorem StopsCurrent.moveShell {s t : ModuleState Shell} (h : StopsCurrent s) (shell : Shell)
    (new : ShellStage) (hshells : t.shells = Function.update s.shells shell new)
    (hnew : ∀ stage current, new = .stopping stage current →
      ∃ stage', s.shells shell = .stopping stage' current)
    (htasks : ∀ u ∈ t.tasks, u ∈ s.tasks) : StopsCurrent t := by
  intro other stage current hstop u hu
  rw [hshells] at hstop
  by_cases hne : other = shell
  · subst hne
    rw [Function.update_self] at hstop
    obtain ⟨stage', hstop'⟩ := hnew stage current hstop
    exact h other stage' current hstop' u (htasks u hu)
  · rw [Function.update_of_ne hne] at hstop
    exact h other stage current hstop u (htasks u hu)

omit [DecidableEq Shell] in
theorem stopping_of_moveStop {old : ShellStage} {later stage : StopStage} {current : Option Nat}
    (h : old.moveStop later = .stopping stage current) : ∃ stage', old = .stopping stage' current := by
  cases old with
  | stopping stage' current' =>
      cases h
      exact ⟨stage', rfl⟩
  | _ => cases h

theorem stopsCurrent_step {s : ModuleState Shell} (hs : s.Sound) (h : StopsCurrent s)
    (a : LifeAction Shell) (ha : s.Enabled a) (hcond : s.Unovertaken a) : StopsCurrent (s.next a) := by
  obtain ⟨hutasks, -, -, -, -, hushells, -⟩ := useObject_frame s
  cases a with
  | start shell pid =>
      simp only [next]
      split
      · exact h
      · rename_i hopen
        simp only [Bool.or_eq_true, not_or, Bool.not_eq_true] at hopen
        split
        · exact h
        · rename_i hpid
          -- a task is created only while no stop is in progress
          have hnone := hcond hopen.1 hopen.2 (by omega)
          intro other stage current hstop
          have hstop' : Function.update s.shells shell (.storing pid) other = .stopping stage current :=
            hstop
          by_cases hne : other = shell
          · subst hne
            rw [Function.update_self] at hstop'
            cases hstop'
          · rw [Function.update_of_ne hne] at hstop'
            have hno := hnone other
            rw [hstop'] at hno
            cases hno
  | storeId shell =>
      cases hstage : s.shells shell with
      | storing pid =>
          simp only [next, hstage]
          exact h.moveShell shell (.awaiting 0) rfl (by rintro _ _ ⟨⟩) fun _ hu => hu
      | _ =>
          simp only [next, hstage]
          exact h
  | await shell =>
      simp only [next]
      split
      · exact h.moveShell shell (.awaiting _) rfl (by rintro _ _ ⟨⟩) fun _ hu => hu
      · exact h.moveShell shell .idle rfl (by rintro _ _ ⟨⟩) fun _ hu => hu
  | status shell =>
      simp only [next]
      split
      · exact h.keep hushells fun u hu => ⟨u, hutasks ▸ hu, rfl⟩
      · exact h
  | custom shell => exact h.keep hushells fun u hu => ⟨u, hutasks ▸ hu, rfl⟩
  | stop shell =>
      simp only [next]
      split
      · exact h
      · rename_i hopen
        simp only [Bool.or_eq_true, not_or, Bool.not_eq_true, Bool.not_eq_true'] at hopen
        obtain ⟨t, ht, -, hcurrent⟩ := (hs.isRunning_iff ha.1).mp ((Bool.not_eq_false _).mp hopen.2)
        intro other stage current hstop u hu
        have hu' : u ∈ s.tasks := hutasks ▸ hu
        have hstop' : Function.update s.shells shell (.stopping (.waiting 0) s.current) other =
            .stopping stage current := hushells ▸ hstop
        by_cases hne : other = shell
        · -- the stop that begins here
          subst hne
          rw [Function.update_self] at hstop'
          cases hstop'
          rw [ht, List.mem_singleton] at hu'
          rw [hcurrent, hu']
        · rw [Function.update_of_ne hne] at hstop'
          exact h other stage current hstop' u hu'
  | poll shell =>
      exact h.moveShell shell _ rfl (fun _ _ => stopping_of_moveStop) fun _ hu => hu
  | poke shell =>
      refine h.moveShell shell ((s.shells shell).moveStop (.waiting ((s.shells shell).elapsed + 10))) ?_
        (fun _ _ => stopping_of_moveStop) fun u hu => hutasks ▸ hu
      show Function.update s.useObject.shells _ _ = _
      rw [hushells]
  | check shell =>
      exact h.moveShell shell _ rfl (fun _ _ => stopping_of_moveStop) fun _ hu => hu
  | clear shell =>
      exact h.moveShell shell _ rfl (fun _ _ => stopping_of_moveStop) fun _ hu => hu
  | kill shell => exact h.moveShell shell .idle rfl (by rintro _ _ ⟨⟩) fun u hu => (List.mem_filter.mp hu).1
  | finishStop shell => exact h.moveShell shell .idle rfl (by rintro _ _ ⟨⟩) fun _ hu => hu
  | publish k ok =>
      have hmoved : ∀ stage : TaskStage, ∀ u ∈ (s.moveTask k stage).tasks,
          ∃ u' ∈ s.tasks, u'.spawn = u.spawn := by
        intro stage u hu
        obtain ⟨u', hu', rfl⟩ := List.mem_map.mp hu
        refine ⟨u', hu', ?_⟩
        split <;> rfl
      simp only [next]
      split
      · exact h.keep rfl (hmoved .running)
      · exact h.keep rfl (hmoved .leaving)
  | runReturns k =>
      refine h.keep rfl ?_
      intro u hu
      obtain ⟨u', hu', rfl⟩ := List.mem_map.mp hu
      refine ⟨u', hu', ?_⟩
      split <;> rfl
  | cleanup k => exact h.keep rfl fun u hu => ⟨u, (List.mem_filter.mp hu).1, rfl⟩

omit [DecidableEq Shell] in
theorem StopsOwn.step {s t : ModuleState Shell} (hs : s.Sound) (hcurrent : StopsCurrent s)
    (h : StopsOwn s) (he : Effect s t) : StopsOwn t := by
  have hother : ∀ e, t.log = e :: s.log → (∀ shell current task object,
      e = .killed shell current task object → (∀ k, task = some k → current = some k) ∧
        ∀ k, object = some k → current = some k) → StopsOwn t := by
    intro e hlog hnew shell current task object hmem
    rw [hlog] at hmem
    rcases List.mem_cons.mp hmem with heq | hmem
    · exact hnew shell current task object heq.symm
    · exact h shell current task object hmem
  cases he with
  | quiet _ _ _ _ hlog =>
      unfold StopsOwn
      rw [hlog]
      exact h
  | used k _ _ _ _ _ hlog => exact hother _ hlog nofun
  | spawned pid _ _ _ _ _ hlog => exact hother _ hlog nofun
  | stored u _ _ _ _ _ _ hlog => exact hother _ hlog nofun
  | published u _ _ _ _ _ _ _ hlog => exact hother _ hlog nofun
  | left u _ _ _ _ _ hlog =>
      unfold StopsOwn
      rw [hlog]
      exact h
  | ended u e hu _ _ _ hkind hlog =>
      refine hother _ hlog ?_
      rcases hkind with rfl | ⟨shell, stage, current, hstop, rfl⟩
      · exact nofun
      · have hmem : u ∈ s.tasks := hu ▸ List.mem_singleton_self u
        have hown := hcurrent shell stage current hstop u hmem
        rintro _ _ _ _ ⟨⟩
        refine ⟨?_, ?_⟩
        · rintro k ⟨⟩
          exact hown
        · -- the object of the task that is terminated
          intro k hk
          cases hs.occupied with
          | free htasks =>
              rw [hu] at htasks
              cases htasks
          | live v hv _ _ howns _ =>
              obtain rfl := List.singleton_injective (hu.symm.trans hv)
              unfold Owns at howns
              rw [hk] at howns
              split at howns
              · cases howns
              · rw [hown, ← Option.some.inj howns]
              · rcases howns with hnone | howns
                · cases hnone
                · rw [hown, ← Option.some.inj howns]
  | spared shell current _ _ _ _ _ hlog =>
      refine hother _ hlog ?_
      rintro _ _ _ _ ⟨⟩
      exact ⟨nofun, nofun⟩

/-- In the runs in which no start overtakes a stop, a stop that times out terminates the task that was
current when it began, and deletes the object of that task. -/
theorem stops_own {s : ModuleState Shell} (h : (unovertaken Shell).Reachable s) : s.StopsOwn := by
  have hall : s.StopsCurrent ∧ s.StopsOwn := by
    refine h.invariant (fun s => s.StopsCurrent ∧ s.StopsOwn) ?_ ?_
    · rintro s rfl
      exact ⟨nofun, nofun⟩
    · rintro s a t hr ⟨hcurrent, hown⟩ ⟨⟨ha, hcond⟩, rfl⟩
      have hs := sound (unovertaken_reachable hr)
      exact ⟨stopsCurrent_step hs hcurrent a ha hcond, hown.step hs hcurrent (next_effect hs a ha)⟩
  exact hall.2

/-- A stop of a task that does not end, up to its time-out. -/
def stopTimesOut : List (LifeAction (Fin 3)) :=
  [.start 0 7, .storeId 0, .publish 0 true, .await 0, .stop 1] ++
    (List.replicate 500 [.poll 1, .poke 1]).flatten ++ [.poll 1, .check 1, .clear 1]

/-- The stop terminates that task. -/
def ownKilled : List (LifeAction (Fin 3)) := stopTimesOut ++ [.kill 1]

theorem stops_own_demo : (ownKilled.foldl next {}).StopsOwn := by
  have hstart : (unovertaken (Fin 3)).Reachable {} := .start rfl
  exact stops_own (hstart.foldl_restrict (by decide +kernel))

/-- The task ends after the stop has cleared its flag, and another shell starts the module again before
the stop takes the mutex. -/
def newerKilled : List (LifeAction (Fin 3)) :=
  stopTimesOut ++ [.runReturns 0, .cleanup 0, .start 2 8, .storeId 2, .publish 1 true, .await 2, .kill 1]

/-- There the stop terminates the new task and deletes its object. -/
theorem stop_kills_newer :
    ∃ s : ModuleState (Fin 3), (system (Fin 3)).Reachable s ∧ ¬ s.StopsOwn := by
  have hstart : (system (Fin 3)).Reachable {} := .start rfl
  refine ⟨newerKilled.foldl next {}, hstart.foldl_restrict (by decide +kernel), ?_⟩
  intro h
  have hkilled := (h 1 (some 0) (some 1) (some 1) (by decide +kernel)).1 1 rfl
  cases hkilled

end ModuleState

end DualMagneticWheel
