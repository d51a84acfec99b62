/-
# DualMagneticWheel.Common.ModuleBase — the life of a module that has a task of its own

`ModuleBase<T>` keeps one object, one task id and one flag for each module type. Any number of shells
call `start`, `stop`, `status` and custom commands; the task that a start has created publishes its
object, runs and cleans up. All writes but the publication of the object happen under the module's mutex.

A step is one critical section or one access outside the mutex. `start` keeps the mutex while it waits for
the new task, so the shell that holds it is part of the state. A stop that times out takes the mutex
twice: once to clear the flag that keeps other starts and stops out, and once more to terminate the task.

Tasks and objects have the number of the spawn they come from; the code itself only sees the task id.
-/
import DualMagneticWheel.Foundation.EventLog
import DualMagneticWheel.Foundation.Transition
import Mathlib.Logic.Function.Basic

namespace DualMagneticWheel

open Foundation

/-! ## The state -/

/-- Where a task stands in `run_trampoline`: before it publishes its object, inside `run`, or on its way
into `exit_and_cleanup`. -/
inductive TaskStage where
  | instantiating
  | running
  | leaving
  deriving DecidableEq

/-- A live task. -/
structure ModuleTask where
  spawn : Nat
  pid : Int
  stage : TaskStage := .instantiating
  deriving DecidableEq

/-- Where a shell stands in `stop_command` after its first critical section; the loop counts the
milliseconds it has slept. -/
inductive StopStage where
  | waiting (elapsed : Nat)
  | poking (elapsed : Nat)
  | checking
  | clearing
  | killing
  | ending
  deriving DecidableEq

/-- Where a shell stands. A stop remembers the task that was current when it began, which the code does
not. -/
inductive ShellStage where
  | idle
  | storing (pid : Int)
  | awaiting (elapsed : Nat)
  | stopping (stage : StopStage) (current : Option Nat)
  deriving DecidableEq

namespace ShellStage

/-- The shell is inside `start_command_base` and holds the mutex. -/
def isStarting : ShellStage → Bool
  | .storing _ | .awaiting _ => true
  | _ => false

/-- A task was created and its id is not stored yet. -/
def isStoring : ShellStage → Bool
  | .storing _ => true
  | _ => false

/-- The stage of a shell inside `stop_command`. -/
def stopStage : ShellStage → Option StopStage
  | .stopping stage _ => some stage
  | _ => none

/-- The task that was current when the stop began. -/
def begun : ShellStage → Option Nat
  | .stopping _ current => current
  | _ => none

/-- The milliseconds that the shell has slept in its loop. -/
def elapsed : ShellStage → Nat
  | .awaiting elapsed | .stopping (.waiting elapsed) _ | .stopping (.poking elapsed) _ => elapsed
  | _ => 0

def moveStop (stage : StopStage) : ShellStage → ShellStage
  | .stopping _ current => .stopping stage current
  | other => other

end ShellStage

/-- What happens to the tasks and objects of a module. An object is used by `print_status`, by a custom
command and by `request_stop`. -/
inductive LifeEvent (Shell : Type) where
  | spawned (k : Nat)
  | stored (k : Nat)
  | published (k : Nat)
  | used (k : Nat)
  | cleaned (k : Nat) (object : Option Nat)
  | killed (shell : Shell) (current task object : Option Nat)
  deriving DecidableEq

/-- The static members of `ModuleBase<T>`, the live tasks and the shells. -/
structure ModuleState (Shell : Type) where
  object : Option Nat := none
  taskId : Int := -1
  stopInProgress : Bool := false
  tasks : List ModuleTask := []
  shells : Shell → ShellStage := fun _ => .idle
  /-- The shell that keeps the mutex from one step to the next. -/
  locked : Option Shell := none
  spawns : Nat := 0
  log : List (LifeEvent Shell) := []

/-- The steps of the shells and of the tasks. `pid` is what `Task::spawn` returns, `ok` whether
`instantiate` gives an object. `await` is one round of `wait_until_running`, `poll` and `poke` are the
condition and the body of the loop of a stop. -/
inductive LifeAction (Shell : Type) where
  | start (shell : Shell) (pid : Int)
  | storeId (shell : Shell)
  | await (shell : Shell)
  | status (shell : Shell)
  | custom (shell : Shell)
  | stop (shell : Shell)
  | poll (shell : Shell)
  | poke (shell : Shell)
  | check (shell : Shell)
  | clear (shell : Shell)
  | kill (shell : Shell)
  | finishStop (shell : Shell)
  | publish (k : Nat) (ok : Bool)
  | runReturns (k : Nat)
  | cleanup (k : Nat)

/-! ## The steps -/

namespace ModuleState

variable {Shell : Type} [DecidableEq Shell]

/-- `ModuleBase::is_running`. -/
def isRunning (s : ModuleState Shell) : Bool := s.taskId != -1

/-- The task whose id is stored. -/
def current (s : ModuleState Shell) : Option Nat :=
  (s.tasks.find? (·.pid == s.taskId)).map (·.spawn)

/-- A task with this number stands at a stage. -/
def TaskAt (s : ModuleState Shell) (k : Nat) (stage : TaskStage) : Prop :=
  ∃ t ∈ s.tasks, t.spawn = k ∧ t.stage = stage

instance (s : ModuleState Shell) (k : Nat) (stage : TaskStage) : Decidable (s.TaskAt k stage) :=
  inferInstanceAs (Decidable (∃ t ∈ s.tasks, t.spawn = k ∧ t.stage = stage))

def moveShell (shell : Shell) (stage : ShellStage) (s : ModuleState Shell) : ModuleState Shell :=
  { s with shells := Function.update s.shells shell stage }

def moveTask (k : Nat) (stage : TaskStage) (s : ModuleState Shell) : ModuleState Shell :=
  { s with tasks := s.tasks.map fun t => if t.spawn = k then { t with stage } else t }

def record (e : LifeEvent Shell) (s : ModuleState Shell) : ModuleState Shell :=
  { s with log := e :: s.log }

/-- A call of a method of the published object, if there is one. -/
def useObject (s : ModuleState Shell) : ModuleState Shell :=
  match s.object with
  | some k => s.record (.used k)
  | none => s

/-- The steps that the mutex and the position of each shell and task permit. The system gives a new task
an id that no live task has. -/
def Enabled (s : ModuleState Shell) : LifeAction Shell → Prop
  | .start shell pid => s.locked = none ∧ s.shells shell = .idle ∧ ∀ t ∈ s.tasks, t.pid ≠ pid
  | .storeId shell => (s.shells shell).isStoring = true
  | .await shell => s.shells shell = .awaiting (s.shells shell).elapsed
  | .status shell | .custom shell | .stop shell => s.locked = none ∧ s.shells shell = .idle
  | .poll shell => (s.shells shell).stopStage = some (.waiting (s.shells shell).elapsed)
  | .poke shell =>
      s.locked = none ∧ (s.shells shell).stopStage = some (.poking (s.shells shell).elapsed)
  | .check shell => (s.shells shell).stopStage = some .checking
  | .clear shell => s.locked = none ∧ (s.shells shell).stopStage = some .clearing
  | .kill shell => s.locked = none ∧ (s.shells shell).stopStage = some .killing
  | .finishStop shell => s.locked = none ∧ (s.shells shell).stopStage = some .ending
  | .publish k _ => s.TaskAt k .instantiating
  | .runReturns k => s.TaskAt k .running
  | .cleanup k => s.locked = none ∧ s.TaskAt k .leaving

instance (s : ModuleState Shell) : (a : LifeAction Shell) → Decidable (s.Enabled a)
  | .start shell pid => inferInstanceAs (Decidable
      (s.locked = none ∧ s.shells shell = .idle ∧ ∀ t ∈ s.tasks, t.pid ≠ pid))
  | .storeId shell => inferInstanceAs (Decidable ((s.shells shell).isStoring = true))
  | .await shell =>
      inferInstanceAs (Decidable (s.shells shell = .awaiting (s.shells shell).elapsed))
  | .status shell | .custom shell | .stop shell =>
      inferInstanceAs (Decidable (s.locked = none ∧ s.shells shell = .idle))
  | .poll shell => inferInstanceAs
      (Decidable ((s.shells shell).stopStage = some (.waiting (s.shells shell).elapsed)))
  | .poke shell => inferInstanceAs (Decidable
      (s.locked = none ∧ (s.shells shell).stopStage = some (.poking (s.shells shell).elapsed)))
  | .check shell => inferInstanceAs (Decidable ((s.shells shell).stopStage = some .checking))
  | .clear shell =>
      inferInstanceAs (Decidable (s.locked = none ∧ (s.shells shell).stopStage = some .clearing))
  | .kill shell =>
      inferInstanceAs (Decidable (s.locked = none ∧ (s.shells shell).stopStage = some .killing))
  | .finishStop shell =>
      inferInstanceAs (Decidable (s.locked = none ∧ (s.shells shell).stopStage = some .ending))
  | .publish k _ => inferInstanceAs (Decidable (s.TaskAt k .instantiating))
  | .runReturns k => inferInstanceAs (Decidable (s.TaskAt k .running))
  | .cleanup k => inferInstanceAs (Decidable (s.locked = none ∧ s.TaskAt k .leaving))

/-- The effect of a step. -/
def next (s : ModuleState Shell) : LifeAction Shell → ModuleState Shell
  | .start shell pid =>
      if s.isRunning || s.stopInProgress then s
      else if pid < 0 then { s with taskId := -1 }
      else
        record (.spawned s.spawns) <| moveShell shell (.storing pid)
          { s with
            tasks := s.tasks ++ [{ spawn := s.spawns, pid }]
            spawns := s.spawns + 1
            locked := some shell }
  | .storeId shell =>
      match s.shells shell with
      | .storing pid =>
          record (.stored (s.spawns - 1)) <| moveShell shell (.awaiting 0) { s with taskId := pid }
      | _ => s
  | .await shell =>
      if s.object = none ∧ s.isRunning = true ∧ (s.shells shell).elapsed < 1000 then
        s.moveShell shell (.awaiting ((s.shells shell).elapsed + 2))
      else moveShell shell .idle { s with locked := none }
  | .status _ => if s.isRunning then s.useObject else s
  | .custom _ => s.useObject
  | .stop shell =>
      if s.stopInProgress || !s.isRunning then s
      else
        moveShell shell (.stopping (.waiting 0) s.current) { s.useObject with stopInProgress := true }
  | .poll shell =>
      s.moveShell shell ((s.shells shell).moveStop
        (if s.isRunning = true ∧ (s.shells shell).elapsed < 5000 then
          .poking (s.shells shell).elapsed else .checking))
  | .poke shell =>
      s.useObject.moveShell shell
        ((s.shells shell).moveStop (.waiting ((s.shells shell).elapsed + 10)))
  | .check shell =>
      s.moveShell shell ((s.shells shell).moveStop (if s.isRunning then .clearing else .ending))
  | .clear shell =>
      moveShell shell ((s.shells shell).moveStop .killing) { s with stopInProgress := false }
  | .kill shell =>
      record (.killed shell (s.shells shell).begun s.current s.object) <| moveShell shell .idle
        { s with
          tasks := s.tasks.filter (·.pid != s.taskId)
          object := none
          taskId := -1
          stopInProgress := false }
  | .finishStop shell => moveShell shell .idle { s with stopInProgress := false }
  | .publish k ok =>
      if ok then record (.published k) (moveTask k .running { s with object := some k })
      else moveTask k .leaving { s with object := none }
  | .runReturns k => s.moveTask k .leaving
  | .cleanup k =>
      record (.cleaned k s.object)
        { s with
          tasks := s.tasks.filter (·.spawn != k)
          object := none
          taskId := -1 }

/-- All runs of the shells and the tasks, before the first start. -/
def system (Shell : Type) [DecidableEq Shell] : Transition (ModuleState Shell) (LifeAction Shell) :=
  (Transition.ofFun (· = {}) next).restrict Enabled

/-! ## At most one task -/

/-- The object that a task at this stage has published, if any. -/
def Owns (t : ModuleTask) (object : Option Nat) : Prop :=
  match t.stage with
  | .instantiating => object = none
  | .running => object = some t.spawn
  | .leaving => object = none ∨ object = some t.spawn

/-- There is no task, or one, which owns the object and whose id is stored once its start has stored it. -/
inductive Occupied (s : ModuleState Shell) : Prop
  | free : s.tasks = [] → s.object = none → s.taskId = -1 → s.locked = none → Occupied s
  | live (t : ModuleTask) : s.tasks = [t] → 0 ≤ t.pid → t.spawn + 1 = s.spawns → Owns t s.object →
      (s.taskId = -1 ∧ (∃ shell, s.shells shell = .storing t.pid) ∨
        s.taskId = t.pid ∧ ∀ shell, (s.shells shell).isStoring = false) → Occupied s

/-- The mutex is kept by the shell inside `start_command_base`, there is at most one task, and the flag is
only set while some shell is inside `stop_command`. -/
structure Sound (s : ModuleState Shell) : Prop where
  locked : ∀ shell, (s.shells shell).isStarting = true ↔ s.locked = some shell
  occupied : s.Occupied
  flag : s.stopInProgress = true → ∃ shell, (s.shells shell).stopStage ≠ none

section Sound

omit [DecidableEq Shell] in
theorem sound_start : Sound ({} : ModuleState Shell) where
  locked _ := ⟨nofun, nofun⟩
  occupied := .free rfl rfl rfl rfl
  flag := nofun

omit [DecidableEq Shell] in
theorem isStarting_of_isStoring {stage : ShellStage} (h : stage.isStoring = true) :
    stage.isStarting = true := by
  cases stage <;> first | rfl | cases h

omit [DecidableEq Shell] in
theorem not_isStarting_of_stopStage {stage : ShellStage} {at_ : StopStage}
    (h : stage.stopStage = some at_) : stage.isStarting = false := by
  cases stage <;> first | rfl | cases h

omit [DecidableEq Shell] in
/-- The log does not matter to the rest of the state. -/
theorem Sound.useObject {s : ModuleState Shell} (h : s.Sound) : s.useObject.Sound := by
  unfold ModuleState.useObject
  split
  · obtain ⟨locked, occupied, flag⟩ := h
    refine ⟨locked, ?_, flag⟩
    cases occupied with
    | free htasks hobject htaskId hlocked => exact .free htasks hobject htaskId hlocked
    | live t htasks hpid hspawn howns hid => exact .live t htasks hpid hspawn howns hid
  · exact h

/-- A shell outside `start_command_base` moves on outside it, and the flag may change with it. -/
theorem Sound.moveShell {s t : ModuleState Shell} (h : s.Sound) (shell : Shell) (stage : ShellStage)
    (hold : (s.shells shell).isStarting = false) (hnew : stage.isStarting = false)
    (hshells : t.shells = Function.update s.shells shell stage)
    (hcore : t.tasks = s.tasks ∧ t.object = s.object ∧ t.taskId = s.taskId ∧ t.locked = s.locked ∧
      t.spawns = s.spawns)
    (hflag : t.stopInProgress = true →
      stage.stopStage ≠ none ∨ s.stopInProgress = true ∧ (s.shells shell).stopStage = none) :
    t.Sound := by
  obtain ⟨htasks, hobject, htaskId, hlocked, hspawns⟩ := hcore
  obtain ⟨locked, occupied, flag⟩ := h
  have hsame : ∀ other, other ≠ shell → t.shells other = s.shells other := by
    intro other hne
    rw [hshells, Function.update_of_ne hne]
  refine ⟨?_, ?_, ?_⟩
  · rw [hshells, hlocked]
    apply (Function.forall_update_iff s.shells fun other st =>
      st.isStarting = true ↔ s.locked = some other).mpr
    refine ⟨?_, fun other _ => locked other⟩
    rw [hnew, ← locked, hold]
  · cases occupied with
    | free htasks' hobject' htaskId' hlocked' =>
        exact .free (htasks.trans htasks') (hobject.trans hobject') (htaskId.trans htaskId')
          (hlocked.trans hlocked')
    | live u htasks' hpid hspawn howns hid =>
        refine .live u (htasks.trans htasks') hpid (hspawn.trans hspawns.symm) (hobject ▸ howns) ?_
        rw [htaskId]
        rcases hid with ⟨hnone, starter, hstarter⟩ | ⟨hstored, hothers⟩
        · refine Or.inl ⟨hnone, starter, ?_⟩
          rw [hsame starter, hstarter]
          rintro rfl
          rw [hstarter] at hold
          cases hold
        · refine Or.inr ⟨hstored, ?_⟩
          rw [hshells]
          apply (Function.forall_update_iff s.shells fun _ st => st.isStoring = false).mpr
          refine ⟨?_, fun other _ => hothers other⟩
          cases hstoring : stage.isStoring with
          | false => rfl
          | true =>
              rw [isStarting_of_isStoring hstoring] at hnew
              cases hnew
  · intro hset
    rcases hflag hset with hnow | ⟨hbefore, hidle⟩
    · refine ⟨shell, ?_⟩
      rw [hshells, Function.update_self]
      exact hnow
    · obtain ⟨other, hother⟩ := flag hbefore
      refine ⟨other, ?_⟩
      rw [hsame other]
      · exact hother
      · rintro rfl
        exact hother hidle

omit [DecidableEq Shell] in
/-- A task at a stage is the only one. -/
theorem Sound.taskAt {s : ModuleState Shell} (h : s.Sound) {k : Nat} {stage : TaskStage}
    (hat : s.TaskAt k stage) : ∃ t, s.tasks = [t] ∧ t.spawn = k ∧ t.stage = stage ∧ 0 ≤ t.pid ∧
      t.spawn + 1 = s.spawns ∧ Owns t s.object ∧
      (s.taskId = -1 ∧ (∃ shell, s.shells shell = .storing t.pid) ∨
        s.taskId = t.pid ∧ ∀ shell, (s.shells shell).isStoring = false) := by
  obtain ⟨t, ht, hk, hstage⟩ := hat
  cases h.occupied with
  | free htasks =>
      rw [htasks] at ht
      cases ht
  | live u htasks hpid hspawn howns hid =>
      rw [htasks, List.mem_singleton] at ht
      subst ht
      exact ⟨t, htasks, hk, hstage, hpid, hspawn, howns, hid⟩

omit [DecidableEq Shell] in
/-- The only task moves to another stage. -/
theorem Sound.moveTask {s t : ModuleState Shell} (h : s.Sound) {u : ModuleTask} (stage : TaskStage)
    (hu : s.tasks = [u]) (htasks : t.tasks = [{ u with stage }]) (howns : Owns { u with stage } t.object)
    (hcore : t.shells = s.shells ∧ t.taskId = s.taskId ∧ t.locked = s.locked ∧ t.spawns = s.spawns ∧
      t.stopInProgress = s.stopInProgress) : t.Sound := by
  obtain ⟨hshells, htaskId, hlocked, hspawns, hflag⟩ := hcore
  obtain ⟨locked, occupied, flag⟩ := h
  refine ⟨?_, ?_, ?_⟩
  · rw [hshells, hlocked]
    exact locked
  · cases occupied with
    | free hfree =>
        rw [hu] at hfree
        cases hfree
    | live u' hu' hpid hspawn _ hid =>
        obtain rfl := List.singleton_injective (hu.symm.trans hu')
        refine .live _ htasks hpid (hspawn.trans hspawns.symm) howns ?_
        rw [hshells, htaskId]
        exact hid
  · rw [hshells, hflag]
    exact flag

omit [DecidableEq Shell] in
/-- Without a mutex held, no shell is inside `start_command_base`. -/
theorem Sound.isStarting_false {s : ModuleState Shell} (h : s.Sound) (hfree : s.locked = none)
    (shell : Shell) : (s.shells shell).isStarting = false := by
  cases hstarting : (s.shells shell).isStarting with
  | false => rfl
  | true =>
      rw [h.locked, hfree] at hstarting
      cases hstarting

omit [DecidableEq Shell] in
theorem Sound.isStoring_false {s : ModuleState Shell} (h : s.Sound) (hfree : s.locked = none)
    (shell : Shell) : (s.shells shell).isStoring = false := by
  cases hstoring : (s.shells shell).isStoring with
  | false => rfl
  | true =>
      have hstarting := h.isStarting_false hfree shell
      rw [isStarting_of_isStoring hstoring] at hstarting
      cases hstarting

omit [DecidableEq Shell] in
/-- With the mutex free, the module is running exactly when it has a task. -/
theorem Sound.isRunning_iff {s : ModuleState Shell} (h : s.Sound) (hfree : s.locked = none) :
    s.isRunning = true ↔ ∃ t, s.tasks = [t] ∧ s.taskId = t.pid ∧ s.current = some t.spawn := by
  unfold isRunning
  rw [bne_iff_ne]
  cases h.occupied with
  | free htasks _ htaskId =>
      rw [htaskId, htasks]
      simp
  | live t htasks hpid _ _ hid =>
      rcases hid with ⟨-, starter, hstarter⟩ | ⟨hstored, -⟩
      · have hstoring := h.isStoring_false hfree starter
        rw [hstarter] at hstoring
        cases hstoring
      · refine ⟨fun _ => ⟨t, htasks, hstored, ?_⟩, fun _ => ?_⟩
        · simp [current, htasks, hstored]
        · omega

omit [DecidableEq Shell] in
theorem Sound.not_running {s : ModuleState Shell} (h : s.Sound) (hfree : s.locked = none)
    (hrunning : s.isRunning = false) : s.tasks = [] ∧ s.object = none ∧ s.taskId = -1 := by
  have htaskId : s.taskId = -1 := by simpa [isRunning] using hrunning
  cases h.occupied with
  | free htasks hobject _ _ => exact ⟨htasks, hobject, htaskId⟩
  | live t htasks hpid _ _ hid =>
      rcases hid with ⟨-, starter, hstarter⟩ | ⟨hstored, -⟩
      · have hstoring := h.isStoring_false hfree starter
        rw [hstarter] at hstoring
        cases hstoring
      · omega

theorem start_sound {s : ModuleState Shell} (h : s.Sound) {shell : Shell} {pid : Int}
    (ha : s.Enabled (.start shell pid)) : (s.next (.start shell pid)).Sound := by
  obtain ⟨hfree, hidle, -⟩ := ha
  simp only [next]
  split
  · exact h
  · rename_i hopen
    simp only [Bool.or_eq_true, not_or, Bool.not_eq_true] at hopen
    obtain ⟨htasks, hobject, htaskId⟩ := h.not_running hfree hopen.1
    split
    · refine ⟨h.locked, .free htasks hobject rfl hfree, h.flag⟩
    · rename_i hpid
      refine ⟨?_, .live { spawn := s.spawns, pid } ?_ ?_ rfl hobject (Or.inl ⟨htaskId, shell, ?_⟩), ?_⟩
      · apply (Function.forall_update_iff s.shells fun other st =>
          st.isStarting = true ↔ some shell = some other).mpr
        refine ⟨⟨fun _ => rfl, fun _ => rfl⟩, fun other hne => ?_⟩
        rw [h.isStarting_false hfree other]
        exact ⟨nofun, fun heq => absurd (Option.some.inj heq).symm hne⟩
      · show s.tasks ++ [{ spawn := s.spawns, pid }] = [{ spawn := s.spawns, pid }]
        rw [htasks, List.nil_append]
      · show 0 ≤ pid
        omega
      · exact Function.update_self ..
      · intro hset
        rw [show s.stopInProgress = true from hset] at hopen
        cases hopen.2

omit [DecidableEq Shell] in
/-- Only the shell with the mutex may have an id to store. -/
theorem Sound.eq_starter {s : ModuleState Shell} (h : s.Sound) {shell starter : Shell} {pid : Int}
    (hlocked : s.locked = some shell) (hstarter : s.shells starter = .storing pid) :
    starter = shell := by
  have hstarts := (h.locked starter).mp (by rw [hstarter]; rfl)
  exact Option.some.inj (hstarts.symm.trans hlocked)

/-- The shell with the mutex goes on inside `start_command_base`. -/
theorem Sound.locked_update {s : ModuleState Shell} (h : s.Sound) {shell : Shell} {stage : ShellStage}
    (hlocked : s.locked = some shell) (hnew : stage.isStarting = true) :
    ∀ other, (Function.update s.shells shell stage other).isStarting = true ↔ s.locked = some other := by
  apply (Function.forall_update_iff s.shells fun other st =>
    st.isStarting = true ↔ s.locked = some other).mpr
  exact ⟨⟨fun _ => hlocked, fun _ => hnew⟩, fun other _ => h.locked other⟩

omit [DecidableEq Shell] in
/-- While a shell has the mutex, no other one is inside `start_command_base`. -/
theorem Sound.others_not_starting {s : ModuleState Shell} (h : s.Sound) {shell other : Shell}
    (hlocked : s.locked = some shell) (hne : other ≠ shell) : (s.shells other).isStarting = false := by
  cases hstarting : (s.shells other).isStarting with
  | false => rfl
  | true =>
      rw [h.locked, hlocked] at hstarting
      exact absurd (Option.some.inj hstarting).symm hne

/-- When it has stored the id, no shell has an id to store. -/
theorem Sound.storing_update {s : ModuleState Shell} (h : s.Sound) {shell : Shell} {stage : ShellStage}
    (hlocked : s.locked = some shell) (hnew : stage.isStoring = false) :
    ∀ other, (Function.update s.shells shell stage other).isStoring = false := by
  apply (Function.forall_update_iff s.shells fun _ st => st.isStoring = false).mpr
  refine ⟨hnew, fun other hne => ?_⟩
  cases hstoring : (s.shells other).isStoring with
  | false => rfl
  | true =>
      have hno := h.others_not_starting hlocked hne
      rw [isStarting_of_isStoring hstoring] at hno
      cases hno

/-- A shell that is not stopping moves: somebody else keeps the flag set. -/
theorem Sound.flag_update {s : ModuleState Shell} (h : s.Sound) {shell : Shell}
    (hidle : (s.shells shell).stopStage = none) (stage : ShellStage) (hset : s.stopInProgress = true) :
    ∃ other, (Function.update s.shells shell stage other).stopStage ≠ none := by
  obtain ⟨other, hother⟩ := h.flag hset
  refine ⟨other, ?_⟩
  rw [Function.update_of_ne]
  · exact hother
  · rintro rfl
    exact hother hidle

theorem storeId_sound {s : ModuleState Shell} (h : s.Sound) {shell : Shell}
    (ha : s.Enabled (.storeId shell)) : (s.next (.storeId shell)).Sound := by
  cases hstage : s.shells shell with
  | storing pid =>
      simp only [next, hstage]
      have hlocked : s.locked = some shell := (h.locked shell).mp (by rw [hstage]; rfl)
      cases h.occupied with
      | free _ _ _ hfree =>
          rw [hfree] at hlocked
          cases hlocked
      | live t htasks hpid hspawn howns hid =>
          -- the shell that stores the id is the one that created the task
          have hidle : s.taskId = -1 ∧ t.pid = pid := by
            rcases hid with ⟨hnone, starter, hstarter⟩ | ⟨-, hothers⟩
            · obtain rfl := h.eq_starter hlocked hstarter
              rw [hstage] at hstarter
              cases hstarter
              exact ⟨hnone, rfl⟩
            · have hno := hothers shell
              rw [hstage] at hno
              cases hno
          exact ⟨h.locked_update hlocked rfl,
            .live t htasks hpid hspawn howns (Or.inr ⟨hidle.2.symm, h.storing_update hlocked rfl⟩),
            h.flag_update (by rw [hstage]; rfl) (.awaiting 0)⟩
  | _ =>
      have hno : (s.shells shell).isStoring = true := ha
      rw [hstage] at hno
      cases hno

/-- The shell that waits for the new task keeps the mutex, or releases it. -/
theorem await_sound {s : ModuleState Shell} (h : s.Sound) {shell : Shell}
    (ha : s.Enabled (.await shell)) : (s.next (.await shell)).Sound := by
  have hstage : s.shells shell = .awaiting (s.shells shell).elapsed := ha
  have hlocked : s.locked = some shell := (h.locked shell).mp (by rw [hstage]; rfl)
  -- only the shell that waits could still be storing, so the id is that of the task
  have hstored : ∀ t, s.tasks = [t] → s.taskId = t.pid := by
    intro t ht
    cases h.occupied with
    | free htasks =>
        rw [ht] at htasks
        cases htasks
    | live u hu _ _ _ hid =>
        obtain rfl := List.singleton_injective (ht.symm.trans hu)
        rcases hid with ⟨-, starter, hstarter⟩ | ⟨hid, -⟩
        · obtain rfl := h.eq_starter hlocked hstarter
          rw [hstage] at hstarter
          cases hstarter
        · exact hid
  have hidle : (s.shells shell).stopStage = none := by
    rw [hstage]
    rfl
  simp only [next]
  split
  · refine ⟨h.locked_update hlocked rfl, ?_, h.flag_update hidle _⟩
    cases h.occupied with
    | free htasks hobject htaskId hfree => exact .free htasks hobject htaskId hfree
    | live t htasks hpid hspawn howns hid =>
        exact .live t htasks hpid hspawn howns
          (Or.inr ⟨hstored t htasks, h.storing_update hlocked rfl⟩)
  · refine ⟨?_, ?_, h.flag_update hidle _⟩
    · apply (Function.forall_update_iff s.shells fun other st =>
        st.isStarting = true ↔ none = some other).mpr
      refine ⟨⟨nofun, nofun⟩, fun other hne => ?_⟩
      rw [h.others_not_starting hlocked hne]
      exact ⟨nofun, nofun⟩
    · cases h.occupied with
      | free htasks hobject htaskId _ => exact .free htasks hobject htaskId rfl
      | live t htasks hpid hspawn howns hid =>
          exact .live t htasks hpid hspawn howns
            (Or.inr ⟨hstored t htasks, h.storing_update hlocked rfl⟩)

omit [DecidableEq Shell] in
/-- With no task, no object, no id and the mutex free. -/
theorem sound_of_empty {t : ModuleState Shell} (hlocked : t.locked = none) (htasks : t.tasks = [])
    (hobject : t.object = none) (htaskId : t.taskId = -1)
    (hstarting : ∀ shell, (t.shells shell).isStarting = false)
    (hflag : t.stopInProgress = true → ∃ shell, (t.shells shell).stopStage ≠ none) : t.Sound := by
  refine ⟨?_, .free htasks hobject htaskId hlocked, hflag⟩
  intro shell
  rw [hstarting shell, hlocked]
  exact ⟨nofun, nofun⟩

theorem kill_sound {s : ModuleState Shell} (h : s.Sound) {shell : Shell}
    (ha : s.Enabled (.kill shell)) : (s.next (.kill shell)).Sound := by
  obtain ⟨hfree, -⟩ := ha
  refine sound_of_empty hfree ?_ rfl rfl ?_ nofun
  · show s.tasks.filter (·.pid != s.taskId) = []
    cases hrunning : s.isRunning with
    | true =>
        obtain ⟨t, htasks, hid, -⟩ := (h.isRunning_iff hfree).mp hrunning
        simp [htasks, hid]
    | false => rw [(h.not_running hfree hrunning).1, List.filter_nil]
  · apply (Function.forall_update_iff s.shells fun _ st => st.isStarting = false).mpr
    exact ⟨rfl, fun other _ => h.isStarting_false hfree other⟩

omit [DecidableEq Shell] in
@[simp] theorem useObject_frame (s : ModuleState Shell) :
    s.useObject.tasks = s.tasks ∧ s.useObject.object = s.object ∧ s.useObject.taskId = s.taskId ∧
      s.useObject.locked = s.locked ∧ s.useObject.spawns = s.spawns ∧
      s.useObject.shells = s.shells ∧ s.useObject.stopInProgress = s.stopInProgress := by
  unfold useObject
  split <;> exact ⟨rfl, rfl, rfl, rfl, rfl, rfl, rfl⟩

omit [DecidableEq Shell] in
theorem moveStop_facts {stage : ShellStage} {at_ : StopStage} (h : stage.stopStage = some at_)
    (later : StopStage) :
    (stage.moveStop later).isStarting = false ∧ (stage.moveStop later).stopStage ≠ none := by
  cases stage with
  | stopping at' current => exact ⟨rfl, nofun⟩
  | _ => cases h

theorem next_sound {s : ModuleState Shell} (h : s.Sound) (a : LifeAction Shell) (ha : s.Enabled a) :
    (s.next a).Sound := by
  cases a with
  | start shell pid => exact start_sound h ha
  | storeId shell => exact storeId_sound h ha
  | await shell => exact await_sound h ha
  | status shell =>
      simp only [next]
      split
      · exact h.useObject
      · exact h
  | custom shell => exact h.useObject
  | stop shell =>
      simp only [next]
      split
      · exact h
      · obtain ⟨htasks, hobject, htaskId, hlocked, hspawns, hshells, -⟩ := useObject_frame s
        refine h.moveShell shell (.stopping (.waiting 0) s.current) ?_ rfl ?_
          ⟨htasks, hobject, htaskId, hlocked, hspawns⟩ (fun _ => Or.inl nofun)
        · rw [ha.2]
          rfl
        · show Function.update s.useObject.shells _ _ = _
          rw [hshells]
  | poll shell =>
      obtain ⟨hstarting, hstop⟩ := moveStop_facts ha
        (if s.isRunning = true ∧ (s.shells shell).elapsed < 5000 then
          .poking (s.shells shell).elapsed else .checking)
      exact h.moveShell shell _ (not_isStarting_of_stopStage ha) hstarting rfl ⟨rfl, rfl, rfl, rfl, rfl⟩
        fun _ => Or.inl hstop
  | poke shell =>
      obtain ⟨htasks, hobject, htaskId, hlocked, hspawns, hshells, -⟩ := useObject_frame s
      obtain ⟨hstarting, hstop⟩ := moveStop_facts ha.2
        (.waiting ((s.shells shell).elapsed + 10))
      refine h.moveShell shell _ (not_isStarting_of_stopStage ha.2) hstarting ?_
        ⟨htasks, hobject, htaskId, hlocked, hspawns⟩ fun _ => Or.inl hstop
      show Function.update s.useObject.shells _ _ = _
      rw [hshells]
  | check shell =>
      obtain ⟨hstarting, hstop⟩ := moveStop_facts ha (if s.isRunning then .clearing else .ending)
      exact h.moveShell shell _ (not_isStarting_of_stopStage ha) hstarting rfl ⟨rfl, rfl, rfl, rfl, rfl⟩
        fun _ => Or.inl hstop
  | clear shell =>
      obtain ⟨hstarting, -⟩ := moveStop_facts ha.2 .killing
      exact h.moveShell shell _ (not_isStarting_of_stopStage ha.2) hstarting rfl ⟨rfl, rfl, rfl, rfl, rfl⟩ nofun
  | kill shell => exact kill_sound h ha
  | finishStop shell =>
      exact h.moveShell shell _ (not_isStarting_of_stopStage ha.2) rfl rfl ⟨rfl, rfl, rfl, rfl, rfl⟩ nofun
  | publish k ok =>
      obtain ⟨t, htasks, rfl, hstage, -⟩ := h.taskAt ha
      simp only [next]
      split
      · refine h.moveTask .running htasks ?_ rfl ⟨rfl, rfl, rfl, rfl, rfl⟩
        simp [record, ModuleState.moveTask, htasks]
      · refine h.moveTask .leaving htasks ?_ (Or.inl rfl) ⟨rfl, rfl, rfl, rfl, rfl⟩
        simp [ModuleState.moveTask, htasks]
  | runReturns k =>
      obtain ⟨t, htasks, rfl, hstage, -, -, howns, -⟩ := h.taskAt ha
      unfold Owns at howns
      rw [hstage] at howns
      refine h.moveTask .leaving htasks ?_ (Or.inr howns) ⟨rfl, rfl, rfl, rfl, rfl⟩
      simp [next, ModuleState.moveTask, htasks]
  | cleanup k =>
      obtain ⟨hfree, hat⟩ := ha
      obtain ⟨t, htasks, rfl, -⟩ := h.taskAt hat
      refine sound_of_empty hfree ?_ rfl rfl (h.isStarting_false hfree) h.flag
      simp [next, record, htasks]

theorem sound {s : ModuleState Shell} (h : (system Shell).Reachable s) : s.Sound := by
  refine h.invariant Sound ?_ ?_
  · rintro s rfl
    exact sound_start
  · rintro s a t - hs ⟨ha, rfl⟩
    exact next_sound hs a ha

end Sound

end ModuleState

end DualMagneticWheel
