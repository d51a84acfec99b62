/-
# DualMagneticWheel.Params.Persistence — is a clean manager a saved one

Any number of tasks call `set`, `reset`, `resetAll`, `save`, `load` and `pollAutoSave`. A step is one
critical section or one call into the storage, so that a save or a load can be overtaken between any two
of its steps. `Persisted` is what a clean manager is meant to witness: after a reboot every parameter has
the value it has now.

Two saves that overlap write their snapshots in any order, both under the same sequence number, and the
page that is loaded afterwards need not be the one that cleared the mark (`saved_value_lost`). If a
snapshot reaches the storage before anything else does, `persisted` holds in every state.
-/
import DualMagneticWheel.Params.Definitions
import DualMagneticWheel.Params.FlashSafety

namespace DualMagneticWheel

open Foundation

/-! ## Tasks -/

/-- Where a task is. `epoch` and `changes` are the counters of `ParamRun` at the time of a snapshot. -/
inductive ParamTask where
  | idle
  /-- `reset` knows the default and has not written it. -/
  | resetting (handle : UInt16) (type : ParamType) (rawValue : UInt32)
  /-- `pollAutoSave` is about to call `save`. -/
  | due
  /-- `save` has taken its snapshot. -/
  | captured (snapshot : ParamStorageSnapshot) (generation : UInt32) (epoch changes : Nat)
  /-- The storage has saved the snapshot. -/
  | stored (snapshot : ParamStorageSnapshot) (generation : UInt32) (changes : Nat)
  /-- `load` has found a storage. -/
  | loading
  /-- The storage has returned a snapshot. -/
  | loaded (snapshot : ParamStorageSnapshot)

namespace ParamTask

/-- Between the first and the last critical section of a save or a load. -/
def InProgress : ParamTask → Prop
  | captured _ _ _ _ | stored _ _ _ | loading | loaded _ => True
  | _ => False

instance : (state : ParamTask) → Decidable state.InProgress
  | captured _ _ _ _ | stored _ _ _ | loading | loaded _ => .isTrue trivial
  | idle | resetting _ _ _ | due => .isFalse id

def IsStored : ParamTask → Prop
  | stored _ _ _ => True
  | _ => False

def IsLoaded : ParamTask → Prop
  | loaded _ => True
  | _ => False

instance (state : ParamTask) : Decidable state.IsLoaded := by
  cases state <;> first | exact .isTrue trivial | exact .isFalse id

/-- The task holds a snapshot. -/
def Holds : ParamTask → Prop
  | captured _ _ _ _ | stored _ _ _ | loaded _ => True
  | _ => False

theorem holds_of_loaded {state : ParamTask} (h : state.IsLoaded) : state.Holds := by
  cases state <;> trivial

theorem holds_of_stored {state : ParamTask} (h : state.IsStored) : state.Holds := by
  cases state <;> trivial

end ParamTask

/-- The manager, its storage, and the tasks. `epoch` counts the calls that write the storage and the
loads that were applied, `changes` the increments of the generation. -/
structure ParamRun where
  manager : ParamManager
  flash : FlashRun
  tasks : Nat → ParamTask := fun _ => .idle
  epoch : Nat := 0
  changes : Nat

/-- One critical section or one storage call of a task. -/
inductive ParamEvent where
  | setInt (task : Nat) (handle : UInt16) (value : Int32) (now : UInt64)
  | setFloat (task : Nat) (handle : UInt16) (value : Float32) (now : UInt64)
  | resetBegin (task : Nat) (handle : UInt16)
  | resetEnd (task : Nat) (now : UInt64)
  | resetAll (task : Nat) (now : UInt64)
  | poll (task : Nat) (now : UInt64)
  | saveBegin (task : Nat)
  | saveStore (task : Nat) (outcome : SaveOutcome)
  | saveEnd (task : Nat)
  | loadBegin (task : Nat)
  | loadRead (task : Nat)
  | loadEnd (task : Nat)

/-- The task of an event. -/
def ParamEvent.task : ParamEvent → Nat
  | setInt task _ _ _ | setFloat task _ _ _ | resetBegin task _ | resetEnd task _ | resetAll task _
  | poll task _ | saveBegin task | saveStore task _ | saveEnd task | loadBegin task | loadRead task
  | loadEnd task => task

namespace ParamRun

/-- The task goes on. -/
def goto (s : ParamRun) (task : Nat) (state : ParamTask) : ParamRun :=
  { s with tasks := Function.update s.tasks task state }

/-- A changed value, if the generation moved. -/
def withManager (s : ParamRun) (result : ParamManager × Option UInt32) : ParamRun :=
  { s with
    manager := result.1
    changes := if result.2.isSome then s.changes + 1 else s.changes }

/-- Whether `save` of the storage returns true. -/
def saveReturns (s : ParamRun) (snapshot : ParamStorageSnapshot) (outcome : SaveOutcome) : Bool :=
  match s.flash.storage with
  | some storage => (storage.save s.flash.flash snapshot outcome).2.2 = .returned true
  | none => false

/-- One event of a task; an event that does not fit the task's state does nothing. -/
def next (s : ParamRun) : ParamEvent → ParamRun
  | .setInt _ handle value now =>
      let (manager, _, published) := s.manager.setInt handle value now
      s.withManager (manager, published)
  | .setFloat _ handle value now =>
      let (manager, _, published) := s.manager.setFloat handle value now
      s.withManager (manager, published)
  | .resetBegin task handle =>
      match s.tasks task, s.manager.resetBegin handle with
      | .idle, some (type, rawValue) => s.goto task (.resetting handle type rawValue)
      | _, _ => s
  | .resetEnd task now =>
      match s.tasks task with
      | .resetting handle type rawValue =>
          let (manager, _, published) := s.manager.setRaw handle type rawValue now
          (s.withManager (manager, published)).goto task .idle
      | _ => s
  | .resetAll _ now => s.withManager (s.manager.resetAll now)
  | .poll task now =>
      match s.tasks task with
      | .idle => if s.manager.autoSaveDue now then s.goto task .due else s
      | _ => s
  | .saveBegin task =>
      match s.tasks task with
      | .idle | .due =>
          match s.manager.saveBegin with
          | .captured snapshot generation =>
              s.goto task (.captured snapshot generation s.epoch s.changes)
          | _ => s.goto task .idle
      | _ => s
  | .saveStore task outcome =>
      match s.tasks task with
      | .captured snapshot generation _ changes =>
          let after :=
            { s with flash := s.flash.next (.save snapshot outcome), epoch := s.epoch + 1 }
          if s.saveReturns snapshot outcome then after.goto task (.stored snapshot generation changes)
          else after.goto task .idle
      | _ => s
  | .saveEnd task =>
      match s.tasks task with
      | .stored snapshot generation _ =>
          { s with manager := (s.manager.saveEnd snapshot generation).1 }.goto task .idle
      | _ => s
  | .loadBegin task =>
      match s.tasks task with
      | .idle => if s.manager.loadBegin then s.goto task .loading else s
      | _ => s
  | .loadRead task =>
      match s.tasks task with
      | .loading =>
          let after := { s with flash := s.flash.next .load }
          match s.flash.loadResult with
          | some snapshot => after.goto task (.loaded snapshot)
          | none => after.goto task .idle
      | _ => s
  | .loadEnd task =>
      match s.tasks task with
      | .loaded snapshot =>
          { s with
            manager := (s.manager.loadEnd snapshot).1
            epoch := s.epoch + 1, changes := s.changes + 1 }.goto task .idle
      | _ => s

/-- The memory keeps power, and an erase that fails does not make a page valid. -/
def Admits (s : ParamRun) : ParamEvent → Prop
  | .saveStore task outcome => ∀ storage, s.flash.storage = some storage →
      outcome.erase.Keeps s.flash.slotSize (s.flash.flash storage.target) ∧
        match s.tasks task with
        | .captured snapshot _ _ _ => (storage.save s.flash.flash snapshot outcome).2.2 ≠ .powerLost
        | _ => True
  | _ => True

/-- `initialize` on a freshly booted storage. -/
def boot (manager : ParamManager) (flash : FlashRun) : ParamRun :=
  let initialized := manager.initializeBegin.1
  { manager :=
      match flash.loadResult with
      | some snapshot => initialized.initializeEnd snapshot
      | none => initialized
    flash := flash.next .reboot
    changes := manager.generation.toNat }

/-- All runs after `initialize`, for any content of the memory. -/
def system : Transition ParamRun ParamEvent where
  init s := ∃ manager flash, manager.Fresh ∧ FlashRun.system.init flash ∧ s = boot manager flash
  step s e t := s.Admits e ∧ t = s.next e

/-- With no save or load under way, a clean manager has the values it would have after a reboot. -/
def Persisted (s : ParamRun) : Prop :=
  (∀ task, ¬ (s.tasks task).InProgress) → s.manager.dirty = false →
    ParamManager.restore s.manager.table s.flash.loadResult = s.manager.table

/-! ## Two saves that overlap -/

/-- Other tasks stay where they are. -/
theorem next_tasks (s : ParamRun) {e : ParamEvent} {i : Nat} (h : i ≠ e.task) :
    (s.next e).tasks i = s.tasks i := by
  cases e <;> simp only [ParamEvent.task] at h <;> simp only [next]
  case setInt => rfl
  case setFloat => rfl
  case resetAll => rfl
  all_goals
    repeat' split
    all_goals first | rfl | exact Function.update_of_ne h _ _

/-- A memory that does what it is told keeps power. -/
theorem admits_save (s : ParamRun) (task : Nat) : s.Admits (.saveStore task {}) := by
  intro storage _
  refine ⟨trivial, ?_⟩
  have hwritten : ∀ snapshot, (FlashParamStorage.writePage snapshot {}).2 = none := by
    intro snapshot
    simp only [FlashParamStorage.writePage, FlashParamStorage.progmemWrite]
    by_cases hrecords : 0 < snapshot.count.toNat * ParamStoredRecord.size
    · simp only [if_pos hrecords]
    · simp only [if_neg hrecords]
  cases s.tasks task with
  | captured snapshot generation epoch changes =>
      simp only [FlashParamStorage.save]
      have hnone := hwritten snapshot
      generalize FlashParamStorage.writePage snapshot {} = written at hnone
      obtain ⟨page, result⟩ := written
      dsimp only at hnone
      subst hnone
      dsimp only
      repeat' split
      all_goals simp
  | _ => trivial

/-- The firmware on an erased memory. -/
def started : ParamRun := boot ParamManager.construct FlashRun.blank

theorem started_reachable : system.Reachable started :=
  .start ⟨_, _, ParamManager.construct_fresh, ⟨131072, fun _ => Page.erased, rfl⟩, rfl⟩

theorem reachable_next {s : ParamRun} (h : system.Reachable s) {e : ParamEvent} (hadmits : s.Admits e) :
    system.Reachable (s.next e) := .next h ⟨hadmits, rfl⟩

/-- `RC_MAP_ROLL` is set and a first save takes its snapshot; `RC_MAP_PITCH` is set and a second save
takes its snapshot and stores it before the first one does. -/
def overlap : ParamRun :=
  (((((((started.next (.setInt 0 81 2 1000)).next (.saveBegin 1)).next (.setInt 0 82 1 2000)).next
    (.saveBegin 2)).next (.saveStore 2 {})).next (.saveStore 1 {})).next (.saveEnd 2)).next (.saveEnd 1)

theorem overlap_reachable : system.Reachable overlap := by
  have hfirst := reachable_next (reachable_next started_reachable (e := .setInt 0 81 2 1000) trivial)
    (e := .saveBegin 1) trivial
  have hsecond := reachable_next (reachable_next hfirst (e := .setInt 0 82 1 2000) trivial)
    (e := .saveBegin 2) trivial
  have hstored := reachable_next (reachable_next hsecond (admits_save _ 2)) (admits_save _ 1)
  exact reachable_next (reachable_next hstored (e := .saveEnd 2) trivial) (e := .saveEnd 1) trivial

/-- Nothing is under way, the manager is clean, and `RC_MAP_PITCH` is lost. -/
theorem saved_value_lost : ¬ ∀ s, system.Reachable s → Persisted s := by
  intro h
  have hclean : overlap.manager.dirty = false := by decide +kernel
  have hidle : ∀ task, ¬ (overlap.tasks task).InProgress := by
    intro task
    by_cases hone : task = 1
    · subst hone
      decide +kernel
    by_cases htwo : task = 2
    · subst htwo
      decide +kernel
    by_cases hzero : task = 0
    · subst hzero
      decide +kernel
    have hother : overlap.tasks task = .idle := by
      rw [overlap]
      repeat rw [next_tasks _ (by assumption)]
      rfl
    rw [hother]
    exact id
  have hrestored := congrArg (fun table : ParamTable => table[82]?.map ParamEntry.value)
    (h _ overlap_reachable hidle hclean)
  revert hrestored
  decide +kernel

/-! ## Runs in which no snapshot is overtaken -/

/-- No snapshot is taken while another save has stored its own and not finished; a snapshot is stored
only if nothing was stored and no load was applied since it was taken, and no load has read the storage
without being applied; and fewer than 2^32 changes happen while a save is under way. -/
def Undisturbed (s : ParamRun) : ParamEvent → Prop
  | .saveBegin _ => s.manager.dirty = true → ∀ j, ¬ (s.tasks j).IsStored
  | .saveStore task _ =>
      match s.tasks task with
      | .captured _ _ epoch _ => epoch = s.epoch ∧ ∀ j, ¬ (s.tasks j).IsLoaded
      | _ => True
  | .saveEnd task =>
      match s.tasks task with
      | .stored _ _ changes => s.changes < changes + 2 ^ 32
      | _ => True
  | _ => True

/-- A snapshot was taken when the counter of changes stood at `changes`; it now stands at `now`. -/
structure Taken (table : ParamTable) (now : Nat) (snapshot : ParamStorageSnapshot)
    (generation : UInt32) (changes : Nat) : Prop where
  count : snapshot.count.toNat ≤ ParamMaxCount
  before : changes ≤ now
  generation : generation = UInt32.ofNat changes
  table : changes = now → ∃ sequence, snapshot = ParamManager.makeSnapshot table sequence

/-- The invariant. A snapshot that has not been overtaken may still be stored, and then it is the next
one; a snapshot that was stored or loaded is the one the storage would load. -/
structure Ordered (s : ParamRun) : Prop where
  recoverable : s.flash.Recoverable
  powered : ∃ storage, s.flash.storage = some storage
  table : ParamManager.WellFormed s.manager.table
  generation : s.manager.generation = UInt32.ofNat s.changes
  captured : ∀ i snapshot generation epoch changes,
    s.tasks i = .captured snapshot generation epoch changes →
      epoch ≤ s.epoch ∧ Taken s.manager.table s.changes snapshot generation changes
  fresh : ∀ i snapshot generation changes,
    s.tasks i = .captured snapshot generation s.epoch changes →
      s.manager.dirty = true ∧ (∀ j, ¬ (s.tasks j).IsStored) ∧
        ((∀ j, ¬ (s.tasks j).IsLoaded) →
          ∀ last ∈ s.flash.current, snapshot.sequence = last.sequence + 1)
  stored : ∀ i snapshot generation changes, s.tasks i = .stored snapshot generation changes →
    s.flash.current = some snapshot.stored ∧ s.flash.loadResult = some snapshot.stored ∧
      Taken s.manager.table s.changes snapshot generation changes
  unique : ∀ i j, (s.tasks i).IsStored → (s.tasks j).IsStored → i = j
  loaded : ∀ i snapshot, s.tasks i = .loaded snapshot →
    s.flash.current = some snapshot ∧ s.flash.loadResult = some snapshot
  sequence : (∀ j, ¬ (s.tasks j).IsStored) → (∀ j, ¬ (s.tasks j).IsLoaded) →
    ∀ last ∈ s.flash.current, s.manager.storageSequence = last.sequence
  clean : s.manager.dirty = false →
    ParamManager.restore s.manager.table s.flash.loadResult = s.manager.table

/-! ### Changes of values -/

/-- A further change leaves the snapshot behind. -/
theorem Taken.overtaken {table other : ParamTable} {now : Nat} {snapshot : ParamStorageSnapshot}
    {generation : UInt32} {changes : Nat} (h : Taken table now snapshot generation changes) :
    Taken other (now + 1) snapshot generation changes :=
  ⟨h.count, Nat.le_succ_of_le h.before, h.generation, fun heq => by
    have hbefore := h.before
    omega⟩

/-- A critical section that changes values. -/
theorem Ordered.withManager {s : ParamRun} (h : s.Ordered) {result : ParamManager × Option UInt32}
    (hchanges : s.manager.Changes result) : (s.withManager result).Ordered := by
  cases hchanges with
  | nothing => exact { h with }
  | @touched table now hsame =>
      exact
        { recoverable := h.recoverable
          powered := h.powered
          table := h.table.congr hsame
          generation := by
            show s.manager.generation + 1 = UInt32.ofNat (s.changes + 1)
            rw [h.generation, UInt32.ofNat_add]
            rfl
          captured := by
            intro i snapshot generation epoch changes hi
            obtain ⟨hepoch, hi⟩ := h.captured i snapshot generation epoch changes hi
            exact ⟨hepoch, hi.overtaken⟩
          fresh := by
            intro i snapshot generation changes hi
            exact ⟨rfl, (h.fresh i snapshot generation changes hi).2⟩
          stored := by
            intro i snapshot generation changes hi
            obtain ⟨hcurrent, hload, hi⟩ := h.stored i snapshot generation changes hi
            exact ⟨hcurrent, hload, hi.overtaken⟩
          unique := h.unique
          loaded := h.loaded
          sequence := h.sequence
          clean := by
            intro hclean
            cases hclean }

/-! ### Steps of a task -/

/-- A task that is in a state the new one does not allow has not moved. -/
theorem of_goto {s : ParamRun} {task i : Nat} {state : ParamTask} {P : ParamTask → Prop}
    (h : P ((s.goto task state).tasks i)) (hstate : ¬ P state) : i ≠ task ∧ P (s.tasks i) := by
  by_cases heq : i = task
  · subst heq
    simp only [goto, Function.update_self] at h
    exact absurd h hstate
  · simp only [goto, Function.update_of_ne heq] at h
    exact ⟨heq, h⟩

/-- If no task was in such a state, only the moving one is. -/
theorem eq_of_goto {s : ParamRun} {task i : Nat} {state : ParamTask} {P : ParamTask → Prop}
    (h : P ((s.goto task state).tasks i)) (hnone : ∀ j, ¬ P (s.tasks j)) : i = task := by
  by_contra hne
  simp only [goto, Function.update_of_ne hne] at h
  exact hnone i h

/-- If no task is in such a state afterwards, none was before, the moving one aside. -/
theorem none_of_goto {s : ParamRun} {task : Nat} {state : ParamTask} {P : ParamTask → Prop}
    (h : ∀ j, ¬ P ((s.goto task state).tasks j)) (htask : ¬ P (s.tasks task)) (j : Nat) :
    ¬ P (s.tasks j) := by
  by_cases heq : j = task
  · rw [heq]
    exact htask
  · have hj := h j
    simpa only [goto, Function.update_of_ne heq] using hj

/-- A task moves between states in which it holds no snapshot, or drops one that was not stored. -/
theorem Ordered.goto {s : ParamRun} (h : s.Ordered) {task : Nat} {state : ParamTask}
    (hstate : ¬ state.Holds) (hstored : ¬ (s.tasks task).IsStored)
    (hloaded : ¬ (s.tasks task).IsLoaded) : (s.goto task state).Ordered := by
  have hold : ∀ {i : Nat} {other : ParamTask}, other.Holds → (s.goto task state).tasks i = other →
      s.tasks i = other := by
    intro i other hholds hi
    refine (of_goto (P := (· = other)) hi ?_).2
    rintro rfl
    exact hstate hholds
  have hnot : ¬ state.IsStored := fun hs => hstate (ParamTask.holds_of_stored hs)
  exact
    { h with
      captured := fun i snapshot generation epoch changes hi =>
        h.captured i snapshot generation epoch changes (hold trivial hi)
      fresh := by
        intro i snapshot generation changes hi
        obtain ⟨hdirty, hnone, hnext⟩ := h.fresh i snapshot generation changes (hold trivial hi)
        refine ⟨hdirty, fun j hj => hnone j (of_goto hj hnot).2, fun hnoneLoaded => ?_⟩
        exact hnext (none_of_goto hnoneLoaded hloaded)
      stored := fun i snapshot generation changes hi =>
        h.stored i snapshot generation changes (hold trivial hi)
      unique := fun i j hi hj => h.unique i j (of_goto hi hnot).2 (of_goto hj hnot).2
      loaded := fun i snapshot hi => h.loaded i snapshot (hold trivial hi)
      sequence := fun hnoneStored hnoneLoaded =>
        h.sequence (none_of_goto hnoneStored hstored) (none_of_goto hnoneLoaded hloaded) }

theorem Ordered.move {s : ParamRun} (h : s.Ordered) {task : Nat} {old state : ParamTask}
    (htask : s.tasks task = old) (hold : ¬ old.Holds) (hstate : ¬ state.Holds) :
    (s.goto task state).Ordered := by
  rw [← htask] at hold
  exact h.goto hstate (fun hs => hold (ParamTask.holds_of_stored hs))
    fun hs => hold (ParamTask.holds_of_loaded hs)

/-- Where a task is after a step of some task. -/
theorem goto_cases {s : ParamRun} {task i : Nat} {state other : ParamTask}
    (h : (s.goto task state).tasks i = other) : i = task ∧ state = other ∨ s.tasks i = other := by
  by_cases heq : i = task
  · subst heq
    simp only [ParamRun.goto, Function.update_self] at h
    exact Or.inl ⟨rfl, h⟩
  · simp only [ParamRun.goto, Function.update_of_ne heq] at h
    exact Or.inr h

/-- A task that is not in the state just entered was where it is. -/
theorem goto_of_ne {s : ParamRun} {task i : Nat} {state other : ParamTask}
    (h : (s.goto task state).tasks i = other) (hne : state ≠ other) : s.tasks i = other :=
  (goto_cases h).resolve_left fun hnew => hne hnew.2

/-- A snapshot is taken. -/
theorem Ordered.saveBegin {s : ParamRun} (h : s.Ordered) {task : Nat}
    (hcondition : s.Undisturbed (.saveBegin task)) : (s.next (.saveBegin task)).Ordered := by
  have hbegin : ¬ (s.tasks task).Holds →
      (match s.manager.saveBegin with
        | .captured snapshot generation =>
            s.goto task (.captured snapshot generation s.epoch s.changes)
        | _ => s.goto task .idle).Ordered := by
    intro hnone
    have hstored : ¬ (s.tasks task).IsStored := fun hs => hnone (ParamTask.holds_of_stored hs)
    have hloaded : ¬ (s.tasks task).IsLoaded := fun hs => hnone (ParamTask.holds_of_loaded hs)
    cases hcase : s.manager.saveBegin with
    | refused => exact h.goto id hstored hloaded
    | clean => exact h.goto id hstored hloaded
    | captured snapshot generation =>
        obtain ⟨hdirty, rfl, rfl⟩ := ParamManager.saveBegin_captured hcase
        have hnoStored := hcondition hdirty
        obtain ⟨hsequence, hcount, _⟩ :=
          ParamManager.makeSnapshot_spec h.table.short (s.manager.storageSequence + 1)
        exact
          { h with
            captured := by
              intro i snapshot generation epoch changes hi
              rcases goto_cases hi with ⟨_, hnew⟩ | hi
              · cases hnew
                exact ⟨Nat.le_refl _, hcount, Nat.le_refl _, h.generation, fun _ => ⟨_, rfl⟩⟩
              · exact h.captured i snapshot generation epoch changes hi
            fresh := by
              intro i snapshot generation changes hi
              refine ⟨hdirty, fun j hj => hnoStored j (of_goto hj id).2, fun hnoLoaded => ?_⟩
              have hnoLoaded := none_of_goto hnoLoaded hloaded
              rcases goto_cases hi with ⟨_, hnew⟩ | hi
              · cases hnew
                intro last hlast
                rw [hsequence, h.sequence hnoStored hnoLoaded last hlast]
              · exact (h.fresh i snapshot generation changes hi).2.2 hnoLoaded
            stored := by
              intro i snapshot generation changes hi
              have hi := goto_of_ne hi (by simp)
              exact h.stored i snapshot generation changes hi
            unique := fun i j hi hj => h.unique i j (of_goto hi id).2 (of_goto hj id).2
            loaded := by
              intro i snapshot hi
              have hi := goto_of_ne hi (by simp)
              exact h.loaded i snapshot hi
            sequence := fun _ hnoLoaded => h.sequence hnoStored (none_of_goto hnoLoaded hloaded) }
  simp only [next]
  cases htask : s.tasks task with
  | idle => exact hbegin (by rw [htask]; exact id)
  | due => exact hbegin (by rw [htask]; exact id)
  | _ => exact h

/-- A snapshot that was not overtaken is stored. -/
theorem Ordered.saveStore {s : ParamRun} (h : s.Ordered) {task : Nat} {outcome : SaveOutcome}
    (hadmits : s.Admits (.saveStore task outcome))
    (hcondition : s.Undisturbed (.saveStore task outcome)) :
    (s.next (.saveStore task outcome)).Ordered := by
  simp only [next]
  cases htask : s.tasks task with
  | captured snapshot generation epoch changes =>
      simp only [Undisturbed, htask] at hcondition
      obtain ⟨rfl, hnoLoaded⟩ := hcondition
      obtain ⟨hdirty, hnoStored, hnext⟩ := h.fresh task snapshot generation changes htask
      obtain ⟨_, htaken⟩ := h.captured task snapshot generation _ changes htask
      obtain ⟨storage, hstorage⟩ := h.powered
      obtain ⟨hkeeps, hpower⟩ := hadmits storage hstorage
      simp only [htask] at hpower
      have hflash : s.flash.next (.save snapshot outcome) = s.flash.saveWith storage snapshot outcome := by
        simp only [FlashRun.next, hstorage]
      have hrecoverable := h.recoverable.saveWith hstorage (hnext hnoLoaded) hkeeps
      have hbooted := h.recoverable.booted hstorage
      -- every other snapshot is overtaken
      have hcaptured : ∀ {i other generation epoch changes}, s.tasks i =
          .captured other generation epoch changes → epoch ≤ s.epoch + 1 ∧ epoch ≠ s.epoch + 1 ∧
            Taken s.manager.table s.changes other generation changes := by
        intro i other generation epoch changes hi
        obtain ⟨hepoch, hi⟩ := h.captured i other generation epoch changes hi
        exact ⟨by omega, by omega, hi⟩
      simp only [saveReturns, hstorage, hflash]
      cases hresult : (storage.save s.flash.flash snapshot outcome).2.2 with
      | powerLost => exact absurd hresult hpower
      | returned ok =>
          cases ok with
          | true =>
              -- the storage has the snapshot, and the saving task is the only one in `stored`
              obtain ⟨hcurrent, hrecent, hstill, hpowered⟩ := FlashRun.saveWith_true hresult
              have hload := hrecoverable.loadResult_eq (hstill.trans hbooted) hrecent
              rw [hcurrent] at hload
              simp only [decide_true, if_true]
              exact
                { recoverable := hrecoverable
                  powered := hpowered
                  table := h.table
                  generation := h.generation
                  captured := by
                    intro i other generation epoch changes hi
                    have hi := goto_of_ne hi (by simp)
                    exact ⟨(hcaptured hi).1, (hcaptured hi).2.2⟩
                  fresh := by
                    intro i other generation changes hi
                    have hi := goto_of_ne hi (by simp)
                    exact absurd rfl (hcaptured hi).2.1
                  stored := by
                    intro i other generation changes hi
                    rcases goto_cases hi with ⟨_, hnew⟩ | hi
                    · cases hnew
                      exact ⟨hcurrent, hload, htaken⟩
                    · exact absurd (by rw [hi]; trivial) (hnoStored i)
                  unique := fun i j hi hj =>
                    (eq_of_goto hi hnoStored).trans (eq_of_goto hj hnoStored).symm
                  loaded := by
                    intro i other hi
                    have hi := goto_of_ne hi (by simp)
                    exact absurd (by rw [hi]; trivial) (hnoLoaded i)
                  sequence := by
                    intro hnone
                    refine absurd ?_ (hnone task)
                    simp only [ParamRun.goto, Function.update_self]
                    trivial
                  clean := fun hclean => absurd (hdirty.symm.trans hclean) (by decide) }
          | false =>
              -- the storage is unchanged, and no task is in `stored`
              obtain ⟨hcurrent, hpowered⟩ := FlashRun.saveWith_false hresult
              have hnot : ¬ SaveResult.returned false = SaveResult.returned true := by decide
              simp only [decide_eq_true_eq, if_neg hnot]
              exact
                { recoverable := hrecoverable
                  powered := hpowered
                  table := h.table
                  generation := h.generation
                  captured := by
                    intro i other generation epoch changes hi
                    have hi := goto_of_ne hi (by simp)
                    exact ⟨(hcaptured hi).1, (hcaptured hi).2.2⟩
                  fresh := by
                    intro i other generation changes hi
                    have hi := goto_of_ne hi (by simp)
                    exact absurd rfl (hcaptured hi).2.1
                  stored := by
                    intro i other generation changes hi
                    have hi := goto_of_ne hi (by simp)
                    exact absurd (by rw [hi]; trivial) (hnoStored i)
                  unique := fun i j hi _ => absurd (of_goto hi id).2 (hnoStored i)
                  loaded := by
                    intro i other hi
                    have hi := goto_of_ne hi (by simp)
                    exact absurd (by rw [hi]; trivial) (hnoLoaded i)
                  sequence := by
                    intro _ _ last hlast
                    have hlast : last ∈ (s.flash.saveWith storage snapshot outcome).current := hlast
                    rw [hcurrent] at hlast
                    exact h.sequence hnoStored hnoLoaded last hlast
                  clean := fun hclean => absurd (hdirty.symm.trans hclean) (by decide) }
  | _ => exact h

/-- Equal generations less than 2^32 changes apart. -/
theorem changes_eq {now changes : Nat} (hbefore : changes ≤ now) (hafter : now < changes + 2 ^ 32)
    (h : UInt32.ofNat now = UInt32.ofNat changes) : changes = now := by
  have hmod := congrArg UInt32.toNat h
  rw [UInt32.toNat_ofNat', UInt32.toNat_ofNat'] at hmod
  omega

/-- A save finishes. -/
theorem Ordered.saveEnd {s : ParamRun} (h : s.Ordered) {task : Nat}
    (hcondition : s.Undisturbed (.saveEnd task)) : (s.next (.saveEnd task)).Ordered := by
  simp only [next]
  cases htask : s.tasks task with
  | stored snapshot generation changes =>
      simp only [Undisturbed, htask] at hcondition
      obtain ⟨hcurrent, hload, htaken⟩ := h.stored task snapshot generation changes htask
      have hstored : (s.tasks task).IsStored := by
        rw [htask]
        trivial
      have hloaded : ¬ (s.tasks task).IsLoaded := by
        rw [htask]
        exact id
      exact
        { recoverable := h.recoverable
          powered := h.powered
          table := h.table
          generation := h.generation
          captured := by
            intro i other generation epoch changes hi
            have hi := goto_of_ne hi (by simp)
            exact h.captured i other generation epoch changes hi
          fresh := by
            intro i other generation changes hi
            have hi := goto_of_ne hi (by simp)
            exact absurd hstored ((h.fresh i other generation changes hi).2.1 task)
          stored := by
            intro i other generation changes hi
            have hi := goto_of_ne hi (by simp)
            exact h.stored i other generation changes hi
          unique := fun i j hi hj => h.unique i j (of_goto hi id).2 (of_goto hj id).2
          loaded := by
            intro i other hi
            have hi := goto_of_ne hi (by simp)
            exact h.loaded i other hi
          sequence := by
            intro _ _ last hlast
            cases Option.some_inj.mp (hcurrent.symm.trans hlast)
            rfl
          clean := by
            intro hclean
            show ParamManager.restore s.manager.table s.flash.loadResult = s.manager.table
            by_cases hsaved : s.manager.generation = generation
            · -- nothing has changed since the snapshot was taken
              rw [h.generation, htaken.generation] at hsaved
              obtain ⟨sequence, hsnapshot⟩ :=
                htaken.table (changes_eq htaken.before hcondition hsaved)
              rw [hload, hsnapshot]
              exact ParamManager.restore_makeSnapshot h.table sequence
            · apply h.clean
              simpa [ParamManager.saveEnd, ParamRun.goto, hsaved] using hclean }
  | _ => exact h

/-- A load reads the storage. -/
theorem Ordered.loadRead {s : ParamRun} (h : s.Ordered) {task : Nat} :
    (s.next (.loadRead task)).Ordered := by
  simp only [next]
  cases htask : s.tasks task with
  | loading =>
      obtain ⟨storage, hstorage⟩ := h.powered
      have hsize := (h.recoverable.protects storage hstorage).size
      obtain ⟨hload, hcurrent, hpowered⟩ := FlashRun.loadWith_spec hsize
      have hrecoverable := h.recoverable.loadWith hsize
      have hflash : s.flash.next .load = s.flash.loadWith storage := by
        simp only [FlashRun.next, hstorage]
      have hstored : ¬ (s.tasks task).IsStored := by
        rw [htask]
        exact id
      have hloaded : ¬ (s.tasks task).IsLoaded := by
        rw [htask]
        exact id
      rw [hflash]
      cases hresult : s.flash.loadResult with
      | none =>
          rw [hresult, Option.none_or] at hcurrent
          -- nothing to load; at most the storage was repaired
          have hsame : Ordered { s with flash := s.flash.loadWith storage } :=
            { h with
              recoverable := hrecoverable
              powered := hpowered
              fresh := by
                rw [hcurrent]
                exact h.fresh
              stored := by
                rw [hcurrent, hload]
                exact h.stored
              loaded := by
                rw [hcurrent, hload]
                exact h.loaded
              sequence := by
                rw [hcurrent]
                exact h.sequence
              clean := by
                rw [hload]
                exact h.clean }
          exact hsame.goto id hstored hloaded
      | some snapshot =>
          rw [hresult, Option.some_or] at hcurrent
          have hread : ∀ other, s.flash.loadResult = some other → snapshot = other := fun other ho =>
            Option.some_inj.mp (hresult.symm.trans ho)
          have hnone : ¬ ∀ j, ¬ ((ParamRun.goto { s with flash := s.flash.loadWith storage } task
              (.loaded snapshot)).tasks j).IsLoaded := by
            intro hnone
            refine hnone task ?_
            simp only [ParamRun.goto, Function.update_self]
            trivial
          exact
            { recoverable := hrecoverable
              powered := hpowered
              table := h.table
              generation := h.generation
              captured := by
                intro i other generation epoch changes hi
                have hi := goto_of_ne hi (by simp)
                exact h.captured i other generation epoch changes hi
              fresh := by
                intro i other generation changes hi
                have hi := goto_of_ne hi (by simp)
                obtain ⟨hdirty, hnoStored, _⟩ := h.fresh i other generation changes hi
                exact ⟨hdirty, fun j hj => hnoStored j (of_goto hj id).2, fun hn => absurd hn hnone⟩
              stored := by
                intro i other generation changes hi
                have hi := goto_of_ne hi (by simp)
                obtain ⟨_, hother, htaken⟩ := h.stored i other generation changes hi
                obtain rfl := hread _ hother
                exact ⟨hcurrent, hload.trans hresult, htaken⟩
              unique := fun i j hi hj => h.unique i j (of_goto hi id).2 (of_goto hj id).2
              loaded := by
                intro i other hi
                rcases goto_cases hi with ⟨_, hnew⟩ | hi
                · cases hnew
                  exact ⟨hcurrent, hload.trans hresult⟩
                · obtain rfl := hread _ (h.loaded i other hi).2
                  exact ⟨hcurrent, hload.trans hresult⟩
              sequence := fun _ hn => absurd hn hnone
              clean := by
                intro hclean
                show ParamManager.restore s.manager.table (s.flash.loadWith storage).loadResult =
                  s.manager.table
                rw [hload]
                exact h.clean hclean }
  | _ => exact h

/-- What a load has read is applied. -/
theorem Ordered.loadEnd {s : ParamRun} (h : s.Ordered) {task : Nat} :
    (s.next (.loadEnd task)).Ordered := by
  simp only [next]
  cases htask : s.tasks task with
  | loaded snapshot =>
      obtain ⟨hcurrent, hload⟩ := h.loaded task snapshot htask
      -- a snapshot changes values only
      have hsame : ParamManager.definitions
          (ParamManager.applySnapshot (ParamManager.defaults s.manager.table) snapshot) =
            ParamManager.definitions s.manager.table :=
        (ParamManager.definitions_applySnapshot _ _).trans (ParamManager.definitions_defaults _)
      exact
        { recoverable := h.recoverable
          powered := h.powered
          table := h.table.congr hsame
          generation := by
            show s.manager.generation + 1 = UInt32.ofNat (s.changes + 1)
            rw [h.generation, UInt32.ofNat_add]
            rfl
          captured := by
            intro i other generation epoch changes hi
            have hi := goto_of_ne hi (by simp)
            obtain ⟨hepoch, hi⟩ := h.captured i other generation epoch changes hi
            exact ⟨Nat.le_succ_of_le hepoch, hi.overtaken⟩
          fresh := by
            intro i other generation changes hi
            have hi := goto_of_ne hi (by simp)
            have hepoch : s.epoch + 1 ≤ s.epoch := (h.captured i other generation _ changes hi).1
            omega
          stored := by
            intro i other generation changes hi
            have hi := goto_of_ne hi (by simp)
            obtain ⟨hsaved, hother, hi⟩ := h.stored i other generation changes hi
            exact ⟨hsaved, hother, hi.overtaken⟩
          unique := fun i j hi hj => h.unique i j (of_goto hi id).2 (of_goto hj id).2
          loaded := by
            intro i other hi
            have hi := goto_of_ne hi (by simp)
            exact h.loaded i other hi
          sequence := by
            intro _ _ last hlast
            cases Option.some_inj.mp (hcurrent.symm.trans hlast)
            rfl
          clean := by
            intro _
            show ParamManager.restore (ParamManager.applySnapshot
              (ParamManager.defaults s.manager.table) snapshot) s.flash.loadResult = _
            rw [hload]
            exact ParamManager.restore_applySnapshot s.manager.table snapshot }
  | _ => exact h

/-! ### Whole runs -/

/-- What `initialize` makes of a fresh manager. -/
theorem boot_manager {manager : ParamManager} (flash : FlashRun) (hfresh : manager.Fresh) :
    ParamManager.WellFormed (boot manager flash).manager.table ∧
      (boot manager flash).manager.generation = manager.generation ∧
      (boot manager flash).manager.table = ParamManager.restore manager.table flash.loadResult ∧
      (boot manager flash).manager.dirty = false ∧
      (∀ last ∈ flash.loadResult, (boot manager flash).manager.storageSequence = last.sequence) := by
  have hbegin : manager.initializeBegin.1 = { manager with storage := true, initialized := true } := by
    simp [ParamManager.initializeBegin, hfresh.initialized]
  simp only [boot, hbegin]
  cases flash.loadResult with
  | none =>
      refine ⟨hfresh.table, rfl, hfresh.values.symm, hfresh.clean, ?_⟩
      intro last hlast
      cases hlast
  | some snapshot =>
      refine ⟨hfresh.table.congr (ParamManager.definitions_applySnapshot _ _), rfl, ?_, hfresh.clean, ?_⟩
      · simp only [ParamManager.restore, hfresh.values]
        rfl
      · intro last hlast
        cases hlast
        rfl

/-- After `initialize` the values are the stored ones. -/
theorem ordered_boot {manager : ParamManager} {flash : FlashRun} (hfresh : manager.Fresh)
    (hflash : FlashRun.system.init flash) : (boot manager flash).Ordered := by
  have hinit := FlashRun.recoverable_init hflash
  have hnone : flash.current = none := by
    obtain ⟨slotSize, content, rfl⟩ := hflash
    rfl
  have hsize : (⟨flash.slotSize, none⟩ : FlashParamStorage).slotSize = flash.slotSize := rfl
  obtain ⟨hload, hcurrent, hpowered⟩ := FlashRun.loadWith_spec hsize
  rw [hnone, Option.or_none] at hcurrent
  obtain ⟨hwell, hgeneration, hvalues, -, hsequence⟩ := boot_manager flash hfresh
  exact
    { recoverable := hinit.loadWith rfl
      powered := hpowered
      table := hwell
      generation := by
        rw [hgeneration]
        exact (UInt32.ofNat_toNat).symm
      captured := by
        intro i snapshot generation epoch changes hi
        cases hi
      fresh := by
        intro i snapshot generation changes hi
        cases hi
      stored := by
        intro i snapshot generation changes hi
        cases hi
      unique := by
        intro i j hi
        cases hi
      loaded := by
        intro i snapshot hi
        cases hi
      sequence := by
        intro _ _ last hlast
        refine hsequence last ?_
        rw [← hcurrent]
        exact hlast
      clean := by
        intro _
        have hload : (boot manager flash).flash.loadResult = flash.loadResult := hload
        rw [hload, hvalues]
        cases flash.loadResult with
        | none => exact ParamManager.restore_congr (ParamManager.definitions_defaults _) none
        | some snapshot => exact ParamManager.restore_applySnapshot manager.table snapshot }

/-- In every run in which no snapshot is overtaken, a clean manager has the values it would have after
a reboot. -/
theorem persisted {s : ParamRun} (h : (system.restrict Undisturbed).Reachable s) : s.Persisted := by
  have hordered : s.Ordered := by
    refine h.invariant Ordered ?_ ?_
    · rintro s ⟨manager, flash, hfresh, hflash, rfl⟩
      exact ordered_boot hfresh hflash
    · rintro s e t - hs ⟨hcondition, hadmits, rfl⟩
      cases e with
      | setInt task handle value now => exact hs.withManager (s.manager.setRaw_changes _ _ _ _)
      | setFloat task handle value now =>
          simp only [next, ParamManager.setFloat]
          by_cases hfinite : (!value.isFinite) = true
          · simp only [if_pos hfinite]
            exact hs.withManager .nothing
          · simp only [if_neg hfinite]
            exact hs.withManager (s.manager.setRaw_changes _ _ _ _)
      | resetBegin task handle =>
          simp only [next]
          split
          · rename_i htask _
            exact hs.move htask id id
          · exact hs
      | resetEnd task now =>
          simp only [next]
          split
          · rename_i htask
            exact (hs.withManager (s.manager.setRaw_changes _ _ _ _)).move htask id id
          · exact hs
      | resetAll task now => exact hs.withManager (s.manager.resetAll_changes now)
      | poll task now =>
          simp only [next]
          split
          · rename_i htask
            split
            · exact hs.move htask id id
            · exact hs
          · exact hs
      | saveBegin task => exact hs.saveBegin hcondition
      | saveStore task outcome => exact hs.saveStore hadmits hcondition
      | saveEnd task => exact hs.saveEnd hcondition
      | loadBegin task =>
          simp only [next]
          split
          · rename_i htask
            split
            · exact hs.move htask id id
            · exact hs
          · exact hs
      | loadRead task => exact hs.loadRead
      | loadEnd task => exact hs.loadEnd
  intro _ hclean
  exact hordered.clean hclean

theorem undisturbed_next {s : ParamRun} (h : (system.restrict Undisturbed).Reachable s)
    {e : ParamEvent} (hcondition : s.Undisturbed e) (hadmits : s.Admits e) :
    (system.restrict Undisturbed).Reachable (s.next e) := .next h ⟨hcondition, hadmits, rfl⟩

/-- `RC_MAP_ROLL` is set and saved. -/
theorem persisted_one_save :
    ((((started.next (.setInt 0 81 2 1000)).next (.saveBegin 1)).next (.saveStore 1 {})).next
      (.saveEnd 1)).Persisted := by
  have hstarted : (system.restrict Undisturbed).Reachable started :=
    .start ⟨_, _, ParamManager.construct_fresh, ⟨131072, fun _ => Page.erased, rfl⟩, rfl⟩
  have hset := undisturbed_next hstarted (e := .setInt 0 81 2 1000) trivial trivial
  have htasks : ∀ s : ParamRun, (s.next (.setInt 0 81 2 1000)).tasks = s.tasks := fun _ => rfl
  have hbegin := undisturbed_next hset (e := .saveBegin 1) (by
    intro _ j
    rw [htasks]
    exact id) trivial
  have hstore := undisturbed_next hbegin (e := .saveStore 1 {}) ?_ (admits_save _ 1)
  · have hfew : ((((started.next (.setInt 0 81 2 1000)).next (.saveBegin 1)).next
        (.saveStore 1 {})).changes) < 2 ^ 32 := by decide +kernel
    refine persisted (undisturbed_next hstore (e := .saveEnd 1) ?_ trivial)
    simp only [Undisturbed]
    split
    · omega
    · trivial
  · have hepoch : (match ((started.next (.setInt 0 81 2 1000)).next (.saveBegin 1)).tasks 1 with
        | .captured _ _ epoch _ => epoch
        | _ => 0) = ((started.next (.setInt 0 81 2 1000)).next (.saveBegin 1)).epoch := by
      decide +kernel
    have hnone : ∀ j, ¬ (((started.next (.setInt 0 81 2 1000)).next
        (.saveBegin 1)).tasks j).IsLoaded := by
      intro j
      by_cases hone : j = 1
      · subst hone
        decide +kernel
      · rw [next_tasks _ (by exact hone), htasks]
        exact id
    simp only [Undisturbed]
    split
    · rename_i htask
      rw [htask] at hepoch
      exact ⟨hepoch, hnone⟩
    · trivial

end ParamRun

end DualMagneticWheel
