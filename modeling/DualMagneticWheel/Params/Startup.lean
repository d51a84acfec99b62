/-
# DualMagneticWheel.Params.Startup — several tasks bring the parameters up

`initialize` claims its flag in a first critical section, loads the storage without the lock and restores
the snapshot in a second critical section. A second caller finds the flag set and is told that everything
is ready while the first one is still loading: it reads defaults, its settings are overwritten by the
restore, and a save of its own goes to a storage that does not know its active page yet
(`early_return_races`).

`race_free` says that the early return is all there is to it. If nobody gets, sets or saves before the
first caller is done, reads give the persisted values, settings stay, and no save erases the page of the
newest snapshot. The history of a run is its log, newest entry first.
-/
import DualMagneticWheel.Params.Definitions
import DualMagneticWheel.Params.FlashSafety
import DualMagneticWheel.Foundation.EventLog

namespace DualMagneticWheel

open Foundation

/-! ## Tasks -/

/-- Where a task is. -/
inductive StartupTask where
  /-- `initialize` was not called. -/
  | fresh
  /-- `initialize` has claimed the flag and is about to load. -/
  | starting
  /-- The storage has returned a snapshot to `initialize`. -/
  | loaded (snapshot : ParamStorageSnapshot)
  /-- `initialize` has returned true. -/
  | ready
  /-- `save` has taken its snapshot. -/
  | captured (snapshot : ParamStorageSnapshot) (generation : UInt32)
  /-- The storage has saved the snapshot. -/
  | stored (snapshot : ParamStorageSnapshot) (generation : UInt32)
  deriving DecidableEq

namespace StartupTask

/-- Between the critical sections of a start-up. -/
def InStartup : StartupTask → Prop
  | starting | loaded _ => True
  | _ => False

/-- Outside of any operation. -/
def Idle : StartupTask → Prop
  | fresh | ready => True
  | _ => False

end StartupTask

/-- What happened to the parameters and to the storage. -/
inductive StartupEntry where
  /-- A read of a parameter. -/
  | read (index : Nat) (value : ParamValue)
  /-- A setting that was accepted. -/
  | wrote (index : Nat) (value : ParamValue)
  /-- The storage was loaded. -/
  | loaded
  /-- A storage save on a page, with the page of the newest snapshot at that time. -/
  | saved (target : Slot) (newest : Option Slot)
  deriving DecidableEq

/-- The value a log entry gives a parameter. -/
def StartupEntry.written : StartupEntry → Option (Nat × ParamValue)
  | wrote index value => some (index, value)
  | _ => none

/-- The manager, its storage, the tasks and the history. `newest` is the page of the newest snapshot: the
one a load would take at power-up, then the one of the last save that returned true. -/
structure StartupRun where
  manager : ParamManager
  storage : FlashParamStorage
  flash : Flash
  tasks : Nat → StartupTask := fun _ => .fresh
  log : List StartupEntry := []
  newest : Option Slot

/-- One critical section or one storage call of a task. -/
inductive StartupAct where
  | initializeBegin (task : Nat)
  | storageLoad (task : Nat)
  | initializeEnd (task : Nat)
  | get (task : Nat) (handle : UInt16) (type : ParamType)
  | setInt (task : Nat) (handle : UInt16) (value : Int32) (now : UInt64)
  | setFloat (task : Nat) (handle : UInt16) (value : Float32) (now : UInt64)
  | saveBegin (task : Nat)
  | saveStore (task : Nat) (outcome : SaveOutcome)
  | saveEnd (task : Nat)

/-- The task of a step. -/
def StartupAct.task : StartupAct → Nat
  | initializeBegin task | storageLoad task | initializeEnd task | get task _ _ | setInt task _ _ _
  | setFloat task _ _ _ | saveBegin task | saveStore task _ | saveEnd task => task

namespace StartupRun

/-- Power-up: a storage object that was not loaded yet. -/
def boot (manager : ParamManager) (slotSize : Nat) (flash : Flash) : StartupRun where
  manager := manager
  storage := ⟨slotSize, none⟩
  flash := flash
  newest := ((⟨slotSize, none⟩ : FlashParamStorage).load flash).1.activeSlot

/-- The task goes on. -/
def goto (s : StartupRun) (task : Nat) (state : StartupTask) : StartupRun :=
  { s with tasks := Function.update s.tasks task state }

/-- A setting and its entry in the log, if it was accepted. -/
def withSet (s : StartupRun) (handle : UInt16) (value : ParamValue)
    (result : ParamManager × Bool × Option UInt32) : StartupRun :=
  { s with
    manager := result.1
    log := if result.2.1 then .wrote handle.toNat value :: s.log else s.log }

/-- One step of a task; a step that does not fit the task's state does nothing. -/
def next (s : StartupRun) : StartupAct → StartupRun
  | .initializeBegin task =>
      match s.tasks task with
      | .fresh | .ready =>
          { s with manager := s.manager.initializeBegin.1 }.goto task
            (if s.manager.initializeBegin.2 then .starting else .ready)
      | _ => s
  | .storageLoad task =>
      match s.tasks task with
      | .starting =>
          let (storage, result) := s.storage.load s.flash
          { s with storage, log := .loaded :: s.log }.goto task
            (match result with
              | some snapshot => .loaded snapshot
              | none => .ready)
      | _ => s
  | .initializeEnd task =>
      match s.tasks task with
      | .loaded snapshot =>
          { s with manager := s.manager.initializeEnd snapshot }.goto task .ready
      | _ => s
  | .get task handle type =>
      match s.tasks task, s.manager.table[handle.toNat]? with
      | .ready, some entry =>
          if entry.type = type then { s with log := .read handle.toNat entry.value :: s.log } else s
      | _, _ => s
  | .setInt task handle value now =>
      match s.tasks task with
      | .ready => s.withSet handle (.ofInteger value) (s.manager.setInt handle value now)
      | _ => s
  | .setFloat task handle value now =>
      match s.tasks task with
      | .ready => s.withSet handle (.ofReal value) (s.manager.setFloat handle value now)
      | _ => s
  | .saveBegin task =>
      match s.tasks task, s.manager.saveBegin with
      | .ready, .captured snapshot generation => s.goto task (.captured snapshot generation)
      | _, _ => s
  | .saveStore task outcome =>
      match s.tasks task with
      | .captured snapshot generation =>
          let (flash, storage, result) := s.storage.save s.flash snapshot outcome
          { s with
            flash, storage
            log := .saved s.storage.target s.newest :: s.log
            newest := if result = SaveResult.returned true then some s.storage.target else s.newest }.goto task
              (if result = SaveResult.returned true then .stored snapshot generation else .ready)
      | _ => s
  | .saveEnd task =>
      match s.tasks task with
      | .stored snapshot generation =>
          { s with manager := (s.manager.saveEnd snapshot generation).1 }.goto task .ready
      | _ => s

/-- All runs from a power-up. -/
def system (b : StartupRun) : Transition StartupRun StartupAct := Transition.ofFun (· = b) next

/-- The persisted values: what a restore gives at power-up. -/
def persisted (b : StartupRun) (i : Nat) : Option ParamValue :=
  (ParamManager.restore b.manager.table (b.storage.load b.flash).2)[i]?.map ParamEntry.value

/-- What start-up must not do, from the power-up `b`. -/
structure RaceFree (b s : StartupRun) : Prop where
  /-- A parameter nobody has set is read as persisted. -/
  reads : ∀ later i value earlier, s.log = later ++ .read i value :: earlier →
    latest StartupEntry.written earlier i = none → b.persisted i = some value
  /-- A setting stays until the next one. -/
  settings : ∀ i value, latest StartupEntry.written s.log i = some value →
    s.manager.table[i]?.map ParamEntry.value = some value
  /-- No save comes before the load, or erases the page of the newest snapshot. -/
  saves : ∀ later target newest earlier, s.log = later ++ .saved target newest :: earlier →
    StartupEntry.loaded ∈ earlier ∧ newest ≠ some target

/-- Nobody uses the parameters while a start-up is under way. -/
def Patient (s : StartupRun) : StartupAct → Prop
  | .get _ _ _ | .setInt _ _ _ _ | .setFloat _ _ _ _ | .saveBegin _ =>
      ∀ task, ¬ (s.tasks task).InStartup
  | _ => True

/-! ## What the operations do -/

/-- A raw setting changes one value, if it is accepted. -/
theorem setRaw_spec (m : ParamManager) (handle : UInt16) (type : ParamType) (rawValue : UInt32)
    (now : UInt64) :
    (m.setRaw handle type rawValue now).1.initialized = m.initialized ∧
      ((m.setRaw handle type rawValue now).2.1 = false →
        (m.setRaw handle type rawValue now).1.table = m.table) ∧
      ((m.setRaw handle type rawValue now).2.1 = true → ∀ i : Nat,
        (m.setRaw handle type rawValue now).1.table[i]?.map ParamEntry.value =
          if handle.toNat = i then some ⟨rawValue⟩ else m.table[i]?.map ParamEntry.value) := by
  unfold ParamManager.setRaw
  cases hentry : m.table[handle.toNat]? with
  | none => exact ⟨rfl, fun _ => rfl, nofun⟩
  | some entry =>
      obtain ⟨hlt, -⟩ := List.getElem?_eq_some_iff.mp hentry
      dsimp only
      by_cases htype : entry.type ≠ type
      · rw [if_pos htype]
        exact ⟨rfl, fun _ => rfl, nofun⟩
      · rw [if_neg htype]
        by_cases hvalue : entry.value.raw ≠ rawValue
        · rw [if_pos hvalue]
          refine ⟨rfl, nofun, fun _ i => ?_⟩
          show (m.table.set handle.toNat _)[i]?.map _ = _
          by_cases hi : handle.toNat = i
          · subst hi
            rw [List.getElem?_set_self hlt, if_pos rfl]
            rfl
          · rw [List.getElem?_set_ne hi, if_neg hi]
        · rw [if_neg hvalue]
          refine ⟨rfl, nofun, fun _ i => ?_⟩
          by_cases hi : handle.toNat = i
          · subst hi
            rw [hentry, if_pos rfl, ← not_not.mp hvalue]
            rfl
          · rw [if_neg hi]

/-- A save makes its target the active page exactly when it returns true. -/
theorem save_activeSlot (storage : FlashParamStorage) (flash : Flash) (snapshot : ParamStorageSnapshot)
    (outcome : SaveOutcome) :
    ((storage.save flash snapshot outcome).2.2 = .returned true →
        (storage.save flash snapshot outcome).2.1.activeSlot = some storage.target) ∧
      ((storage.save flash snapshot outcome).2.2 ≠ .returned true →
        (storage.save flash snapshot outcome).2.1.activeSlot = storage.activeSlot) := by
  have hwritten := (FlashParamStorage.writePage_cases snapshot outcome).2
  have hrefused : ∀ {result : SaveResult}, result ≠ .returned true →
      (result = .returned true → storage.activeSlot = some storage.target) ∧
        (result ≠ .returned true → storage.activeSlot = storage.activeSlot) :=
    fun hnot => ⟨fun h => absurd h hnot, fun _ => rfl⟩
  have hfalse : SaveResult.returned false ≠ .returned true := by decide
  have hlost : SaveResult.powerLost ≠ .returned true := by decide
  unfold FlashParamStorage.save
  split
  · exact hrefused hfalse
  · split
    · exact hrefused hfalse
    · split
      · exact hrefused hfalse
      · dsimp only
        cases outcome.erase with
        | failed left => exact hrefused hfalse
        | powerLoss left => exact hrefused hlost
        | done =>
            rcases hpage : FlashParamStorage.writePage snapshot outcome with ⟨page, result⟩
            rw [hpage] at hwritten
            cases result with
            | some result => exact hrefused fun h => hwritten (congrArg some h)
            | none =>
                dsimp only
                cases validate storage.slotSize page with
                | none => exact hrefused hfalse
                | some verified =>
                    dsimp only
                    split
                    · exact hrefused hfalse
                    · exact ⟨fun _ => rfl, fun h => absurd rfl h⟩

/-- The active page is not the target. -/
theorem target_ne_active (storage : FlashParamStorage) : storage.activeSlot ≠ some storage.target := by
  unfold FlashParamStorage.target
  split
  · rename_i ha
    rw [ha]
    decide
  · assumption

/-! ## The invariant -/

/-- What the log may be extended by. -/
def Permits (b : StartupRun) (earlier : List StartupEntry) : StartupEntry → Prop
  | .read i value => (latest StartupEntry.written earlier i).or (b.persisted i) = some value
  | .saved target newest => .loaded ∈ earlier ∧ newest ≠ some target
  | _ => True

/-- After the start-up. -/
structure Running (b s : StartupRun) : Prop where
  outside : ∀ task, ¬ (s.tasks task).InStartup
  initialized : s.manager.initialized = true
  loaded : StartupEntry.loaded ∈ s.log
  lawful : Lawful (Permits b) s.log
  values : ∀ i : Nat, s.manager.table[i]?.map ParamEntry.value =
    (latest StartupEntry.written s.log i).or (b.persisted i)
  active : s.storage.activeSlot = s.newest

/-- The three stages of a start-up from `b`, and what comes after it. -/
inductive Stage (b s : StartupRun) : Prop where
  | before (hsame : s = b)
  | starting (starter : Nat) (hstarter : s.tasks starter = .starting)
      (hothers : ∀ task, task ≠ starter → (s.tasks task).Idle)
      (hmanager : s.manager = b.manager.initializeBegin.1) (hlog : s.log = [])
      (hstorage : s.storage = b.storage) (hflash : s.flash = b.flash) (hnewest : s.newest = b.newest)
  | restoring (starter : Nat) (snapshot : ParamStorageSnapshot)
      (hstarter : s.tasks starter = .loaded snapshot)
      (hothers : ∀ task, task ≠ starter → (s.tasks task).Idle)
      (hmanager : s.manager = b.manager.initializeBegin.1) (hlog : s.log = [.loaded])
      (hload : (b.storage.load b.flash).2 = some snapshot)
      (hstorage : s.storage.activeSlot = s.newest)
  | running (hrunning : Running b s)

theorem StartupTask_idle_cases {state : StartupTask} (h : state.Idle) : state = .fresh ∨ state = .ready := by
  cases state with
  | fresh => exact Or.inl rfl
  | ready => exact Or.inr rfl
  | _ => exact h.elim

/-- The other tasks after a step of one. -/
theorem goto_tasks (s : StartupRun) (task other : Nat) (state : StartupTask) :
    (s.goto task state).tasks other = if other = task then state else s.tasks other := by
  rw [goto]
  dsimp only
  rw [Function.update_apply]

/-- A step moves its own task only. -/
theorem next_tasks (s : StartupRun) {a : StartupAct} {other : Nat} (h : other ≠ a.task) :
    (s.next a).tasks other = s.tasks other := by
  cases a <;> simp only [StartupAct.task] at h <;> simp only [StartupRun.next] <;> split <;>
    first
    | exact (goto_tasks _ _ _ _).trans (if_neg h)
    | rfl
    | (split <;> rfl)

/-- A task that stays outside of the start-up. -/
theorem Running.goto {b s : StartupRun} (h : Running b s) (task : Nat) {state : StartupTask}
    (hstate : ¬ state.InStartup) : Running b (s.goto task state) := by
  obtain ⟨outside, initialized, loaded, lawful, values, active⟩ := h
  refine ⟨fun other => ?_, initialized, loaded, lawful, values, active⟩
  rw [goto_tasks]
  split
  · exact hstate
  · exact outside other

/-- A setting. -/
theorem Running.withSet {b s : StartupRun} (h : Running b s) (handle : UInt16) {type : ParamType}
    {value : ParamValue} (now : UInt64) :
    Running b (s.withSet handle value (s.manager.setRaw handle type value.raw now)) := by
  obtain ⟨hinitialized, hrefused, haccepted⟩ := setRaw_spec s.manager handle type value.raw now
  unfold StartupRun.withSet
  generalize s.manager.setRaw handle type value.raw now = result at hinitialized hrefused haccepted ⊢
  obtain ⟨manager, accepted, published⟩ := result
  cases accepted with
  | false =>
      refine ⟨h.outside, hinitialized.trans h.initialized, h.loaded, h.lawful, fun i => ?_, h.active⟩
      rw [hrefused rfl]
      exact h.values i
  | true =>
      refine ⟨h.outside, hinitialized.trans h.initialized, List.mem_cons_of_mem _ h.loaded,
        ⟨trivial, h.lawful⟩, fun i => ?_, h.active⟩
      refine (haccepted rfl i).trans ?_
      simp only [if_true, latest_cons_of_some (show StartupEntry.written (.wrote handle.toNat value) =
        some (handle.toNat, value) from rfl)]
      by_cases hi : handle.toNat = i
      · rw [if_pos hi, if_pos hi]
        rfl
      · rw [if_neg hi, if_neg hi]
        exact h.values i

/-- Every step after the start-up. -/
theorem Running.next {b s : StartupRun} (h : Running b s) (a : StartupAct) : Running b (s.next a) := by
  cases a with
  | initializeBegin task =>
      -- the manager is initialised already: a second call answers false and changes nothing
      have hkept : s.manager.initializeBegin = (s.manager, false) := by
        rw [ParamManager.initializeBegin, if_pos h.initialized]
      simp only [StartupRun.next, hkept]
      split
      · exact h.goto task id
      · exact h.goto task id
      · exact h
  | storageLoad task =>
      simp only [StartupRun.next]
      split
      · rename_i htask
        exact (h.outside task (by rw [htask]; trivial)).elim
      · exact h
  | initializeEnd task =>
      simp only [StartupRun.next]
      split
      · rename_i htask
        exact (h.outside task (by rw [htask]; trivial)).elim
      · exact h
  | get task handle type =>
      simp only [StartupRun.next]
      split
      · rename_i entry _ hentry
        split
        · refine ⟨h.outside, h.initialized, List.mem_cons_of_mem _ h.loaded, ⟨?_, h.lawful⟩, ?_, h.active⟩
          · show (latest StartupEntry.written s.log handle.toNat).or (b.persisted handle.toNat) = _
            rw [← h.values, hentry]
            rfl
          · intro i
            rw [latest_cons_of_none rfl]
            exact h.values i
        · exact h
      · exact h
  | setInt task handle value now =>
      simp only [StartupRun.next]
      split
      · exact h.withSet handle now
      · exact h
  | setFloat task handle value now =>
      simp only [StartupRun.next]
      split
      · rw [ParamManager.setFloat]
        split
        · exact h
        · exact h.withSet handle now
      · exact h
  | saveBegin task =>
      simp only [StartupRun.next]
      split
      · exact h.goto task id
      · exact h
  | saveStore task outcome =>
      simp only [StartupRun.next]
      split
      · rename_i snapshot generation _
        obtain ⟨hmoved, hkept⟩ := save_activeSlot s.storage s.flash snapshot outcome
        generalize s.storage.save s.flash snapshot outcome = saved at hmoved hkept ⊢
        obtain ⟨flash, storage, result⟩ := saved
        -- the save goes to the slot that is not active
        have hlawful : Lawful (Permits b) (.saved s.storage.target s.newest :: s.log) := by
          refine ⟨⟨h.loaded, ?_⟩, h.lawful⟩
          rw [← h.active]
          exact target_ne_active s.storage
        have hrunning : Running b { s with
            flash, storage
            log := .saved s.storage.target s.newest :: s.log
            newest := if result = SaveResult.returned true then some s.storage.target else s.newest } := by
          refine ⟨h.outside, h.initialized, List.mem_cons_of_mem _ h.loaded, hlawful, h.values, ?_⟩
          show storage.activeSlot = if result = SaveResult.returned true then _ else _
          split
          · rename_i htrue
            exact hmoved htrue
          · rename_i hfalse
            exact (hkept hfalse).trans h.active
        refine hrunning.goto task ?_
        split
        · exact id
        · exact id
      · exact h
  | saveEnd task =>
      simp only [StartupRun.next]
      split
      · rename_i snapshot generation _
        have hrunning : Running b
            { s with manager := (s.manager.saveEnd snapshot generation).1 } :=
          ⟨h.outside, h.initialized, h.loaded, h.lawful, h.values, h.active⟩
        exact hrunning.goto task id
      · exact h

/-- While one task starts up and the others are patient, these do what they do to a manager that is
already claimed: nothing, or an early return. -/
theorem next_idle {s : StartupRun} (hclaimed : s.manager.initialized = true) {a : StartupAct}
    (hidle : (s.tasks a.task).Idle) (hpatient : s.Patient a) {starter : Nat}
    (hstarter : (s.tasks starter).InStartup) :
    s.next a = s ∨ s.next a = s.goto a.task .ready := by
  have hkept : s.manager.initializeBegin = (s.manager, false) := by
    rw [ParamManager.initializeBegin, if_pos hclaimed]
  rcases StartupTask_idle_cases hidle with htask | htask
  · cases a <;> simp only [StartupAct.task] at htask <;> simp [StartupRun.next, htask, hkept, StartupAct.task]
  · cases a with
    | initializeBegin task =>
        simp only [StartupAct.task] at htask
        exact Or.inr (by simp [StartupRun.next, htask, hkept, StartupAct.task])
    | get | setInt | setFloat | saveBegin => exact absurd hstarter (hpatient starter)
    | storageLoad | initializeEnd | saveStore | saveEnd =>
        simp only [StartupAct.task] at htask
        exact Or.inl (by simp [StartupRun.next, htask])

/-- The other tasks stay idle. -/
theorem goto_idle {s : StartupRun} {starter task : Nat} (hne : task ≠ starter)
    (hothers : ∀ task, task ≠ starter → (s.tasks task).Idle) :
    (s.goto task .ready).tasks starter = s.tasks starter ∧
      ∀ other, other ≠ starter → ((s.goto task .ready).tasks other).Idle := by
  refine ⟨?_, fun other hother => ?_⟩
  · rw [goto_tasks, if_neg hne.symm]
  · rw [goto_tasks]
    split
    · trivial
    · exact hothers other hother

theorem all_idle {s : StartupRun} {starter : Nat}
    (hothers : ∀ task, task ≠ starter → (s.tasks task).Idle) (task : Nat) :
    ((s.goto starter .ready).tasks task).Idle := by
  rw [goto_tasks]
  split
  · trivial
  · rename_i hne
    exact hothers task hne

/-- Nothing has happened yet but the load and the restore. -/
theorem Running.of_restored {b s : StartupRun} (hidle : ∀ task, (s.tasks task).Idle)
    (hinitialized : s.manager.initialized = true) (hlog : s.log = [.loaded])
    (htable : s.manager.table = ParamManager.restore b.manager.table (b.storage.load b.flash).2)
    (hactive : s.storage.activeSlot = s.newest) : Running b s := by
  refine ⟨fun task => ?_, hinitialized, ?_, ?_, fun i => ?_, hactive⟩
  · rcases StartupTask_idle_cases (hidle task) with htask | htask
    · rw [htask]
      exact id
    · rw [htask]
      exact id
  · rw [hlog]
    exact List.mem_singleton_self _
  · rw [hlog]
    exact ⟨trivial, trivial⟩
  · rw [hlog, latest_cons_of_none rfl, latest_nil, Option.none_or, htable, persisted]

/-- The starting task loads the storage. -/
theorem stage_load {manager : ParamManager} (hfresh : manager.Fresh) {slotSize : Nat} {flash : Flash}
    {s : StartupRun} {starter : Nat} (hstarter : s.tasks starter = .starting)
    (hothers : ∀ task, task ≠ starter → (s.tasks task).Idle)
    (hmanager : s.manager = (boot manager slotSize flash).manager.initializeBegin.1)
    (hclaimed : s.manager.initialized = true) (htable : s.manager.table = manager.table)
    (hlog : s.log = []) (hstorage : s.storage = (boot manager slotSize flash).storage)
    (hflash : s.flash = flash) (hnewest : s.newest = (boot manager slotSize flash).newest) :
    Stage (boot manager slotSize flash) (s.next (.storageLoad starter)) := by
  have hactive : (s.storage.load s.flash).1.activeSlot = s.newest := by
    rw [hstorage, hflash, hnewest]
    rfl
  have hresult : ((boot manager slotSize flash).storage.load (boot manager slotSize flash).flash).2 =
      (s.storage.load s.flash).2 := by
    rw [hstorage, hflash]
    rfl
  simp only [StartupRun.next, hstarter, hlog]
  generalize s.storage.load s.flash = loaded at hactive hresult ⊢
  obtain ⟨storage, result⟩ := loaded
  cases result with
  | some snapshot =>
      refine .restoring starter snapshot ?_ (fun other hother => ?_) hmanager rfl hresult hactive
      · rw [goto_tasks, if_pos rfl]
      · rw [goto_tasks, if_neg hother]
        exact hothers other hother
  | none =>
      -- no page holds a snapshot, and the values of a fresh manager are its defaults
      refine .running (Running.of_restored (all_idle hothers) hclaimed rfl ?_ hactive)
      rw [hresult]
      exact htable.trans hfresh.values.symm

/-- It restores what it has loaded. -/
theorem stage_restore {manager : ParamManager} (hfresh : manager.Fresh) {slotSize : Nat} {flash : Flash}
    {s : StartupRun} {starter : Nat} {snapshot : ParamStorageSnapshot}
    (hstarter : s.tasks starter = .loaded snapshot)
    (hothers : ∀ task, task ≠ starter → (s.tasks task).Idle)
    (hclaimed : s.manager.initialized = true) (htable : s.manager.table = manager.table)
    (hlog : s.log = [.loaded])
    (hload : ((boot manager slotSize flash).storage.load (boot manager slotSize flash).flash).2 =
      some snapshot)
    (hactive : s.storage.activeSlot = s.newest) :
    Stage (boot manager slotSize flash) (s.next (.initializeEnd starter)) := by
  simp only [StartupRun.next, hstarter]
  refine .running (Running.of_restored (all_idle hothers) hclaimed hlog ?_ hactive)
  rw [hload]
  show ParamManager.applySnapshot s.manager.table snapshot =
    ParamManager.applySnapshot (ParamManager.defaults manager.table) snapshot
  rw [htable, hfresh.values]

/-- Every other step of the task in the start-up does nothing. -/
theorem next_starter {s : StartupRun} {a : StartupAct} (h : (s.tasks a.task).InStartup) :
    s.next a = s ∨ (s.tasks a.task = .starting ∧ a = .storageLoad a.task) ∨
      ∃ snapshot, s.tasks a.task = .loaded snapshot ∧ a = .initializeEnd a.task := by
  cases htask : s.tasks a.task with
  | starting =>
      cases a with
      | storageLoad task => exact Or.inr (Or.inl ⟨rfl, rfl⟩)
      | _ =>
          simp only [StartupAct.task] at htask
          exact Or.inl (by simp only [StartupRun.next, htask])
  | loaded snapshot =>
      cases a with
      | initializeEnd task => exact Or.inr (Or.inr ⟨snapshot, rfl, rfl⟩)
      | _ =>
          simp only [StartupAct.task] at htask
          exact Or.inl (by simp only [StartupRun.next, htask])
  | _ =>
      rw [htask] at h
      exact h.elim

/-- The start-up goes through its stages, as long as the others are patient. -/
theorem stage_next {manager : ParamManager} (hfresh : manager.Fresh) {slotSize : Nat} {flash : Flash}
    {s : StartupRun} (h : Stage (boot manager slotSize flash) s) {a : StartupAct} (hpatient : s.Patient a) :
    Stage (boot manager slotSize flash) (s.next a) := by
  have hbegin : (boot manager slotSize flash).manager.initializeBegin =
      ({ manager with storage := true, initialized := true }, true) := by
    rw [ParamManager.initializeBegin, if_neg]
    · rfl
    · show ¬ manager.initialized = true
      rw [hfresh.initialized]
      decide
  -- the manager is claimed from the first step on, so nobody else can start up
  have hclaimed : s.manager = (boot manager slotSize flash).manager.initializeBegin.1 →
      s.manager.initialized = true ∧ s.manager.table = manager.table := by
    intro hmanager
    rw [hmanager, hbegin]
    exact ⟨rfl, rfl⟩
  cases h with
  | running hrunning => exact .running (hrunning.next a)
  | before hsame =>
      subst hsame
      cases a with
      | initializeBegin task =>
          refine .starting task ?_ (fun other hother => ?_) rfl rfl rfl rfl rfl
          · show (StartupRun.goto _ task _).tasks task = _
            rw [goto_tasks, if_pos rfl, hbegin]
            rfl
          · show StartupTask.Idle ((StartupRun.goto _ task _).tasks other)
            rw [goto_tasks, if_neg hother]
            trivial
      | _ => exact .before rfl
  | starting starter hstarter hothers hmanager hlog hstorage hflash hnewest =>
      obtain ⟨hinitialized, htable⟩ := hclaimed hmanager
      have hin : (s.tasks starter).InStartup := by
        rw [hstarter]
        trivial
      by_cases htask : a.task = starter
      · subst htask
        rcases next_starter hin with hsame | ⟨-, hact⟩ | ⟨snapshot, hloaded, -⟩
        · rw [hsame]
          exact .starting a.task hstarter hothers hmanager hlog hstorage hflash hnewest
        · rw [hact]
          exact stage_load hfresh hstarter hothers hmanager hinitialized htable hlog hstorage hflash hnewest
        · rw [hstarter] at hloaded
          cases hloaded
      · -- another task takes a step
        rcases next_idle hinitialized (hothers _ htask) hpatient hin with hsame | hready
        · rw [hsame]
          exact .starting starter hstarter hothers hmanager hlog hstorage hflash hnewest
        · obtain ⟨hstarter', hothers'⟩ := goto_idle htask hothers
          rw [hready]
          exact .starting starter (hstarter'.trans hstarter) hothers' hmanager hlog hstorage hflash hnewest
  | restoring starter snapshot hstarter hothers hmanager hlog hload hactive =>
      obtain ⟨hinitialized, htable⟩ := hclaimed hmanager
      have hin : (s.tasks starter).InStartup := by
        rw [hstarter]
        trivial
      by_cases htask : a.task = starter
      · subst htask
        rcases next_starter hin with hsame | ⟨hstarting, -⟩ | ⟨-, -, hact⟩
        · rw [hsame]
          exact .restoring a.task snapshot hstarter hothers hmanager hlog hload hactive
        · rw [hstarter] at hstarting
          cases hstarting
        · rw [hact]
          exact stage_restore hfresh hstarter hothers hinitialized htable hlog hload hactive
      · rcases next_idle hinitialized (hothers _ htask) hpatient hin with hsame | hready
        · rw [hsame]
          exact .restoring starter snapshot hstarter hothers hmanager hlog hload hactive
        · obtain ⟨hstarter', hothers'⟩ := goto_idle htask hothers
          rw [hready]
          exact .restoring starter snapshot (hstarter'.trans hstarter) hothers' hmanager hlog hload hactive

/-- In every run in which nobody uses the parameters while a start-up is under way, the start-up is free of
races. -/
theorem race_free {manager : ParamManager} (hfresh : manager.Fresh) {slotSize : Nat} {flash : Flash}
    {s : StartupRun} (h : ((system (boot manager slotSize flash)).restrict Patient).Reachable s) :
    RaceFree (boot manager slotSize flash) s := by
  have hstage : Stage (boot manager slotSize flash) s := by
    refine h.invariant (Stage (boot manager slotSize flash)) (fun s hs => .before hs) ?_
    rintro s a t - hs ⟨hpatient, rfl⟩
    exact stage_next hfresh hs hpatient
  have hlawful : Lawful (Permits (boot manager slotSize flash)) s.log ∧
      ∀ i value, latest StartupEntry.written s.log i = some value →
        s.manager.table[i]?.map ParamEntry.value = some value := by
    cases hstage with
    | before hsame =>
        subst hsame
        exact ⟨trivial, fun i value hwritten => nomatch hwritten⟩
    | starting starter hstarter hothers hmanager hlog hstorage hflash hnewest =>
        rw [hlog]
        exact ⟨trivial, fun i value hwritten => nomatch hwritten⟩
    | restoring starter snapshot hstarter hothers hmanager hlog hload hactive =>
        rw [hlog]
        exact ⟨⟨trivial, trivial⟩, fun i value hwritten => nomatch hwritten⟩
    | running hrunning =>
        refine ⟨hrunning.lawful, fun i value hwritten => ?_⟩
        rw [hrunning.values, hwritten, Option.some_or]
  obtain ⟨hpermitted, hsettings⟩ := hlawful
  rw [lawful_iff_forall_split] at hpermitted
  refine ⟨fun later i value earlier hlog hnone => ?_, hsettings, fun later target newest earlier hlog => ?_⟩
  · have hread : (latest StartupEntry.written earlier i).or _ = some value :=
      hpermitted later _ earlier hlog
    rwa [hnone, Option.none_or] at hread
  · exact hpermitted later _ earlier hlog

/-! A flash on which `RC_MAP_ROLL`, parameter 81, is saved as 2, on the first page. -/

def savedFlash : Flash :=
  ((⟨131072, none⟩ : FlashParamStorage).save (fun _ => Page.erased)
    (ParamManager.makeSnapshot (ParamManager.construct.setInt 81 2 1000).1.table 1) {}).1

def powerUp : StartupRun := boot ParamManager.construct 131072 savedFlash

/-- The first task has finished when the second one comes. -/
def inTurn : StartupRun :=
  [.initializeBegin 0, .storageLoad 0, .initializeEnd 0, .initializeBegin 1].foldl next powerUp

theorem inTurn_outside (task : Nat) : ¬ (inTurn.tasks task).InStartup := by
  have htasks : inTurn.tasks 0 = .ready ∧ inTurn.tasks 1 = .ready := by decide +kernel
  by_cases hfirst : task = 0
  · rw [hfirst, htasks.1]
    exact id
  · by_cases hsecond : task = 1
    · rw [hsecond, htasks.2]
      exact id
    · have hfresh : inTurn.tasks task = powerUp.tasks task := by
        rw [inTurn, List.foldl_cons, List.foldl_cons, List.foldl_cons, List.foldl_cons, List.foldl_nil,
          next_tasks _ hsecond, next_tasks _ hfirst, next_tasks _ hfirst, next_tasks _ hfirst]
      rw [hfresh]
      exact id

/-- The second task reads what is persisted. -/
theorem race_free_in_turn :
    RaceFree powerUp (inTurn.next (.get 1 81 .int32)) ∧
      (inTurn.next (.get 1 81 .int32)).log = [.read 81 (.ofInteger 2), .loaded] := by
  refine ⟨race_free ParamManager.construct_fresh ?_, by decide +kernel⟩
  have hturn : ((system powerUp).restrict Patient).Reachable inTurn :=
    Transition.Reachable.foldl_restrict (.start rfl) ⟨trivial, trivial, trivial, trivial, trivial⟩
  exact .next (a := .get 1 81 .int32) hturn ⟨inTurn_outside, rfl⟩

/-- A second task that is let in early: it reads a default although 2 is persisted, and its own setting
is overwritten. -/
def overtakenRun : StartupRun :=
  [.initializeBegin 0, .initializeBegin 1, .get 1 81 .int32, .setInt 1 81 3 1000, .storageLoad 0,
    .initializeEnd 0].foldl next powerUp

/-- A second task whose save comes before the load, on the page of the only snapshot. -/
def erasingRun : StartupRun :=
  [.initializeBegin 0, .initializeBegin 1, .setInt 1 81 3 1000, .saveBegin 1, .saveStore 1 {}].foldl next
    powerUp

/-- The early return breaks all three promises. -/
theorem early_return_races :
    ((system powerUp).Reachable overtakenRun ∧ (system powerUp).Reachable erasingRun) ∧
    (powerUp.persisted 81 = some (.ofInteger 2) ∧
      StartupEntry.read 81 (.ofInteger 1) ∈ overtakenRun.log) ∧
    (latest StartupEntry.written overtakenRun.log 81 = some (.ofInteger 3) ∧
      overtakenRun.manager.table[81]?.map ParamEntry.value = some (.ofInteger 2)) ∧
    erasingRun.log = [.saved .a (some .a), .wrote 81 (.ofInteger 3)] := by
  have hstart : (system powerUp).Reachable powerUp := .start rfl
  exact ⟨⟨hstart.foldl _, hstart.foldl _⟩, by decide +kernel, by decide +kernel, by decide +kernel⟩

end StartupRun

end DualMagneticWheel
