/-
# DualMagneticWheel.Params.Notifications — what `parameter_update` says of the manager

Any number of tasks change, save and load parameters. Each changes the manager under its lock and
publishes afterwards without it, with the generation and the saved flag it saw. A step is one critical
section, one call into the storage or one publication; the storage may answer as it likes.

A notification that is delayed behind a later one, a `setDefault` on a clean manager and a save that was
overtaken twice leave a last message that contradicts the manager (`notification_contradicts`). Without
these the last message tells the truth whenever no operation is in progress (`notification_truthful`).
-/
import DualMagneticWheel.Foundation.Transition
import DualMagneticWheel.Orb.Topic
import DualMagneticWheel.Params.Definitions

namespace DualMagneticWheel

open Foundation

/-! ## Tasks -/

/-- Where a task is. `stamp` is the number of the change to be published, and `valuesChanged` says
whether it has changed a value. -/
inductive WriterTask where
  | idle
  /-- `reset` knows the default and has not written it. -/
  | resetting (handle : UInt16) (type : ParamType) (rawValue : UInt32)
  /-- `save` has taken its snapshot. -/
  | captured (snapshot : ParamStorageSnapshot) (generation : UInt32)
  /-- The storage has saved the snapshot. -/
  | stored (snapshot : ParamStorageSnapshot) (generation : UInt32)
  /-- `load` has found a storage. -/
  | loading
  /-- The storage has returned a snapshot. -/
  | loaded (snapshot : ParamStorageSnapshot)
  /-- The manager's lock is released and `publishUpdate` is still to come. -/
  | publishing (generation : UInt32) (saved : Bool) (stamp : Nat) (valuesChanged : Bool)

namespace WriterTask

def isPublishing : WriterTask → Bool
  | publishing _ _ _ _ => true
  | _ => false

/-- The number of the change that is to be published. -/
def stamp? : WriterTask → Option Nat
  | publishing _ _ stamp _ => some stamp
  | _ => none

/-- The generation of the snapshot that is in the storage. -/
def storedGeneration? : WriterTask → Option UInt32
  | stored _ generation => some generation
  | _ => none

/-- The task is between changing a value and publishing its notification. -/
def owesNotification : WriterTask → Bool
  | publishing _ _ _ valuesChanged => valuesChanged
  | _ => false

end WriterTask

/-- The manager, the topic and the tasks. `stamps` counts the changes that are to be published, `latest`
is the number of the change that was published last, and `published` counts the publications. -/
structure ParamBus where
  manager : ParamManager
  topic : Topic ParameterUpdate := ⟨{}, 0, false⟩
  tasks : Nat → WriterTask := fun _ => .idle
  stamps : Nat := 0
  latest : Nat := 0
  published : Nat := 0

/-- One critical section, storage call or publication of a task. -/
inductive WriterEvent where
  | setInt (task : Nat) (handle : UInt16) (value : Int32) (now : UInt64)
  | setFloat (task : Nat) (handle : UInt16) (value : Float32) (now : UInt64)
  | setDefaultInt (task : Nat) (handle : UInt16) (value : Int32)
  | setDefaultFloat (task : Nat) (handle : UInt16) (value : Float32)
  | resetBegin (task : Nat) (handle : UInt16)
  | resetEnd (task : Nat) (now : UInt64)
  | resetAll (task : Nat) (now : UInt64)
  | saveBegin (task : Nat)
  | saveStore (task : Nat) (ok : Bool)
  | saveEnd (task : Nat)
  | loadBegin (task : Nat)
  | loadRead (task : Nat) (result : Option ParamStorageSnapshot)
  | loadEnd (task : Nat)
  | publish (task : Nat) (now : UInt64)

/-- The task of an event. -/
def WriterEvent.task : WriterEvent → Nat
  | setInt task _ _ _ | setFloat task _ _ _ | setDefaultInt task _ _ | setDefaultFloat task _ _
  | resetBegin task _ | resetEnd task _ | resetAll task _ | saveBegin task | saveStore task _
  | saveEnd task | loadBegin task | loadRead task _ | loadEnd task | publish task _ => task

namespace ParamBus

/-- The task goes on. -/
def goto (s : ParamBus) (task : Nat) (state : WriterTask) : ParamBus :=
  { s with tasks := Function.update s.tasks task state }

/-- The end of a critical section after which a notification is to be published. -/
def announce (s : ParamBus) (task : Nat) (manager : ParamManager) (generation : UInt32)
    (saved : Bool) : ParamBus :=
  { s with manager, stamps := s.stamps + 1 }.goto task
    (.publishing generation saved (s.stamps + 1)
      (manager.table.map ParamEntry.value != s.manager.table.map ParamEntry.value))

/-- The end of a critical section that publishes `saved = false` if the generation moved. -/
def finish (s : ParamBus) (task : Nat) (result : ParamManager × Option UInt32) : ParamBus :=
  match result.2 with
  | some generation => s.announce task result.1 generation false
  | none => { s with manager := result.1 }.goto task .idle

/-- `publishUpdate`. -/
def publishUpdate (s : ParamBus) (task : Nat) (generation : UInt32) (saved : Bool) (stamp : Nat)
    (now : UInt64) : ParamBus :=
  { s with
    topic := s.topic.publish { timestamp := now, generation, saved }
    latest := stamp
    published := s.published + 1 }.goto task .idle

/-- One event of a task; an event that does not fit the task's state does nothing. -/
def next (s : ParamBus) : WriterEvent → ParamBus
  | .setInt task handle value now =>
      match s.tasks task with
      | .idle =>
          let (manager, _, published) := s.manager.setInt handle value now
          s.finish task (manager, published)
      | _ => s
  | .setFloat task handle value now =>
      match s.tasks task with
      | .idle =>
          let (manager, _, published) := s.manager.setFloat handle value now
          s.finish task (manager, published)
      | _ => s
  | .setDefaultInt task handle value =>
      match s.tasks task with
      | .idle =>
          let (manager, _, published) := s.manager.setDefaultInt handle value
          s.finish task (manager, published)
      | _ => s
  | .setDefaultFloat task handle value =>
      match s.tasks task with
      | .idle =>
          let (manager, _, published) := s.manager.setDefaultFloat handle value
          s.finish task (manager, published)
      | _ => s
  | .resetBegin task handle =>
      match s.tasks task, s.manager.resetBegin handle with
      | .idle, some (type, rawValue) => s.goto task (.resetting handle type rawValue)
      | _, _ => s
  | .resetEnd task now =>
      match s.tasks task with
      | .resetting handle type rawValue =>
          let (manager, _, published) := s.manager.setRaw handle type rawValue now
          s.finish task (manager, published)
      | _ => s
  | .resetAll task now =>
      match s.tasks task with
      | .idle => s.finish task (s.manager.resetAll now)
      | _ => s
  | .saveBegin task =>
      match s.tasks task with
      | .idle =>
          match s.manager.saveBegin with
          | .captured snapshot generation => s.goto task (.captured snapshot generation)
          | _ => s
      | _ => s
  | .saveStore task ok =>
      match s.tasks task with
      | .captured snapshot generation =>
          s.goto task (if ok then .stored snapshot generation else .idle)
      | _ => s
  | .saveEnd task =>
      match s.tasks task with
      | .stored snapshot generation =>
          let (manager, generation, allSaved) := s.manager.saveEnd snapshot generation
          s.announce task manager generation allSaved
      | _ => s
  | .loadBegin task =>
      match s.tasks task with
      | .idle => if s.manager.loadBegin then s.goto task .loading else s
      | _ => s
  | .loadRead task result =>
      match s.tasks task with
      | .loading =>
          match result with
          | some snapshot => s.goto task (.loaded snapshot)
          | none => s.goto task .idle
      | _ => s
  | .loadEnd task =>
      match s.tasks task with
      | .loaded snapshot =>
          let (manager, generation) := s.manager.loadEnd snapshot
          s.announce task manager generation true
      | _ => s
  | .publish task now =>
      match s.tasks task with
      | .publishing generation saved stamp _ => s.publishUpdate task generation saved stamp now
      | _ => s

/-- After `initialize` on a storage that loads this. -/
def boot (firmware : ParamManager) (loaded : Option ParamStorageSnapshot) : ParamBus where
  manager :=
    match loaded with
    | some snapshot => firmware.initializeBegin.1.initializeEnd snapshot
    | none => firmware.initializeBegin.1

/-- All runs after `initialize`. -/
def system : Transition ParamBus WriterEvent :=
  Transition.ofFun (fun s => ∃ firmware loaded, firmware.Fresh ∧ s = boot firmware loaded) next

@[simp] theorem goto_self (s : ParamBus) (task : Nat) (state : WriterTask) :
    (s.goto task state).tasks task = state := Function.update_self ..

theorem goto_of_ne (s : ParamBus) {task other : Nat} (h : other ≠ task) (state : WriterTask) :
    (s.goto task state).tasks other = s.tasks other := Function.update_of_ne h ..

/-! ## What a step can do -/

/-- A default of this parameter would change. -/
def MovesDefault (m : ParamManager) (handle : UInt16) (type : ParamType) (rawValue : UInt32) : Prop :=
  ∃ entry ∈ m.table[handle.toNat]?, entry.type = type ∧ entry.defaultValue.raw ≠ rawValue

instance (m : ParamManager) (handle : UInt16) (type : ParamType) (rawValue : UInt32) :
    Decidable (MovesDefault m handle type rawValue) :=
  inferInstanceAs (Decidable (∃ entry ∈ m.table[handle.toNat]?, _))

/-- A notification is published before any later one; a default is changed while there is something to
save; and a save that finds that a change has overtaken its snapshot finds it still to be saved. -/
def Orderly (s : ParamBus) : WriterEvent → Prop
  | .setDefaultInt _ handle value =>
      MovesDefault s.manager handle .int32 (ParamValue.ofInteger value).raw → s.manager.dirty = true
  | .setDefaultFloat _ handle value => value.isFinite = true →
      MovesDefault s.manager handle .float (ParamValue.ofReal value).raw → s.manager.dirty = true
  | .saveEnd task => ∀ generation ∈ (s.tasks task).storedGeneration?,
      s.manager.generation ≠ generation → s.manager.dirty = true
  | .publish task _ => ∀ stamp ∈ (s.tasks task).stamp?, s.latest < stamp
  | _ => True

instance (s : ParamBus) : (e : WriterEvent) → Decidable (s.Orderly e)
  | .setDefaultInt _ handle value => inferInstanceAs (Decidable (MovesDefault s.manager handle
      .int32 (ParamValue.ofInteger value).raw → s.manager.dirty = true))
  | .setDefaultFloat _ handle value => inferInstanceAs (Decidable (value.isFinite = true →
      MovesDefault s.manager handle .float (ParamValue.ofReal value).raw →
        s.manager.dirty = true))
  | .saveEnd task => Option.decidableForallMem (s.tasks task).storedGeneration?
  | .publish task _ => Option.decidableForallMem (s.tasks task).stamp?
  | .setInt _ _ _ _ | .setFloat _ _ _ _ | .resetBegin _ _ | .resetEnd _ _ | .resetAll _ _
  | .saveBegin _ | .saveStore _ _ | .loadBegin _ | .loadRead _ _ | .loadEnd _ =>
      inferInstanceAs (Decidable True)

/-- What an event of a task does. In an orderly step the flag that is to be published is right. -/
inductive Stepped (s : ParamBus) (task : Nat) (orderly : Prop) : ParamBus → Prop
  | ignored : Stepped s task orderly s
  | silent (state : WriterTask) : (s.tasks task).isPublishing = false →
      state.isPublishing = false → Stepped s task orderly (s.goto task state)
  | announced (manager : ParamManager) (generation : UInt32) (saved : Bool) :
      (s.tasks task).isPublishing = false → generation = manager.generation →
      ParamTable.SameShape s.manager.table manager.table → (orderly → saved = !manager.dirty) →
      Stepped s task orderly (s.announce task manager generation saved)
  | published (generation : UInt32) (saved : Bool) (stamp : Nat) (valuesChanged : Bool)
      (now : UInt64) : s.tasks task = .publishing generation saved stamp valuesChanged →
      (orderly → s.latest < stamp) →
      Stepped s task orderly (s.publishUpdate task generation saved stamp now)

theorem sameShape_of_definitions {t u : ParamTable}
    (h : ParamManager.definitions t = ParamManager.definitions u) : ParamTable.SameShape t u := by
  have hfirst := congrArg (List.map fun d : CString × ParamType × ParamValue => (d.1, d.2.1)) h
  rw [ParamManager.definitions, ParamManager.definitions, List.map_map, List.map_map] at hfirst
  exact hfirst

theorem finish_stepped {s : ParamBus} {task : Nat} {orderly : Prop}
    {result : ParamManager × Option UInt32} (htask : (s.tasks task).isPublishing = false)
    (hnone : result.2 = none → result.1 = s.manager)
    (hsome : ∀ generation, result.2 = some generation → generation = result.1.generation ∧
      ParamTable.SameShape s.manager.table result.1.table ∧ (orderly → result.1.dirty = true)) :
    Stepped s task orderly (s.finish task result) := by
  unfold finish
  cases hresult : result.2 with
  | none =>
      dsimp only
      rw [hnone hresult]
      exact .silent .idle htask rfl
  | some generation =>
      obtain ⟨hgeneration, hshape, hdirty⟩ := hsome generation hresult
      refine .announced result.1 generation false htask hgeneration hshape ?_
      intro h
      rw [hdirty h]
      rfl

/-- A change of values marks the manager. -/
theorem changes_stepped {s : ParamBus} {task : Nat} {orderly : Prop}
    {result : ParamManager × Option UInt32} (htask : (s.tasks task).isPublishing = false)
    (h : s.manager.Changes result) : Stepped s task orderly (s.finish task result) := by
  refine finish_stepped htask ?_ ?_
  · intro hnone
    cases h with
    | nothing => rfl
    | touched => cases hnone
  · intro generation hsome
    cases h with
    | nothing => cases hsome
    | touched now hsame =>
        cases hsome
        exact ⟨rfl, sameShape_of_definitions hsame.symm, fun _ => rfl⟩

/-- A change of a default leaves the mark as it is. -/
theorem setDefaultRaw_stepped {s : ParamBus} {task : Nat} {orderly : Prop}
    (htask : (s.tasks task).isPublishing = false) (handle : UInt16) (type : ParamType)
    (rawValue : UInt32)
    (horderly : orderly → MovesDefault s.manager handle type rawValue → s.manager.dirty = true) :
    Stepped s task orderly (s.finish task ((s.manager.setDefaultRaw handle type rawValue).1,
      (s.manager.setDefaultRaw handle type rawValue).2.2)) := by
  unfold ParamManager.setDefaultRaw
  cases hentry : s.manager.table[handle.toNat]? with
  | none => exact finish_stepped htask (fun _ => rfl) nofun
  | some entry =>
      dsimp only
      split
      · exact finish_stepped htask (fun _ => rfl) nofun
      · rename_i htype
        split
        · exact finish_stepped htask (fun _ => rfl) nofun
        · rename_i hmoves
          refine finish_stepped htask nofun ?_
          intro generation hsome
          cases hsome
          refine ⟨rfl, ?_, fun h => horderly h ⟨entry, hentry, Decidable.not_not.mp htype, hmoves⟩⟩
          refine (map_set (f := fun e : ParamEntry => (e.name, e.type)) hentry ?_).symm
          rfl

theorem not_publishing {s : ParamBus} {task : Nat} {state : WriterTask} (h : s.tasks task = state)
    (hstate : state.isPublishing = false) : (s.tasks task).isPublishing = false := by
  rw [h, hstate]

theorem next_stepped (s : ParamBus) (e : WriterEvent) : Stepped s e.task (s.Orderly e) (s.next e) := by
  cases e with
  | setInt task handle value now =>
      simp only [next]
      split
      · rename_i hidle
        refine changes_stepped (not_publishing hidle rfl) ?_
        exact s.manager.setRaw_changes handle _ _ now
      · exact .ignored
  | setFloat task handle value now =>
      simp only [next]
      split
      · rename_i hidle
        refine changes_stepped (not_publishing hidle rfl) ?_
        unfold ParamManager.setFloat
        split
        · exact .nothing
        · exact s.manager.setRaw_changes handle _ _ now
      · exact .ignored
  | setDefaultInt task handle value =>
      simp only [next]
      split
      · rename_i hidle
        exact setDefaultRaw_stepped (not_publishing hidle rfl) handle .int32 _ fun h => h
      · exact .ignored
  | setDefaultFloat task handle value =>
      simp only [next]
      split
      · rename_i hidle
        have htask : (s.tasks task).isPublishing = false := not_publishing hidle rfl
        unfold ParamManager.setDefaultFloat
        cases hfinite : value.isFinite with
        | false => exact finish_stepped htask (fun _ => rfl) nofun
        | true => exact setDefaultRaw_stepped htask handle .float _ fun h => h hfinite
      · exact .ignored
  | resetBegin task handle =>
      simp only [next]
      split
      · rename_i hidle _
        exact .silent _ (not_publishing hidle rfl) rfl
      · exact .ignored
  | resetEnd task now =>
      simp only [next]
      split
      · rename_i handle type rawValue hresetting
        exact changes_stepped (not_publishing hresetting rfl) (s.manager.setRaw_changes handle type _ now)
      · exact .ignored
  | resetAll task now =>
      simp only [next]
      split
      · rename_i hidle
        exact changes_stepped (not_publishing hidle rfl) (s.manager.resetAll_changes now)
      · exact .ignored
  | saveBegin task =>
      simp only [next]
      split
      · rename_i hidle
        split
        · exact .silent _ (not_publishing hidle rfl) rfl
        · exact .ignored
      · exact .ignored
  | saveStore task ok =>
      simp only [next]
      split
      · rename_i hcaptured
        refine .silent _ (not_publishing hcaptured rfl) ?_
        split
        · rfl
        · rfl
      · exact .ignored
  | saveEnd task =>
      simp only [next]
      split
      · rename_i snapshot generation hstored
        -- a save tells of its snapshot, and says saved only if that is still the table
        refine .announced _ _ _ (not_publishing hstored rfl) rfl (ParamTable.SameShape.refl _) ?_
        intro horderly
        have hdirty := horderly generation (by rw [hstored]; rfl)
        unfold ParamManager.saveEnd
        cases hsame : s.manager.generation == generation with
        | true => rfl
        | false =>
            dsimp only
            rw [hdirty (by simpa using hsame)]
            rfl
      · exact .ignored
  | loadBegin task =>
      simp only [next]
      split
      · rename_i hidle
        split
        · exact .silent _ (not_publishing hidle rfl) rfl
        · exact .ignored
      · exact .ignored
  | loadRead task result =>
      simp only [next]
      split
      · rename_i hloading
        split
        · exact .silent _ (not_publishing hloading rfl) rfl
        · exact .silent _ (not_publishing hloading rfl) rfl
      · exact .ignored
  | loadEnd task =>
      simp only [next]
      split
      · rename_i snapshot hloaded
        refine .announced _ _ _ (not_publishing hloaded rfl) rfl ?_ fun _ => rfl
        -- a load changes values only
        refine sameShape_of_definitions ?_
        exact ((ParamManager.definitions_applySnapshot _ _).trans
          (ParamManager.definitions_defaults _)).symm
      · exact .ignored
  | publish task now =>
      simp only [next]
      split
      · rename_i generation saved stamp valuesChanged hpublishing
        refine .published generation saved stamp valuesChanged now hpublishing ?_
        intro horderly
        exact horderly stamp (by rw [hpublishing]; rfl)
      · exact .ignored

/-! ## The last message -/

/-- Right after `initialize` on an erased memory. -/
def started : ParamBus := boot ParamManager.construct none

theorem started_reachable : system.Reachable started :=
  .start ⟨_, _, ParamManager.construct_fresh, rfl⟩

/-- No operation is in progress, and the last message is what the manager says. -/
def Agrees (s : ParamBus) : Prop :=
  (∀ task, s.tasks task = .idle) → s.topic.advertised = true →
    s.topic.message.generation = s.manager.generation ∧ s.topic.message.saved = !s.manager.dirty

/-- Other tasks stay where they are. -/
theorem next_tasks (s : ParamBus) {e : WriterEvent} {other : Nat} (h : other ≠ e.task) :
    (s.next e).tasks other = s.tasks other := by
  have hstep := next_stepped s e
  generalize s.next e = t at hstep
  cases hstep with
  | ignored => rfl
  | silent state => exact goto_of_ne s h state
  | announced => exact goto_of_ne _ h _
  | published => exact goto_of_ne _ h _

/-- A publication ends the operation. -/
theorem publish_idle {s : ParamBus} {task : Nat} (h : (s.tasks task).isPublishing = true)
    (now : UInt64) : (s.next (.publish task now)).tasks task = .idle := by
  simp only [next]
  split
  · exact goto_self ..
  · rename_i hnot
    cases hstate : s.tasks task with
    | publishing generation saved stamp valuesChanged => exact absurd hstate (hnot _ _ _ _)
    | _ => simp [hstate, WriterTask.isPublishing] at h

/-- `setDefault` on it, before the notification. -/
def changedDefault : ParamBus := started.next (.setDefaultInt 0 81 2)

/-- `setDefault` on the manager after `initialize`: nothing is to be saved, and the message says that
something is. -/
theorem notification_contradicts : ¬ ∀ s, system.Reachable s → Agrees s := by
  intro h
  have hreachable : system.Reachable (changedDefault.next (.publish 0 1000)) :=
    .next (.next started_reachable rfl) rfl
  have hidle : ∀ task, (changedDefault.next (.publish 0 1000)).tasks task = .idle := by
    intro task
    by_cases hzero : task = 0
    · subst hzero
      exact publish_idle (s := changedDefault) (by decide +kernel) 1000
    · rw [next_tasks changedDefault hzero, changedDefault, next_tasks started hzero]
      rfl
  have hagrees := (h _ hreachable hidle (by decide +kernel)).2
  revert hagrees
  decide +kernel

/-- The latest change is still to be published, rightly, or it has been. -/
structure Told (s : ParamBus) : Prop where
  bounded : ∀ task generation saved stamp valuesChanged,
    s.tasks task = .publishing generation saved stamp valuesChanged → stamp ≤ s.stamps
  latest :
    (∃ task valuesChanged, s.tasks task =
      .publishing s.manager.generation (!s.manager.dirty) s.stamps valuesChanged) ∨
    s.latest = s.stamps ∧ (s.topic.advertised = true →
      s.topic.message.generation = s.manager.generation ∧
        s.topic.message.saved = !s.manager.dirty)

/-- A task that goes on to something else than a publication owes none. -/
theorem publishing_goto {s : ParamBus} {task other : Nat} {state : WriterTask}
    (hstate : state.isPublishing = false) {generation : UInt32} {saved : Bool} {stamp : Nat}
    {valuesChanged : Bool}
    (h : (s.goto task state).tasks other = .publishing generation saved stamp valuesChanged) :
    other ≠ task ∧ s.tasks other = .publishing generation saved stamp valuesChanged := by
  by_cases hother : other = task
  · subst hother
    rw [goto_self] at h
    rw [h] at hstate
    cases hstate
  · rw [goto_of_ne s hother] at h
    exact ⟨hother, h⟩

theorem Told.step {s t : ParamBus} {task : Nat} {orderly : Prop} (hs : Told s) (horderly : orderly)
    (h : Stepped s task orderly t) : Told t := by
  cases h with
  | ignored => exact hs
  | silent state htask hstate =>
      refine ⟨?_, ?_⟩
      · intro other generation saved stamp valuesChanged hother
        exact hs.bounded _ _ _ _ _ (publishing_goto hstate hother).2
      · rcases hs.latest with ⟨other, valuesChanged, hother⟩ | hlatest
        · refine Or.inl ⟨other, valuesChanged, ?_⟩
          -- the task with the latest message is not the one that moves, which holds none
          have hne : other ≠ task := by
            rintro rfl
            rw [hother] at htask
            cases htask
          exact (goto_of_ne s hne state).trans hother
        · exact Or.inr hlatest
  | announced manager generation saved htask hgeneration hshape htrue =>
      refine ⟨?_, Or.inl ⟨task,
        manager.table.map ParamEntry.value != s.manager.table.map ParamEntry.value, ?_⟩⟩
      · intro other generation' saved' stamp' valuesChanged' hother
        show stamp' ≤ s.stamps + 1
        by_cases hne : other = task
        · subst hne
          rw [announce, goto_self] at hother
          cases hother
          exact Nat.le_refl _
        · rw [announce, goto_of_ne _ hne] at hother
          exact Nat.le_succ_of_le (hs.bounded _ _ _ _ _ hother)
      · rw [announce, goto_self, hgeneration, htrue horderly]
        rfl
  | published generation saved stamp valuesChanged now htask hinorder =>
      have hlater := hinorder horderly
      have hstamp := hs.bounded _ _ _ _ _ htask
      refine ⟨?_, ?_⟩
      · intro other generation' saved' stamp' valuesChanged' hother
        exact hs.bounded _ _ _ _ _ (@publishing_goto _ task other .idle rfl _ _ _ _ hother).2
      · rcases hs.latest with ⟨other, valuesChanged', hother⟩ | ⟨hlatest, -⟩
        · by_cases hne : other = task
          · -- the latest change is the one that is published
            subst hne
            rw [hother] at htask
            cases htask
            exact Or.inr ⟨rfl, fun _ => ⟨rfl, rfl⟩⟩
          · exact Or.inl ⟨other, valuesChanged', (goto_of_ne _ hne _).trans hother⟩
        · omega

theorem boot_told (firmware : ParamManager) (loaded : Option ParamStorageSnapshot) :
    Told (boot firmware loaded) where
  bounded _ _ _ _ _ h := by cases h
  latest := Or.inr ⟨rfl, nofun⟩

/-- In every run of orderly steps: whenever no operation is in progress and a message has been published,
the last one has the manager's generation and says whether there is anything to save. -/
theorem notification_truthful {s : ParamBus} (h : (system.restrict Orderly).Reachable s)
    (hidle : ∀ task, s.tasks task = .idle) (hpublished : s.topic.advertised = true) :
    s.topic.message.generation = s.manager.generation ∧
      s.topic.message.saved = !s.manager.dirty := by
  have htold : Told s := by
    refine h.invariant Told ?_ ?_
    · rintro _ ⟨firmware, loaded, -, rfl⟩
      exact boot_told firmware loaded
    · rintro s e _ - hs ⟨horderly, rfl⟩
      exact hs.step horderly (next_stepped s e)
  rcases htold.latest with ⟨task, valuesChanged, htask⟩ | ⟨-, htruth⟩
  · rw [hidle task] at htask
    cases htask
  · exact htruth hpublished

/-- A parameter that is set after `initialize`: the message has generation 1 and says that something is to
be saved. -/
theorem notification_truthful_set :
    let s := (started.next (.setInt 0 81 2 1000)).next (.publish 0 1001)
    s.topic.message.generation = s.manager.generation ∧
      s.topic.message.saved = !s.manager.dirty := by
  have hset : (system.restrict Orderly).Reachable (started.next (.setInt 0 81 2 1000)) :=
    .next (s := started) (a := .setInt 0 81 2 1000)
      (.start ⟨_, _, ParamManager.construct_fresh, rfl⟩) ⟨trivial, rfl⟩
  refine notification_truthful (.next hset ⟨by decide +kernel, rfl⟩) ?_ (by decide +kernel)
  intro task
  by_cases hzero : task = 0
  · subst hzero
    exact publish_idle (s := started.next (.setInt 0 81 2 1000)) (by decide +kernel) 1001
  · rw [next_tasks _ hzero, next_tasks started hzero]
    rfl

end ParamBus

end DualMagneticWheel
