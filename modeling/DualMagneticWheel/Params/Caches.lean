/-
# DualMagneticWheel.Params.Caches — do the parameters of a module follow the manager

A module keeps a tree of `ParamInt` and `ParamFloat` objects. Its constructor refreshes each of them once;
afterwards a `Run` that finds a new `parameter_update` refreshes the whole tree. Each refresh looks a
handle up and reads a value, in critical sections of their own, while any number of tasks change
parameters and publish later.

A cached value that is not the manager's is always accounted for (`Accounted`): a task still owes a
notification, or there is one that the module has not read, or the refresh of this object is still to come.
-/
import DualMagneticWheel.Params.Notifications

namespace DualMagneticWheel

open Foundation

/-! ## The parameter tree -/

/-- `ModuleParams`: the parameters of a node and its children, in the order of the two linked lists. -/
inductive ParamTree (ι : Type) where
  | node (params : List ι) (children : List (ParamTree ι))

namespace ParamTree

variable {ι : Type}

mutual

/-- The order of `updateParams`. -/
def order : ParamTree ι → List ι
  | node params children => params ++ orderAll children

def orderAll : List (ParamTree ι) → List ι
  | [] => []
  | child :: children => order child ++ orderAll children

end

end ParamTree

/-- A `ParamInt` or a `ParamFloat`. -/
inductive ParamObject where
  | int (p : ParamInt)
  | float (p : ParamFloat)

namespace ParamObject

def name : ParamObject → CString
  | int p => p.name
  | float p => p.name

def type : ParamObject → ParamType
  | int _ => .int32
  | float _ => .float

def handle : ParamObject → Option Nat
  | int p => p.handle
  | float p => p.handle

/-- `ensureHandle`, the first half of `update`. -/
def look (t : ParamTable) : ParamObject → ParamObject
  | int p => int { p with handle := p.ensureHandle t }
  | float p => float { p with handle := p.ensureHandle t }

/-- `get` with the cached handle, the second half of `update`. -/
def fetch (t : ParamTable) : ParamObject → ParamObject
  | int p =>
      match t.getInt p.handle with
      | some value => int { p with value }
      | none => int p
  | float p =>
      match t.getFloat p.handle with
      | some value => float { p with value }
      | none => float p

/-- The cached value is the manager's. -/
def Current (t : ParamTable) : ParamObject → Prop
  | int p => t.lookupInt p.name = some p.value
  | float p => t.lookupFloat p.name = some p.value

end ParamObject

/-! ## A module -/

/-- What the constructor of a module makes: the objects with their names and fallbacks in the order of
their declarations, each of them and no other in the tree. -/
structure CachedModule (ι : Type) where
  tree : ParamTree ι
  declared : List ι
  object : ι → ParamObject
  complete : ∀ i ∈ tree.order, i ∈ declared
  unknown : ∀ i, (object i).handle = none

/-- Where the module is. -/
inductive CacheStage (ι : Type) where
  | absent
  /-- The constructor or `updateParams` still has these to refresh; `found` says whether the handle of the
  first is looked up. -/
  | updating (todo : List ι) (found : Bool)
  | waiting
  deriving DecidableEq

/-- The objects that are still to be refreshed. -/
def CacheStage.todo {ι : Type} : CacheStage ι → List ι
  | updating todo _ => todo
  | absent | waiting => []

theorem CacheStage.updating_ne {ι : Type} {todo todo' : List ι} :
    updating todo false ≠ updating todo' true :=
  fun h => Bool.false_ne_true (updating.inj h).2

/-- The manager with its tasks, and the module. `seen` is the number of publications when the subscription
was read last. -/
structure CacheRun (ι : Type) where
  bus : ParamBus
  stage : CacheStage ι := .absent
  subscription : Subscription := {}
  seen : Nat := 0
  object : ι → ParamObject

/-- An event of a task, or a step of the module. -/
inductive CacheEvent where
  | writer (e : WriterEvent)
  | construct
  | run
  | look
  | fetch
  | leave

namespace CacheRun

variable {ι : Type} [DecidableEq ι]

/-- One step; a step that does not fit the module's stage does nothing. -/
def next (c : CachedModule ι) (s : CacheRun ι) : CacheEvent → CacheRun ι
  | .writer e => { s with bus := s.bus.next e }
  | .construct =>
      match s.stage with
      | .absent => { s with stage := .updating c.declared false }
      | _ => s
  | .run =>
      match s.stage with
      | .waiting =>
          let reading := s.subscription.update s.bus.topic {}
          if reading.updated then
            { s with
              stage := .updating c.tree.order false
              subscription := reading.subscription, seen := s.bus.published }
          else s
      | _ => s
  | .look =>
      match s.stage with
      | .updating (i :: todo) false =>
          { s with
            stage := .updating (i :: todo) true
            object := Function.update s.object i ((s.object i).look s.bus.manager.table) }
      | _ => s
  | .fetch =>
      match s.stage with
      | .updating (i :: todo) true =>
          { s with
            stage := .updating todo false
            object := Function.update s.object i ((s.object i).fetch s.bus.manager.table) }
      | _ => s
  | .leave =>
      match s.stage with
      | .updating [] _ => { s with stage := .waiting }
      | _ => s

/-- Every parameter of the tree is in the table, with its type. -/
def Registered (c : CachedModule ι) (t : ParamTable) : Prop :=
  ∀ i ∈ c.tree.order, ∃ entry ∈ t, entry.name = (c.object i).name ∧ entry.type = (c.object i).type

/-- All runs after `initialize`, with a module whose parameters are registered. -/
def system (c : CachedModule ι) : Transition (CacheRun ι) CacheEvent :=
  Transition.ofFun
    (fun s => ∃ firmware loaded, firmware.Fresh ∧ Registered c firmware.table ∧
      s = { bus := ParamBus.boot firmware loaded, object := c.object })
    (next c)

end CacheRun

/-! ## What the tasks do to a reader -/

namespace ParamBus

/-- A task is between changing a value and publishing its notification. -/
def Owes (s : ParamBus) : Prop := ∃ task, (s.tasks task).owesNotification = true

/-- The definitions stay; a changed value is owed a notification; what is owed stays owed until it is
published. -/
structure Progress (s t : ParamBus) : Prop where
  shape : ParamTable.SameShape s.manager.table t.manager.table
  values : t.manager.table.map ParamEntry.value = s.manager.table.map ParamEntry.value ∨ t.Owes
  owes : s.Owes → t.Owes ∨ t.published = s.published + 1
  topic : t.published = s.published ∧ t.topic = s.topic ∨
    ∃ message, t.published = s.published + 1 ∧ t.topic = s.topic.publish message

/-- A task that owes nothing leaves what the others owe. -/
theorem owes_goto {s : ParamBus} {task : Nat} (htask : (s.tasks task).isPublishing = false)
    (state : WriterTask) (h : s.Owes) : (s.goto task state).Owes := by
  obtain ⟨other, hother⟩ := h
  have hne : other ≠ task := by
    rintro rfl
    cases hstate : s.tasks other with
    | publishing => rw [hstate] at htask; cases htask
    | _ => rw [hstate] at hother; cases hother
  exact ⟨other, by rw [goto_of_ne s hne, hother]⟩

theorem next_progress (s : ParamBus) (e : WriterEvent) : Progress s (s.next e) := by
  have hstep := next_stepped s e
  generalize s.next e = t at hstep
  cases hstep with
  | ignored => exact ⟨.refl _, Or.inl rfl, Or.inl, Or.inl ⟨rfl, rfl⟩⟩
  | silent state htask hstate =>
      exact ⟨.refl _, Or.inl rfl, fun h => Or.inl (owes_goto htask state h), Or.inl ⟨rfl, rfl⟩⟩
  | announced manager generation saved htask hgeneration hshape htrue =>
      refine ⟨hshape, ?_, fun h => Or.inl ?_, Or.inl ⟨rfl, rfl⟩⟩
      · cases hchanged : manager.table.map ParamEntry.value !=
            s.manager.table.map ParamEntry.value with
        | false => exact Or.inl (bne_eq_false_iff_eq.mp hchanged)
        | true => exact Or.inr ⟨e.task, by rw [announce, goto_self]; exact hchanged⟩
      · exact owes_goto (s := { s with manager, stamps := s.stamps + 1 }) htask _ h
  | published generation saved stamp valuesChanged now htask =>
      exact ⟨.refl _, Or.inl rfl, fun _ => Or.inr rfl, Or.inr ⟨_, rfl, rfl⟩⟩

end ParamBus

namespace ParamTable

/-- Reading by a handle depends on the types and the values. -/
theorem getTyped_congr {V : Type} {t u : ParamTable} (hshape : SameShape t u)
    (hvalues : t.map ParamEntry.value = u.map ParamEntry.value) (type : ParamType)
    (read : ParamValue → V) (handle : Option Nat) :
    t.getTyped type read handle = u.getTyped type read handle := by
  cases handle with
  | none => rfl
  | some h =>
      have htype := congrArg (·[h]?) hshape
      have hvalue := congrArg (·[h]?) hvalues
      simp only [List.getElem?_map] at htype hvalue
      simp only [getTyped, Option.bind_some]
      cases ht : t[h]? with
      | none =>
          rw [ht] at htype
          rw [Option.map_eq_none_iff.mp htype.symm]
      | some x =>
          rw [ht] at htype hvalue
          obtain ⟨y, hy, hsame⟩ := Option.map_eq_some_iff.mp htype.symm
          rw [hy] at hvalue
          have heq : x.value = y.value := Option.some.inj hvalue
          have hsame' : y.type = x.type := congrArg Prod.snd hsame
          rw [hy]
          dsimp only
          rw [heq, hsame']

end ParamTable

namespace ParamObject

/-- The parameter is in the table with its type. -/
def Known (t : ParamTable) (p : ParamObject) : Prop :=
  ∃ h entry, t.find p.name = some h ∧ t[h]? = some entry ∧ entry.type = p.type

theorem current_congr {t u : ParamTable} (hshape : ParamTable.SameShape t u)
    (hvalues : t.map ParamEntry.value = u.map ParamEntry.value) {p : ParamObject}
    (h : p.Current t) : p.Current u := by
  cases p with
  | int p =>
      refine Eq.trans ?_ h
      show u.getInt (u.find p.name) = t.getInt (t.find p.name)
      rw [ParamTable.find_eq_of_sameShape hshape]
      exact (ParamTable.getTyped_congr hshape hvalues _ _ _).symm
  | float p =>
      refine Eq.trans ?_ h
      show u.getFloat (u.find p.name) = t.getFloat (t.find p.name)
      rw [ParamTable.find_eq_of_sameShape hshape]
      exact (ParamTable.getTyped_congr hshape hvalues _ _ _).symm

theorem Known.congr {t u : ParamTable} (hshape : ParamTable.SameShape t u) {p : ParamObject}
    (h : p.Known t) : p.Known u := by
  obtain ⟨i, entry, hfind, hentry, htype⟩ := h
  have hat := congrArg (·[i]?) hshape
  simp only [List.getElem?_map, hentry, Option.map_some] at hat
  obtain ⟨other, hother, hsame⟩ := Option.map_eq_some_iff.mp hat.symm
  refine ⟨i, other, ?_, hother, (congrArg Prod.snd hsame).trans htype⟩
  rw [← ParamTable.find_eq_of_sameShape hshape]
  exact hfind

/-- Of distinct names the registered one is found. -/
theorem known_of_mem {t : ParamTable} (hnames : (t.map ParamEntry.name).Nodup) {p : ParamObject}
    {entry : ParamEntry} (hmem : entry ∈ t) (hname : entry.name = p.name)
    (htype : entry.type = p.type) : p.Known t := by
  cases hfind : t.find p.name with
  | none =>
      have hnot := List.findIdx?_eq_none_iff.mp hfind entry hmem
      rw [hname] at hnot
      simp at hnot
  | some h =>
      obtain ⟨hlt, hmatch, -⟩ := List.findIdx?_eq_some_iff_getElem.mp hfind
      have hsame : t[h].name = p.name := by simpa using hmatch
      refine ⟨h, t[h], hfind, List.getElem?_eq_getElem hlt, ?_⟩
      rw [eq_of_key hnames (List.getElem_mem hlt) hmem (hsame.trans hname.symm), htype]

@[simp] theorem look_name (t : ParamTable) (p : ParamObject) : (p.look t).name = p.name := by
  cases p <;> rfl

@[simp] theorem look_type (t : ParamTable) (p : ParamObject) : (p.look t).type = p.type := by
  cases p <;> rfl

@[simp] theorem fetch_name (t : ParamTable) (p : ParamObject) : (p.fetch t).name = p.name := by
  cases p <;> (unfold fetch; dsimp only; split <;> rfl)

@[simp] theorem fetch_type (t : ParamTable) (p : ParamObject) : (p.fetch t).type = p.type := by
  cases p <;> (unfold fetch; dsimp only; split <;> rfl)

@[simp] theorem fetch_handle (t : ParamTable) (p : ParamObject) : (p.fetch t).handle = p.handle := by
  cases p <;> (unfold fetch; dsimp only; split <;> rfl)

theorem look_handle {t : ParamTable} {p : ParamObject}
    (h : p.handle = none ∨ p.handle = t.find p.name) : (p.look t).handle = t.find p.name := by
  cases p with
  | int p => exact Param.ensureHandle_eq h
  | float p => exact Param.ensureHandle_eq h

/-- Reading with the right handle makes a known parameter current. -/
theorem fetch_current {t : ParamTable} {p : ParamObject} (hknown : p.Known t)
    (hhandle : p.handle = t.find p.name) : (p.fetch t).Current t := by
  obtain ⟨h, entry, hfind, hentry, htype⟩ := hknown
  cases p with
  | int p =>
      have hget : t.getInt (t.find p.name) = some entry.value.integer := by
        rw [show t.find p.name = some h from hfind]
        simp only [ParamTable.getInt, ParamTable.getTyped, Option.bind_some, hentry]
        exact if_pos htype
      have hread : t.getInt p.handle = some entry.value.integer := by
        rw [show p.handle = t.find p.name from hhandle, hget]
      simp only [fetch, hread]
      exact hget
  | float p =>
      have hget : t.getFloat (t.find p.name) = some entry.value.real := by
        rw [show t.find p.name = some h from hfind]
        simp only [ParamTable.getFloat, ParamTable.getTyped, Option.bind_some, hentry]
        exact if_pos htype
      have hread : t.getFloat p.handle = some entry.value.real := by
        rw [show p.handle = t.find p.name from hhandle, hget]
      simp only [fetch, hread]
      exact hget

end ParamObject

/-! ## Every stale value is accounted for -/

namespace CacheRun

variable {ι : Type} [DecidableEq ι] {c : CachedModule ι}

/-- The cached value is the manager's, or its refresh is still to come, or a notification is owed, or one
is not read yet. -/
def Accounted (s : CacheRun ι) (i : ι) : Prop :=
  (s.object i).Current s.bus.manager.table ∨ i ∈ s.stage.todo ∨ s.bus.Owes ∨
    s.seen ≠ s.bus.published

/-- The invariant. -/
structure Sound (c : CachedModule ι) (s : CacheRun ι) : Prop where
  known : ∀ i ∈ c.tree.order, (s.object i).Known s.bus.manager.table
  coherent : ∀ i, (s.object i).handle = none ∨
    (s.object i).handle = s.bus.manager.table.find (s.object i).name
  found : ∀ i todo, s.stage = .updating (i :: todo) true →
    (s.object i).handle = s.bus.manager.table.find (s.object i).name
  accounted : s.stage ≠ .absent → ∀ i ∈ c.tree.order, s.Accounted i
  generation : s.bus.topic.generation = UInt32.ofNat s.bus.published
  advertised : s.bus.topic.advertised = true ↔ s.bus.published ≠ 0
  seen_le : s.seen ≤ s.bus.published
  subscription : s.subscription = ⟨UInt32.ofNat s.seen⟩

omit [DecidableEq ι] in
theorem Sound.writer {s : CacheRun ι} (h : Sound c s) (e : WriterEvent) :
    Sound c { s with bus := s.bus.next e } := by
  have hprogress := s.bus.next_progress e
  generalize s.bus.next e = bus at hprogress
  have hfind := ParamTable.find_eq_of_sameShape hprogress.shape
  -- the writers only publish; what the module has seen is theirs from before
  have hle : s.seen ≤ bus.published := by
    rcases hprogress.topic with ⟨heq, -⟩ | ⟨_, heq, -⟩
    · rw [heq]
      exact h.seen_le
    · rw [heq]
      exact Nat.le_succ_of_le h.seen_le
  refine ⟨fun i hi => (h.known i hi).congr hprogress.shape, ?_, ?_, ?_, ?_, ?_, hle, h.subscription⟩
  · intro i
    rw [← hfind]
    exact h.coherent i
  · intro i todo hstage
    rw [← hfind]
    exact h.found i todo hstage
  · intro hstage i hi
    rcases h.accounted hstage i hi with hcurrent | htodo | howes | hunread
    · rcases hprogress.values with hvalues | howes
      · exact Or.inl (ParamObject.current_congr hprogress.shape hvalues.symm hcurrent)
      · exact Or.inr (Or.inr (Or.inl howes))
    · exact Or.inr (Or.inl htodo)
    · rcases hprogress.owes howes with howes | hgrown
      · exact Or.inr (Or.inr (Or.inl howes))
      · -- the notification is published: the module has not read it
        refine Or.inr (Or.inr (Or.inr ?_))
        have hseen := h.seen_le
        show s.seen ≠ bus.published
        omega
    · refine Or.inr (Or.inr (Or.inr ?_))
      have hseen := h.seen_le
      show s.seen ≠ bus.published
      rcases hprogress.topic with ⟨heq, -⟩ | ⟨_, heq, -⟩
      · rw [heq]
        exact hunread
      · omega
  · rcases hprogress.topic with ⟨heq, htopic⟩ | ⟨_, heq, htopic⟩
    · rw [heq, htopic]
      exact h.generation
    · rw [heq, htopic, Topic.publish_generation, h.generation, UInt32.ofNat_add]
      rfl
  · rcases hprogress.topic with ⟨heq, htopic⟩ | ⟨_, heq, htopic⟩
    · rw [heq, htopic]
      exact h.advertised
    · rw [heq, htopic]
      exact ⟨fun _ => Nat.succ_ne_zero _, fun _ => rfl⟩

/-- An object goes through one half of its refresh: afterwards it is current or still to come. -/
theorem Sound.refresh {s : CacheRun ι} (h : Sound c s) {i : ι} {p : ParamObject}
    {stage : CacheStage ι} (hname : p.name = (s.object i).name) (htype : p.type = (s.object i).type)
    (hhandle : p.handle = s.bus.manager.table.find (s.object i).name)
    (hdone : i ∈ c.tree.order → p.Current s.bus.manager.table ∨ i ∈ stage.todo)
    (hfound : ∀ j todo, stage = .updating (j :: todo) true → j = i)
    (htodo : ∀ j, j ≠ i → j ∈ s.stage.todo → j ∈ stage.todo) (hstage : s.stage ≠ .absent) :
    Sound c { s with stage, object := Function.update s.object i p } := by
  have hself : Function.update s.object i p i = p := Function.update_self ..
  have hother : ∀ {j}, j ≠ i → Function.update s.object i p j = s.object j :=
    fun hne => Function.update_of_ne hne ..
  refine ⟨?_, ?_, ?_, ?_, h.generation, h.advertised, h.seen_le, h.subscription⟩
  · intro j hj
    show (Function.update s.object i p j).Known _
    by_cases hji : j = i
    · subst hji
      rw [hself]
      obtain ⟨k, entry, hfind, hentry, hsame⟩ := h.known j hj
      exact ⟨k, entry, by rw [hname, hfind], hentry, hsame.trans htype.symm⟩
    · rw [hother hji]
      exact h.known j hj
  · intro j
    show (Function.update s.object i p j).handle = none ∨
      (Function.update s.object i p j).handle =
        s.bus.manager.table.find (Function.update s.object i p j).name
    by_cases hji : j = i
    · subst hji
      rw [hself, hname]
      exact Or.inr hhandle
    · rw [hother hji]
      exact h.coherent j
  · intro j todo heq
    obtain rfl := hfound j todo heq
    show (Function.update s.object j p j).handle =
      s.bus.manager.table.find (Function.update s.object j p j).name
    rw [hself, hname]
    exact hhandle
  · intro _ j hj
    unfold Accounted
    by_cases hji : j = i
    · subst hji
      dsimp only
      rw [hself]
      exact (hdone hj).imp_right Or.inl
    · dsimp only
      rw [hother hji]
      exact (h.accounted hstage j hj).imp_right (Or.imp_left (htodo j hji))

theorem Sound.next {s : CacheRun ι} (h : Sound c s) (e : CacheEvent) : Sound c (s.next c e) := by
  cases e with
  | writer e => exact h.writer e
  | construct =>
      simp only [CacheRun.next]
      split
      · refine ⟨h.known, h.coherent, fun _ _ heq => absurd heq CacheStage.updating_ne, ?_, h.generation, h.advertised,
          h.seen_le, h.subscription⟩
        intro _ i hi
        exact Or.inr (Or.inl (c.complete i hi))
      · exact h
  | run =>
      simp only [CacheRun.next]
      split
      · rcases s.subscription.update_cases s.bus.topic {} with heq | ⟨-, heq⟩
        · rw [heq]
          exact h
        · rw [heq]
          dsimp only
          rw [if_pos rfl]
          -- all objects of the tree are to be refreshed
          refine ⟨h.known, h.coherent, fun _ _ heq => absurd heq CacheStage.updating_ne, ?_, h.generation, h.advertised,
            Nat.le_refl _, ?_⟩
          · intro _ i hi
            exact Or.inr (Or.inl hi)
          · exact congrArg Subscription.mk h.generation
      · exact h
  | look =>
      simp only [CacheRun.next]
      split
      · rename_i i todo hstage
        -- the object under refresh has its handle now, and stays on the list
        have hhandle := ParamObject.look_handle (h.coherent i)
        refine h.refresh (ParamObject.look_name ..) (ParamObject.look_type ..) hhandle
          (fun _ => Or.inr List.mem_cons_self) ?_ ?_ (by rw [hstage]; exact nofun)
        · intro j todo' heq
          cases heq
          rfl
        · intro j hne hmem
          rw [hstage] at hmem
          exact hmem
      · exact h
  | fetch =>
      simp only [CacheRun.next]
      split
      · rename_i i todo hstage
        -- it is read through the handle, and leaves the list with the current value
        have hhandle := h.found i todo hstage
        refine h.refresh (ParamObject.fetch_name ..) (ParamObject.fetch_type ..)
          ((ParamObject.fetch_handle ..).trans hhandle)
          (fun hi => Or.inl (ParamObject.fetch_current (h.known i hi) hhandle)) ?_ ?_
          (by rw [hstage]; exact nofun)
        · intro j todo' heq
          exact absurd heq CacheStage.updating_ne
        · intro j hne hmem
          rw [hstage] at hmem
          exact (List.mem_cons.mp hmem).resolve_left hne
      · exact h
  | leave =>
      simp only [CacheRun.next]
      split
      · rename_i found hstage
        refine ⟨h.known, h.coherent, nofun, ?_, h.generation, h.advertised, h.seen_le,
          h.subscription⟩
        intro _ i hi
        rcases h.accounted (by rw [hstage]; nofun) i hi with hcurrent | htodo | hrest
        · exact Or.inl hcurrent
        · rw [hstage] at htodo
          cases htodo
        · exact Or.inr (Or.inr hrest)
      · exact h

theorem reachable_converges {s : CacheRun ι} (h : (system c).Reachable s) : Sound c s := by
  refine h.invariant (Sound c) ?_ ?_
  · rintro _ ⟨firmware, loaded, hfresh, hregistered, rfl⟩
    have hsame : ParamManager.definitions (ParamBus.boot firmware loaded).manager.table =
        ParamManager.definitions firmware.table := by
      unfold ParamBus.boot ParamManager.initializeBegin
      rw [hfresh.initialized]
      cases loaded with
      | none => rfl
      | some snapshot => exact ParamManager.definitions_applySnapshot _ _
    refine ⟨?_, fun i => Or.inl (c.unknown i), nofun, fun hstage => absurd rfl hstage, rfl, ?_,
      Nat.le_refl _, rfl⟩
    · intro i hi
      obtain ⟨entry, hmem, hname, htype⟩ := hregistered i hi
      exact (ParamObject.known_of_mem hfresh.table.names hmem hname htype).congr
        (ParamBus.sameShape_of_definitions hsame.symm)
    · exact ⟨nofun, fun hne => absurd rfl hne⟩
  · rintro s e _ - hs rfl
    exact hs.next e

/-- In every interleaving: when the module is constructed and not in a `Run`, has read every notification
and no task owes one, every parameter of its tree has the manager's value. -/
theorem caches_converge {s : CacheRun ι} (h : (system c).Reachable s)
    (hcount : s.bus.published < 2 ^ 32)
    (hwriters : ∀ task, (s.bus.tasks task).owesNotification = false)
    (hwaiting : s.stage = .waiting)
    (hread : s.bus.topic.update s.subscription.generation = none) :
    ∀ i ∈ c.tree.order, (s.object i).Current s.bus.manager.table := by
  have hs := reachable_converges h
  have hle := hs.seen_le
  have hseen : s.seen = s.bus.published := by
    unfold Topic.update at hread
    rw [hs.subscription, hs.generation] at hread
    split at hread
    · rename_i hold
      rcases Bool.or_eq_true_iff.mp hold with hnone | hsame
      · -- nothing was ever published
        have hzero : s.bus.published = 0 := by
          by_contra hne
          rw [hs.advertised.mpr hne] at hnone
          cases hnone
        omega
      · have hnat := congrArg UInt32.toNat (eq_of_beq hsame)
        rw [UInt32.toNat_ofNat', UInt32.toNat_ofNat', Nat.mod_eq_of_lt (by omega),
          Nat.mod_eq_of_lt hcount] at hnat
        exact hnat
    · cases hread
  intro i hi
  rcases hs.accounted (by rw [hwaiting]; exact nofun) i hi with hcurrent | htodo | howes | hunread
  · exact hcurrent
  · rw [hwaiting] at htodo
    cases htodo
  · obtain ⟨task, htask⟩ := howes
    rw [hwriters task] at htask
    cases htask
  · exact absurd hseen hunread

/-- Only an event of a task changes the manager and its topic. -/
theorem next_bus (s : CacheRun ι) (e : CacheEvent) :
    (s.next c e).bus =
      match e with
      | .writer e => s.bus.next e
      | _ => s.bus := by
  cases e with
  | writer e => rfl
  | run =>
      simp only [CacheRun.next]
      split
      · split
        · rfl
        · rfl
      · rfl
  | construct | look | fetch | leave =>
      simp only [CacheRun.next]
      split
      · rfl
      · rfl

/-- A module with one parameter. -/
def rollModule : CachedModule Unit where
  tree := .node [()] []
  declared := [()]
  object _ := .int { name := cstr "RC_MAP_ROLL", value := 0 }
  complete _ h := h
  unknown _ := rfl

/-- It is constructed, the parameter is set, and a `Run` follows. -/
def rollRun : List CacheEvent :=
  [.construct, .look, .fetch, .leave, .writer (.setInt 0 81 2 1000), .writer (.publish 0 1001), .run,
    .look, .fetch, .leave]

/-- The state afterwards. -/
def rollResult : CacheRun Unit :=
  rollRun.foldl (next rollModule) { bus := ParamBus.started, object := rollModule.object }

theorem rollResult_reachable : (system rollModule).Reachable rollResult := by
  have hregistered : Registered rollModule ParamManager.construct.table := by
    rintro ⟨⟩ -
    decide +kernel
  have hstart : (system rollModule).Reachable
      { bus := ParamBus.started, object := rollModule.object } :=
    .start ⟨_, none, ParamManager.construct_fresh, hregistered, rfl⟩
  exact hstart.foldl rollRun

set_option maxRecDepth 4000 in
/-- After the `Run` it has the new value. -/
theorem caches_converge_roll : (rollResult.object ()).Current rollResult.bus.manager.table := by
  have hwriters : ∀ task, (rollResult.bus.tasks task).owesNotification = false := by
    intro task
    by_cases hzero : task = 0
    · subst hzero
      decide +kernel
    · simp only [rollResult, rollRun, List.foldl_cons, List.foldl_nil, next_bus]
      rw [ParamBus.next_tasks _ hzero, ParamBus.next_tasks _ hzero]
      rfl
  have hcount : rollResult.bus.published < 2 ^ 32 := by decide +kernel
  have hwaiting : rollResult.stage = .waiting := by decide +kernel
  have hread : rollResult.bus.topic.update rollResult.subscription.generation = none := by
    decide +kernel
  have hmem : () ∈ rollModule.tree.order := by decide
  exact caches_converge rollResult_reachable hcount hwriters hwaiting hread () hmem

end CacheRun

end DualMagneticWheel
