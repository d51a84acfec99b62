/-
# DualMagneticWheel.Params.Profile — do settings survive a reboot with a profile script

A profile script changes defaults after every boot. Whether a parameter is the user's is not recorded: a
value that equals the default is taken for the default, when a snapshot is made and when a default is
changed. So a stored value that happens to be a default of the boot sequence, the one of the firmware or
one that the script sets on the way, is carried off to the last default (`foldl_rebase_value`).

`survives_reboot` says that nothing else goes wrong: after a save that succeeded, a reboot gives back
every value exactly when each parameter is at its present default or at a value that no default of the
boot sequence takes.
-/
import DualMagneticWheel.Params.Definitions
import DualMagneticWheel.Params.Persistence

namespace DualMagneticWheel

open Foundation

/-! ## Scripts and users -/

/-- One `param set-default` of a profile script. -/
inductive DefaultCall where
  | int (handle : UInt16) (value : Int32)
  | float (handle : UInt16) (value : Float32)

/-- What a user does before saving. -/
inductive UserCall where
  | setInt (handle : UInt16) (value : Int32) (now : UInt64)
  | setFloat (handle : UInt16) (value : Float32) (now : UInt64)
  | reset (handle : UInt16) (now : UInt64)
  | resetAll (now : UInt64)

namespace ParamManager

/-- The manager after one line of a script. -/
def setDefault (m : ParamManager) : DefaultCall → ParamManager
  | .int handle value => (m.setDefaultInt handle value).1
  | .float handle value => (m.setDefaultFloat handle value).1

/-- The manager after a call of a user. -/
def userCall (m : ParamManager) : UserCall → ParamManager
  | .setInt handle value now => (m.setInt handle value now).1
  | .setFloat handle value now => (m.setFloat handle value now).1
  | .reset handle now => (m.reset handle now).1
  | .resetAll now => (m.resetAll now).1

/-! ### One parameter under a script -/

/-- What a new default does to its entry. -/
def rebase (entry : ParamEntry) (rawValue : UInt32) : ParamEntry :=
  if entry.defaultValue.raw = rawValue then entry
  else
    { entry with
      value := if entry.value.raw = entry.defaultValue.raw then ⟨rawValue⟩ else entry.value
      defaultValue := ⟨rawValue⟩ }

@[simp] theorem rebase_name (entry : ParamEntry) (rawValue : UInt32) :
    (rebase entry rawValue).name = entry.name := by
  unfold rebase
  split <;> rfl

@[simp] theorem rebase_type (entry : ParamEntry) (rawValue : UInt32) :
    (rebase entry rawValue).type = entry.type := by
  unfold rebase
  split <;> rfl

@[simp] theorem rebase_default (entry : ParamEntry) (rawValue : UInt32) :
    (rebase entry rawValue).defaultValue = ⟨rawValue⟩ := by
  unfold rebase
  split
  · rename_i hsame
    rw [← hsame]
  · rfl

/-- A value at the default moves along, any other stays. -/
theorem rebase_value (entry : ParamEntry) (rawValue : UInt32) :
    (rebase entry rawValue).value =
      if entry.value = entry.defaultValue then ⟨rawValue⟩ else entry.value := by
  obtain ⟨name, type, ⟨default⟩, ⟨value⟩⟩ := entry
  unfold rebase
  by_cases hsame : default = rawValue
  · subst hsame
    by_cases hvalue : value = default
    · simp [hvalue]
    · simp [hvalue]
  · by_cases hvalue : value = default
    · simp [hsame, hvalue]
    · simp [hsame, hvalue]

/-- Several defaults, one after another: the last one stays. -/
theorem foldl_rebase (raws : List UInt32) (entry : ParamEntry) :
    (raws.foldl rebase entry).name = entry.name ∧ (raws.foldl rebase entry).type = entry.type ∧
      (raws.foldl rebase entry).defaultValue = (raws.map ParamValue.mk).getLastD entry.defaultValue := by
  induction raws generalizing entry with
  | nil => exact ⟨rfl, rfl, rfl⟩
  | cons raw raws ih =>
      obtain ⟨hname, htype, hdefault⟩ := ih (rebase entry raw)
      rw [rebase_name] at hname
      rw [rebase_type] at htype
      rw [rebase_default] at hdefault
      refine ⟨hname, htype, ?_⟩
      rw [List.foldl_cons, hdefault, List.map_cons, List.getLastD_cons]

/-- A value that equals any default on the way ends at the last one. -/
theorem foldl_rebase_value (raws : List UInt32) (entry : ParamEntry) :
    (raws.foldl rebase entry).value =
      if entry.value.raw ∈ entry.defaultValue.raw :: raws then (raws.foldl rebase entry).defaultValue
      else entry.value := by
  induction raws generalizing entry with
  | nil =>
      by_cases hsame : entry.value.raw = entry.defaultValue.raw
      · rw [if_pos (by simpa using hsame)]
        exact congrArg ParamValue.mk hsame
      · rw [if_neg (by simpa using hsame)]
        rfl
  | cons raw raws ih =>
      rw [List.foldl_cons, ih, rebase_value, rebase_default]
      by_cases hdefault : entry.value = entry.defaultValue
      · -- the value tracks the default from here on
        rw [if_pos hdefault, if_pos List.mem_cons_self, if_pos (by rw [hdefault]; exact List.mem_cons_self)]
      · have hraw : entry.value.raw ≠ entry.defaultValue.raw := fun h => hdefault (congrArg ParamValue.mk h)
        rw [if_neg hdefault]
        simp only [List.mem_cons, hraw, false_or]

/-! ### The whole table under a script -/

/-- The default that a line proposes for a parameter, if it is about that one and is accepted. -/
def proposes (i : Nat) (type : ParamType) : DefaultCall → Option UInt32
  | .int handle value =>
      if handle.toNat = i ∧ type = .int32 then some (ParamValue.ofInteger value).raw else none
  | .float handle value =>
      if handle.toNat = i ∧ type = .float ∧ value.isFinite then some (ParamValue.ofReal value).raw
      else none

/-- The defaults that a script gives a parameter, in order. -/
def scriptDefaults (script : List DefaultCall) (i : Nat) (type : ParamType) : List UInt32 :=
  script.filterMap (proposes i type)

theorem setDefaultRaw_getElem? (m : ParamManager) (handle : UInt16) (type : ParamType)
    (rawValue : UInt32) (i : Nat) :
    (m.setDefaultRaw handle type rawValue).1.table[i]? =
      m.table[i]?.map fun entry =>
        if handle.toNat = i ∧ entry.type = type then rebase entry rawValue else entry := by
  unfold setDefaultRaw
  by_cases hi : handle.toNat = i
  · subst hi
    cases hentry : m.table[handle.toNat]? with
    | none => simp [hentry]
    | some entry =>
        obtain ⟨hlt, -⟩ := List.getElem?_eq_some_iff.mp hentry
        by_cases htype : entry.type = type
        · by_cases hdefault : entry.defaultValue.raw = rawValue
          · simp [hentry, htype, hdefault, rebase]
          · simp [htype, hdefault, rebase, hlt]
        · simp [hentry, htype]
  · have hkeep : ∀ entry' : ParamEntry, (m.table.set handle.toNat entry')[i]? = m.table[i]? :=
      fun entry' => List.getElem?_set_ne hi
    have hmap : (m.table[i]?.map fun entry =>
        if handle.toNat = i ∧ entry.type = type then rebase entry rawValue else entry) = m.table[i]? := by
      cases m.table[i]? <;> simp [hi]
    rw [hmap]
    split
    · rfl
    · split
      · rfl
      · split
        · rfl
        · exact hkeep _

theorem setDefault_getElem? (m : ParamManager) (call : DefaultCall) (i : Nat) :
    (m.setDefault call).table[i]? =
      m.table[i]?.map fun entry => ((proposes i entry.type call).elim entry (rebase entry)) := by
  cases call with
  | int handle value =>
      refine (setDefaultRaw_getElem? m handle .int32 _ i).trans ?_
      congr 1
      funext entry
      by_cases h : handle.toNat = i ∧ entry.type = .int32
      · simp [proposes, h]
      · simp [proposes, h]
  | float handle value =>
      rw [setDefault, setDefaultFloat]
      cases hfinite : value.isFinite with
      | false =>
          cases hentry : m.table[i]? with
          | none => simp [hentry]
          | some entry => simp [hentry, proposes, hfinite]
      | true =>
          refine (setDefaultRaw_getElem? m handle .float _ i).trans ?_
          congr 1
          funext entry
          by_cases h : handle.toNat = i ∧ entry.type = .float
          · simp [proposes, h, hfinite]
          · simp only [proposes, hfinite, and_true, if_neg h]
            rfl

/-- Every parameter goes through its own defaults. -/
theorem script_getElem? (script : List DefaultCall) (m : ParamManager) (i : Nat) :
    (script.foldl setDefault m).table[i]? =
      m.table[i]?.map fun entry => (scriptDefaults script i entry.type).foldl rebase entry := by
  induction script generalizing m with
  | nil => simp [scriptDefaults]
  | cons call script ih =>
      rw [List.foldl_cons, ih, setDefault_getElem?, Option.map_map]
      congr 1
      funext entry
      simp only [Function.comp, scriptDefaults]
      cases hcall : proposes i entry.type call with
      | none => simp [hcall]
      | some raw => simp [hcall]

theorem script_length (script : List DefaultCall) (m : ParamManager) :
    (script.foldl setDefault m).table.length = m.table.length := by
  have hbeyond : ∀ i : Nat, (script.foldl setDefault m).table[i]? = none ↔ m.table[i]? = none := by
    intro i
    rw [script_getElem?, Option.map_eq_none_iff]
  simp only [List.getElem?_eq_none_iff] at hbeyond
  exact Nat.le_antisymm ((hbeyond _).mpr (Nat.le_refl _)) ((hbeyond _).mp (Nat.le_refl _))

/-- A script touches neither the mark nor the sequence number. -/
theorem setDefaultRaw_rest (m : ParamManager) (handle : UInt16) (type : ParamType) (rawValue : UInt32) :
    (m.setDefaultRaw handle type rawValue).1.dirty = m.dirty ∧
      (m.setDefaultRaw handle type rawValue).1.storageSequence = m.storageSequence := by
  unfold setDefaultRaw
  split
  · exact ⟨rfl, rfl⟩
  · split
    · exact ⟨rfl, rfl⟩
    · split <;> exact ⟨rfl, rfl⟩

theorem script_rest (script : List DefaultCall) (m : ParamManager) :
    (script.foldl setDefault m).dirty = m.dirty ∧
      (script.foldl setDefault m).storageSequence = m.storageSequence := by
  induction script generalizing m with
  | nil => exact ⟨rfl, rfl⟩
  | cons call script ih =>
      obtain ⟨hdirty, hsequence⟩ := ih (m.setDefault call)
      have hcall : (m.setDefault call).dirty = m.dirty ∧
          (m.setDefault call).storageSequence = m.storageSequence := by
        cases call with
        | int handle value => exact setDefaultRaw_rest m handle .int32 _
        | float handle value =>
            rw [setDefault, setDefaultFloat]
            split
            · exact ⟨rfl, rfl⟩
            · exact setDefaultRaw_rest m handle .float _
      exact ⟨hdirty.trans hcall.1, hsequence.trans hcall.2⟩

/-! ### What users change -/

theorem userCall_changes (m : ParamManager) (call : UserCall) :
    ∃ published, m.Changes (m.userCall call, published) := by
  cases call with
  | setInt handle value now => exact ⟨_, m.setRaw_changes handle .int32 _ now⟩
  | setFloat handle value now =>
      rw [userCall, setFloat]
      split
      · exact ⟨none, .nothing⟩
      · exact ⟨_, m.setRaw_changes handle .float _ now⟩
  | reset handle now =>
      rw [userCall, reset]
      split
      · exact ⟨none, .nothing⟩
      · exact ⟨_, m.setRaw_changes handle _ _ now⟩
  | resetAll now => exact ⟨_, m.resetAll_changes now⟩

/-- Users change values only, and a manager that is still clean has not been changed. -/
theorem userCalls_spec (calls : List UserCall) (m : ParamManager) :
    definitions (calls.foldl userCall m).table = definitions m.table ∧
      (calls.foldl userCall m).storageSequence = m.storageSequence ∧
      ((calls.foldl userCall m).dirty = false → (calls.foldl userCall m).table = m.table ∧ m.dirty = false) := by
  induction calls generalizing m with
  | nil => exact ⟨rfl, rfl, fun h => ⟨rfl, h⟩⟩
  | cons call calls ih =>
      obtain ⟨hdefinitions, hsequence, hclean⟩ := ih (m.userCall call)
      obtain ⟨published, hchanges⟩ := m.userCall_changes call
      rw [List.foldl_cons]
      generalize m.userCall call = m' at hdefinitions hsequence hclean hchanges ⊢
      cases hchanges with
      | nothing => exact ⟨hdefinitions, hsequence, hclean⟩
      | touched now hsame =>
          refine ⟨hdefinitions.trans hsame, hsequence, fun h => ?_⟩
          exact absurd (hclean h).2 (by simp [touch])

/-! ### Restoring under other defaults -/

/-- A snapshot of one table restored into another that has the same parameters under other defaults. -/
theorem applySnapshot_other {firmware table : ParamTable} (hfirmware : WellFormed firmware)
    (htable : WellFormed table) (sequence : UInt32) {i : Nat} {old x : ParamEntry}
    (hold : firmware[i]? = some old) (hx : table[i]? = some x) (hname : old.name = x.name)
    (htype : old.type = x.type) :
    (applySnapshot firmware (makeSnapshot table sequence).stored)[i]? =
      some (if x.value = x.defaultValue then old else { old with value := x.value }) := by
  have hmem := List.mem_of_getElem? hx
  rw [(applySnapshot_makeSnapshot htable hfirmware sequence).2, List.getElem?_map, hold,
    Option.map_some, Option.some_inj]
  by_cases hsame : x.value = x.defaultValue
  · rw [if_pos hsame]
    refine carry_unchanged ?_
    intro other hother hsame' _
    obtain rfl := eq_of_key htable.names hmem hother (hname.symm.trans hsame')
    exact hsame
  · rw [if_neg hsame]
    exact carry_changed htable.names hmem hsame hname htype

end ParamManager

/-! ## Boots, saves and reboots -/

/-- A running system: the manager and the storage it was started on. -/
structure ProfileRun where
  manager : ParamManager
  flash : FlashRun

namespace ProfileRun

open ParamManager (scriptDefaults rebase definitions restore changed)

/-- A boot: `initialize` on the table of the firmware, then the script. -/
def boot (firmware : ParamManager) (script : List DefaultCall) (flash : FlashRun) : ProfileRun where
  manager := script.foldl ParamManager.setDefault (ParamRun.boot firmware flash).manager
  flash := (ParamRun.boot firmware flash).flash

/-- The calls of a user, one after another. -/
def user (calls : List UserCall) (s : ProfileRun) : ProfileRun :=
  { s with manager := calls.foldl ParamManager.userCall s.manager }

/-- `save` with nobody between its steps, with its result. -/
def save (outcome : SaveOutcome) (s : ProfileRun) : Bool × ProfileRun :=
  match s.manager.saveBegin with
  | .refused => (false, s)
  | .clean => (true, s)
  | .captured snapshot generation =>
      match s.flash.storage with
      | none => (false, s)
      | some storage =>
          let flash := s.flash.next (.save snapshot outcome)
          if (storage.save s.flash.flash snapshot outcome).2.2 = .returned true then
            (true, { manager := (s.manager.saveEnd snapshot generation).1, flash })
          else (false, { s with flash })

theorem save_eq {s : ProfileRun} {outcome : SaveOutcome} (h : (s.save outcome).1 = true) :
    s.save outcome = (true, (s.save outcome).2) := Prod.ext h rfl

/-- No parameter is at a default that the boot sequence leaves behind. -/
def NoCoincidence (firmware : ParamTable) (script : List DefaultCall) (table : ParamTable) : Prop :=
  ∀ i old entry, firmware[i]? = some old → table[i]? = some entry →
    entry.value = entry.defaultValue ∨
      entry.value.raw ∉ old.defaultValue.raw :: scriptDefaults script i old.type

variable {firmware : ParamManager} {flash : FlashRun}

/-- What the storage offers decides a boot. -/
theorem boot_getElem? (hfresh : firmware.Fresh) (script : List DefaultCall) (flash : FlashRun) (i : Nat) :
    (boot firmware script flash).manager.table[i]? =
      (restore firmware.table flash.loadResult)[i]?.map fun entry =>
        (scriptDefaults script i entry.type).foldl rebase entry := by
  obtain ⟨-, -, htable, -, -⟩ := ParamRun.boot_manager flash hfresh
  rw [boot, ParamManager.script_getElem?, htable]

/-- A restored parameter is the one of the firmware, up to its value. -/
theorem restore_getElem? {firmware : ParamTable} (loaded : Option ParamStorageSnapshot) {i : Nat}
    {entry : ParamEntry} (h : (restore firmware loaded)[i]? = some entry) :
    ∃ old, firmware[i]? = some old ∧ old.name = entry.name ∧ old.type = entry.type ∧
      old.defaultValue = entry.defaultValue := by
  have hsame : definitions (restore firmware loaded) = definitions firmware := by
    cases loaded with
    | none => exact ParamManager.definitions_defaults _
    | some snapshot =>
        exact (ParamManager.definitions_applySnapshot _ _).trans (ParamManager.definitions_defaults _)
  have hat := congrArg (·[i]?) hsame
  simp only [definitions, List.getElem?_map, h, Option.map_some] at hat
  obtain ⟨old, hold, heq⟩ := Option.map_eq_some_iff.mp hat.symm
  simp only [Prod.mk.injEq] at heq
  exact ⟨old, hold, heq.1, heq.2.1, heq.2.2⟩

/-- Before any user call, no parameter is at a default left behind. -/
theorem noCoincidence_boot (hfresh : firmware.Fresh) (script : List DefaultCall) (flash : FlashRun) :
    NoCoincidence firmware.table script (boot firmware script flash).manager.table := by
  intro i old entry hold hentry
  rw [boot_getElem? hfresh] at hentry
  obtain ⟨loaded, hloaded, rfl⟩ := Option.map_eq_some_iff.mp hentry
  obtain ⟨old', hold', -, htype, hdefault⟩ := restore_getElem? _ hloaded
  obtain rfl : old = old' := Option.some_inj.mp (hold.symm.trans hold')
  rw [htype, hdefault, ParamManager.foldl_rebase_value]
  split
  · exact Or.inl rfl
  · rename_i hnot
    exact Or.inr hnot

/-- A save that wrote: what the next boot loads. -/
theorem loadResult_save {s : FlashRun} (hs : s.Recoverable) {storage : FlashParamStorage}
    (hstorage : s.storage = some storage) {snapshot : ParamStorageSnapshot} {outcome : SaveOutcome}
    (hnext : ∀ last ∈ s.current, snapshot.sequence = last.sequence + 1)
    (hsaved : (storage.save s.flash snapshot outcome).2.2 = .returned true) :
    (s.next (.save snapshot outcome)).loadResult = some snapshot.stored := by
  have hdone : outcome.erase = .done := by
    rw [FlashParamStorage.save] at hsaved
    cases herase : outcome.erase with
    | done => rfl
    | failed left =>
        rw [herase] at hsaved
        split_ifs at hsaved <;> cases hsaved
    | powerLoss left =>
        rw [herase] at hsaved
        split_ifs at hsaved <;> cases hsaved
  have hkeeps : outcome.erase.Keeps s.slotSize (s.flash storage.target) := by
    rw [hdone]
    trivial
  obtain ⟨hcurrent, hrecent, hbooted, -⟩ := FlashRun.saveWith_true hsaved
  simp only [FlashRun.next, hstorage]
  rw [(hs.saveWith hstorage hnext hkeeps).loadResult_eq (hbooted.trans (hs.booted hstorage)) hrecent,
    hcurrent]

/-- A user finds the parameters of the firmware, under the defaults of the script. -/
theorem user_getElem? (hfresh : firmware.Fresh) {script : List DefaultCall} {calls : List UserCall} {i : Nat}
    {entry : ParamEntry}
    (h : ((boot firmware script flash).user calls).manager.table[i]? = some entry) :
    ∃ old, firmware.table[i]? = some old ∧ old.name = entry.name ∧ old.type = entry.type ∧
      entry.defaultValue = ((scriptDefaults script i old.type).foldl rebase old).defaultValue := by
  obtain ⟨hdefinitions, -, -⟩ :=
    ParamManager.userCalls_spec calls (boot firmware script flash).manager
  have hat := congrArg (·[i]?) hdefinitions
  have hentry : (calls.foldl ParamManager.userCall (boot firmware script flash).manager).table[i]? =
      some entry := h
  simp only [definitions, List.getElem?_map, hentry, Option.map_some, boot_getElem? hfresh] at hat
  obtain ⟨booted, hbooted, heq⟩ := Option.map_eq_some_iff.mp hat.symm
  obtain ⟨loaded, hloaded, rfl⟩ := Option.map_eq_some_iff.mp hbooted
  obtain ⟨old, hold, hname, htype, hdefault⟩ := restore_getElem? _ hloaded
  simp only [Prod.mk.injEq] at heq
  obtain ⟨hname', htype', hdefault'⟩ := heq
  obtain ⟨hbase, hbaseType, hbaseDefault⟩ :=
    ParamManager.foldl_rebase (scriptDefaults script i loaded.type) loaded
  refine ⟨old, hold, hname.trans (hbase.symm.trans hname'), htype.trans (hbaseType.symm.trans htype'), ?_⟩
  rw [← hdefault', hbaseDefault, (ParamManager.foldl_rebase _ old).2.2, htype, hdefault]

/-- One parameter over a reboot. -/
theorem reboot_value {old entry : ParamEntry} {raws : List UInt32} (hold : old.value = old.defaultValue)
    (hdefault : entry.defaultValue = (raws.foldl rebase old).defaultValue) :
    (raws.foldl rebase
        (if entry.value = entry.defaultValue then old else { old with value := entry.value })).value =
      entry.value ↔
    entry.value = entry.defaultValue ∨ entry.value.raw ∉ old.defaultValue.raw :: raws := by
  by_cases hsame : entry.value = entry.defaultValue
  · -- not stored: the parameter follows the script from the firmware's default
    rw [if_pos hsame, ParamManager.foldl_rebase_value, if_pos (by rw [hold]; exact List.mem_cons_self)]
    exact ⟨fun _ => Or.inl hsame, fun _ => hdefault.symm.trans hsame.symm⟩
  · rw [if_neg hsame, ParamManager.foldl_rebase_value]
    have hlast : (raws.foldl rebase { old with value := entry.value }).defaultValue =
        entry.defaultValue := by
      rw [hdefault, (ParamManager.foldl_rebase raws _).2.2, (ParamManager.foldl_rebase raws _).2.2]
    by_cases hmem : entry.value.raw ∈ old.defaultValue.raw :: raws
    · rw [if_pos hmem, hlast]
      exact ⟨fun h => absurd h.symm hsame, fun h => (h.resolve_left hsame hmem).elim⟩
    · rw [if_neg hmem]
      exact ⟨fun _ => Or.inr hmem, fun _ => rfl⟩

/-- The table a user saves is well-formed. -/
theorem user_wellFormed (hfresh : firmware.Fresh) (script : List DefaultCall) (calls : List UserCall)
    (flash : FlashRun) :
    ParamManager.WellFormed ((boot firmware script flash).user calls).manager.table := by
  obtain ⟨hwell, -, -, -, -⟩ := ParamRun.boot_manager flash hfresh
  obtain ⟨hdefinitions, -, -⟩ :=
    ParamManager.userCalls_spec calls (boot firmware script flash).manager
  refine ParamManager.WellFormed.congr ?_ hdefinitions
  refine hwell.of_names (List.ext_getElem? fun i => ?_)
  rw [List.getElem?_map, List.getElem?_map, boot, ParamManager.script_getElem?, Option.map_map]
  congr 1
  funext entry
  exact (ParamManager.foldl_rebase _ entry).1

theorem user_length (hfresh : firmware.Fresh) (script : List DefaultCall) (calls : List UserCall)
    (flash : FlashRun) :
    ((boot firmware script flash).user calls).manager.table.length = firmware.table.length := by
  obtain ⟨hdefinitions, -, -⟩ :=
    ParamManager.userCalls_spec calls (boot firmware script flash).manager
  have hcalls := congrArg List.length hdefinitions
  rw [definitions, definitions, List.length_map, List.length_map] at hcalls
  refine hcalls.trans ?_
  have hrestored : (restore firmware.table flash.loadResult).length = firmware.table.length := by
    cases flash.loadResult with
    | none => simp [restore, ParamManager.defaults]
    | some snapshot =>
        have hsame := congrArg List.length
          (ParamManager.definitions_applySnapshot (ParamManager.defaults firmware.table) snapshot)
        simpa [definitions, ParamManager.defaults, restore] using hsame
  obtain ⟨-, -, htable, -, -⟩ := ParamRun.boot_manager flash hfresh
  rw [← hrestored, ← htable]
  exact ParamManager.script_length script _

/-- A reboot from a snapshot of the table. -/
theorem reboot_saved (hfresh : firmware.Fresh) (script : List DefaultCall) {table : ParamTable}
    (hwell : ParamManager.WellFormed table) (hlength : table.length = firmware.table.length)
    (hknown : ∀ (i : Nat) entry, table[i]? = some entry →
      ∃ old, firmware.table[i]? = some old ∧ old.name = entry.name ∧ old.type = entry.type ∧
        entry.defaultValue = ((scriptDefaults script i old.type).foldl rebase old).defaultValue)
    {sequence : UInt32} {rebooted : FlashRun}
    (hload : rebooted.loadResult = some (ParamManager.makeSnapshot table sequence).stored) :
    (∀ i : Nat, (boot firmware script rebooted).manager.table[i]?.map ParamEntry.value =
        table[i]?.map ParamEntry.value) ↔ NoCoincidence firmware.table script table := by
  have hat : ∀ (i : Nat) old entry, firmware.table[i]? = some old → table[i]? = some entry →
      ((boot firmware script rebooted).manager.table[i]?.map ParamEntry.value = some entry.value ↔
        entry.value = entry.defaultValue ∨
          entry.value.raw ∉ old.defaultValue.raw :: scriptDefaults script i old.type) := by
    intro i old entry hold hentry
    obtain ⟨old', hold', hname, htype, hdefault⟩ := hknown i entry hentry
    obtain rfl : old = old' := Option.some_inj.mp (hold.symm.trans hold')
    have hfactory : old.value = old.defaultValue := by
      have hsame := congrArg (·[i]?) hfresh.values
      simp only [ParamManager.defaults, List.getElem?_map, hold, Option.map_some, Option.some_inj] at hsame
      exact (congrArg ParamEntry.value hsame).symm
    have hentryType : (if entry.value = entry.defaultValue then old
        else { old with value := entry.value }).type = old.type := by
      split <;> rfl
    rw [← reboot_value hfactory hdefault, boot_getElem? hfresh, hload, restore, hfresh.values,
      ParamManager.applySnapshot_other hfresh.table hwell _ hold hentry hname htype, Option.map_some,
      Option.map_some, hentryType, Option.some_inj]
  constructor
  · intro hvalues i old entry hold hentry
    refine (hat i old entry hold hentry).mp ?_
    rw [hvalues i, hentry, Option.map_some]
  · intro hcondition i
    cases hentry : table[i]? with
    | none =>
        have hbeyond : (restore firmware.table rebooted.loadResult)[i]? = none := by
          cases hrestored : (restore firmware.table rebooted.loadResult)[i]? with
          | none => rfl
          | some restored =>
              obtain ⟨old, hold, -⟩ := restore_getElem? _ hrestored
              obtain ⟨hlt, -⟩ := List.getElem?_eq_some_iff.mp hold
              rw [List.getElem?_eq_none_iff] at hentry
              omega
        rw [boot_getElem? hfresh, hbeyond]
        rfl
    | some entry =>
        obtain ⟨old, hold, -⟩ := hknown i entry hentry
        exact (hat i old entry hold hentry).mpr (hcondition i old entry hold hentry)

/-- After a save that succeeded, a reboot gives back every value exactly when no parameter is at a default
that the boot sequence leaves behind. -/
theorem survives_reboot (hfresh : firmware.Fresh) (hflash : FlashRun.system.init flash)
    (script : List DefaultCall) (calls : List UserCall) (outcome : SaveOutcome) {saved : ProfileRun}
    (hsave : ((boot firmware script flash).user calls).save outcome = (true, saved)) :
    (∀ i : Nat, (boot firmware script saved.flash).manager.table[i]?.map ParamEntry.value =
        ((boot firmware script flash).user calls).manager.table[i]?.map ParamEntry.value) ↔
      NoCoincidence firmware.table script ((boot firmware script flash).user calls).manager.table := by
  have hbooted := ParamRun.ordered_boot hfresh hflash
  obtain ⟨storage, hstorage⟩ := hbooted.powered
  obtain ⟨hdefinitions, hsequence, hclean⟩ :=
    ParamManager.userCalls_spec calls (boot firmware script flash).manager
  have hwell := user_wellFormed hfresh script calls flash
  have hknown : ∀ (i : Nat) entry,
      ((boot firmware script flash).user calls).manager.table[i]? = some entry → _ :=
    fun i entry h => user_getElem? hfresh h
  have hlength : ((boot firmware script flash).user calls).manager.table.length =
      firmware.table.length := user_length hfresh script calls flash
  have hcurrent : ∀ last ∈ (boot firmware script flash).flash.current,
      ((boot firmware script flash).user calls).manager.storageSequence = last.sequence := by
    intro last hlast
    have hbefore := hbooted.sequence (fun _ => id) (fun _ => id) last hlast
    exact hsequence.trans ((ParamManager.script_rest script _).2.trans hbefore)
  change ∀ last ∈ ((boot firmware script flash).user calls).flash.current, _ at hcurrent
  have hsize : (⟨flash.slotSize, none⟩ : FlashParamStorage).slotSize = flash.slotSize := rfl
  have hload : ((boot firmware script flash).user calls).flash.loadResult = flash.loadResult :=
    (FlashRun.loadWith_spec hsize).1
  have hrecoverable : ((boot firmware script flash).user calls).flash.Recoverable := hbooted.recoverable
  change ((boot firmware script flash).user calls).flash.storage = some storage at hstorage
  change ((boot firmware script flash).user calls).manager.dirty = false →
    ((boot firmware script flash).user calls).manager.table =
      (boot firmware script flash).manager.table ∧ _ at hclean
  generalize (boot firmware script flash).user calls = before at *
  unfold save at hsave
  cases hbegin : before.manager.saveBegin with
  | refused =>
      rw [hbegin] at hsave
      cases hsave
  | clean =>
      -- nothing was changed, and the next boot loads what this one did
      rw [hbegin] at hsave
      obtain ⟨-, rfl⟩ := Prod.mk.inj hsave
      have hdirty : before.manager.dirty = false := ParamManager.saveBegin_clean hbegin
      obtain ⟨htable, -⟩ := hclean hdirty
      refine ⟨fun _ => ?_, fun _ i => ?_⟩
      · rw [htable]
        exact noCoincidence_boot hfresh script flash
      · rw [htable, boot_getElem? hfresh, boot_getElem? hfresh, hload]
  | captured snapshot generation =>
      rw [hbegin] at hsave
      obtain ⟨-, rfl, -⟩ := ParamManager.saveBegin_captured hbegin
      simp only [hstorage] at hsave
      split at hsave
      · rename_i hreturned
        obtain ⟨-, rfl⟩ := Prod.mk.inj hsave
        refine reboot_saved hfresh script hwell hlength hknown
          (loadResult_save hrecoverable hstorage ?_ hreturned)
        intro last hlast
        rw [(ParamManager.makeSnapshot_spec hwell.short _).1, hcurrent last hlast]
      · cases hsave

/-! The firmware has `CA_ARM_SW` at 1, a profile sets its default to 2. -/

def armSwitchScript : List DefaultCall := [.int 103 2]

/-- The system after the first boot on an empty flash and one setting of the user. -/
def armSwitchSet (value : Int32) : ProfileRun :=
  (boot ParamManager.construct armSwitchScript .blank).user [.setInt 103 value 1000]

/-- The user's 3 is at no default of the boot sequence. -/
theorem armSwitchSet_noCoincidence :
    NoCoincidence ParamManager.construct.table armSwitchScript (armSwitchSet 3).manager.table := by
  have hall : ∀ i < 160, ∀ old ∈ ParamManager.construct.table[i]?,
      ∀ entry ∈ (armSwitchSet 3).manager.table[i]?, entry.value = entry.defaultValue ∨
        entry.value.raw ∉ old.defaultValue.raw :: scriptDefaults armSwitchScript i old.type := by
    decide +kernel
  intro i old entry hold hentry
  obtain ⟨hi, -⟩ := List.getElem?_eq_some_iff.mp hold
  have hshort := ParamManager.construct_fresh.table.short
  rw [ParamMaxCount] at hshort
  exact hall i (by omega) old hold entry hentry

/-- It survives, as every other parameter does. -/
theorem survives_reboot_arm_switch :
    (boot ParamManager.construct armSwitchScript
        ((armSwitchSet 3).save {}).2.flash).manager.table.map ParamEntry.value =
      (armSwitchSet 3).manager.table.map ParamEntry.value := by
  have hflash : FlashRun.system.init .blank := ⟨131072, fun _ => Page.erased, rfl⟩
  have hsaved : ((armSwitchSet 3).save {}).1 = true := by decide +kernel
  have hsave : ((boot ParamManager.construct armSwitchScript .blank).user
      [.setInt 103 3 1000]).save {} = (true, ((armSwitchSet 3).save {}).2) := save_eq hsaved
  have hreboot := survives_reboot ParamManager.construct_fresh hflash armSwitchScript
    [.setInt 103 3 1000] {} hsave
  refine List.ext_getElem? fun i => ?_
  rw [List.getElem?_map, List.getElem?_map]
  exact hreboot.mpr armSwitchSet_noCoincidence i

/-- The user's 1 is saved and comes back as 2. -/
theorem user_value_replaced :
    ((armSwitchSet 1).save {}).1 = true ∧
      (armSwitchSet 1).manager.table[103]?.map (·.value.integer) = some 1 ∧
      (boot ParamManager.construct armSwitchScript
        ((armSwitchSet 1).save {}).2.flash).manager.table[103]?.map (·.value.integer) = some 2 := by
  decide +kernel

end ProfileRun

end DualMagneticWheel
