/-
# DualMagneticWheel.Params.Manager — the parameter manager

Every operation of `ParamManager` is given by its critical sections: the part of the source under one
lock is one function here. `save` and `load` have two of them, with the call into the storage in between,
and `reset` has two.

A snapshot holds the parameters that differ from their default. Applied to the same definitions it gives
back every value (`restore_makeSnapshot`), as long as the names are distinct and fit into a record.
-/
import DualMagneticWheel.Params.Table
import DualMagneticWheel.Params.Flash
import DualMagneticWheel.Foundation.Keyed

namespace DualMagneticWheel

open Foundation

/-- The fields of class `ParamManager`. The definitions and values are the table, and `storage` says
whether a storage is attached. -/
structure ParamManager where
  table : ParamTable := []
  storage : Bool := false
  generation : UInt32 := 0
  storageSequence : UInt32 := 0
  lastChangeTimestamp : UInt64 := 0
  initialized : Bool := false
  dirty : Bool := false
  deriving DecidableEq

namespace ParamManager

/-! ## Definitions -/

/-- `addInt` and `addFloat`: a further parameter at its default, unless the table is full. The name is
cut to what fits with its terminating zero. -/
def add (type : ParamType) (m : ParamManager) (name : CString) (defaultValue : ParamValue) :
    ParamManager :=
  if ParamMaxCount ≤ m.table.length then m
  else
    { m with
      table := m.table ++ [⟨name.take (ParamNameLength - 1), type, defaultValue, defaultValue⟩] }

def addInt (m : ParamManager) (name : CString) (defaultValue : Int32) : ParamManager :=
  m.add .int32 name (.ofInteger defaultValue)

def addFloat (m : ParamManager) (name : CString) (defaultValue : Float32) : ParamManager :=
  m.add .float name (.ofReal defaultValue)

/-! ## Changing values -/

/-- `++_generation`, and the mark that something has to be saved. -/
def touch (m : ParamManager) (table : ParamTable) (now : UInt64) : ParamManager :=
  { m with table, dirty := true, lastChangeTimestamp := now, generation := m.generation + 1 }

/-- `setRaw`: the manager, the return value, and the generation to publish if the value changed. -/
def setRaw (m : ParamManager) (handle : UInt16) (type : ParamType) (rawValue : UInt32)
    (now : UInt64) : ParamManager × Bool × Option UInt32 :=
  match m.table[handle.toNat]? with
  | none => (m, false, none)
  | some entry =>
      if entry.type ≠ type then (m, false, none)
      else if entry.value.raw ≠ rawValue then
        (m.touch (m.table.set handle.toNat { entry with value := ⟨rawValue⟩ }) now, true,
          some (m.generation + 1))
      else (m, true, none)

/-- `ParamManager::set(handle, int32_t)`. -/
def setInt (m : ParamManager) (handle : UInt16) (value : Int32) (now : UInt64) :
    ParamManager × Bool × Option UInt32 :=
  m.setRaw handle .int32 (ParamValue.ofInteger value).raw now

/-- `ParamManager::set(handle, float)`. -/
def setFloat (m : ParamManager) (handle : UInt16) (value : Float32) (now : UInt64) :
    ParamManager × Bool × Option UInt32 :=
  if !value.isFinite then (m, false, none)
  else m.setRaw handle .float (ParamValue.ofReal value).raw now

/-- The first critical section of `reset`: what to set. The second one is `setRaw`. -/
def resetBegin (m : ParamManager) (handle : UInt16) : Option (ParamType × UInt32) :=
  m.table[handle.toNat]?.map fun entry => (entry.type, entry.defaultValue.raw)

/-- `reset` with nobody between its critical sections. -/
def reset (m : ParamManager) (handle : UInt16) (now : UInt64) : ParamManager × Bool × Option UInt32 :=
  match m.resetBegin handle with
  | none => (m, false, none)
  | some (type, rawValue) => m.setRaw handle type rawValue now

/-- `setDefaultRaw`, which moves a value that is at its old default along with it. -/
def setDefaultRaw (m : ParamManager) (handle : UInt16) (type : ParamType) (rawValue : UInt32) :
    ParamManager × Bool × Option UInt32 :=
  match m.table[handle.toNat]? with
  | none => (m, false, none)
  | some entry =>
      if entry.type ≠ type then (m, false, none)
      else if entry.defaultValue.raw = rawValue then (m, true, none)
      else
        let value := if entry.value.raw = entry.defaultValue.raw then ⟨rawValue⟩ else entry.value
        ({ m with
            table := m.table.set handle.toNat { entry with value, defaultValue := ⟨rawValue⟩ }
            generation := m.generation + 1 },
          true, some (m.generation + 1))

/-- `ParamManager::setDefault(handle, int32_t)`. -/
def setDefaultInt (m : ParamManager) (handle : UInt16) (value : Int32) :
    ParamManager × Bool × Option UInt32 :=
  m.setDefaultRaw handle .int32 (ParamValue.ofInteger value).raw

/-- `ParamManager::setDefault(handle, float)`. -/
def setDefaultFloat (m : ParamManager) (handle : UInt16) (value : Float32) :
    ParamManager × Bool × Option UInt32 :=
  if !value.isFinite then (m, false, none)
  else m.setDefaultRaw handle .float (ParamValue.ofReal value).raw

/-- Every parameter at its default. -/
def defaults (table : ParamTable) : ParamTable :=
  table.map fun entry => { entry with value := entry.defaultValue }

/-- `resetAll`, with the generation to publish if anything changed. -/
def resetAll (m : ParamManager) (now : UInt64) : ParamManager × Option UInt32 :=
  if m.table.any fun entry => entry.value != entry.defaultValue then
    (m.touch (defaults m.table) now, some (m.generation + 1))
  else (m, none)

/-! ## Snapshots -/

/-- The record of a parameter. -/
def recordOf (entry : ParamEntry) : ParamStoredRecord where
  name := Vector.ofFn fun i => entry.name.getD i 0
  type := entry.type.toUInt8
  valueRaw := entry.value.raw

/-- `makeSnapshot`. -/
def makeSnapshot (table : ParamTable) (sequence : UInt32) : ParamStorageSnapshot :=
  table.foldl
    (fun snapshot entry =>
      if snapshot.count.toNat < ParamMaxCount then
        if entry.value = entry.defaultValue then snapshot
        else
          { snapshot with
            records := snapshot.records.setIfInBounds snapshot.count.toNat (recordOf entry)
            count := snapshot.count + 1 }
      else snapshot)
    { sequence }

/-- `strncmp(definition.name, record.name, ParamNameLength) == 0`. -/
def sameName (name : CString) (record : ParamStoredRecord) : Bool :=
  name.take ParamNameLength == record.name.toList.takeWhile fun byte => byte != 0

/-- A record goes to the first parameter of its name and type. -/
def applyRecord (table : ParamTable) (record : ParamStoredRecord) : ParamTable :=
  match table.findIdx? fun entry =>
      sameName entry.name record && entry.type.toUInt8 == record.type with
  | some index => table.modify index fun entry => { entry with value := ⟨record.valueRaw⟩ }
  | none => table

/-- `applySnapshot`. -/
def applySnapshot (table : ParamTable) (snapshot : ParamStorageSnapshot) : ParamTable :=
  (snapshot.records.toList.take (min snapshot.count.toNat ParamMaxCount)).foldl applyRecord table

/-! ## Storage -/

/-- How the first critical section of `save` ends. -/
inductive SaveBegin where
  | refused
  | clean
  | captured (snapshot : ParamStorageSnapshot) (generation : UInt32)

/-- The first critical section of `save`. -/
def saveBegin (m : ParamManager) : SaveBegin :=
  if !m.initialized || !m.storage then .refused
  else if !m.dirty then .clean
  else .captured (makeSnapshot m.table (m.storageSequence + 1)) m.generation

/-- The second critical section of `save`, with what is published. -/
def saveEnd (m : ParamManager) (snapshot : ParamStorageSnapshot) (capturedGeneration : UInt32) :
    ParamManager × UInt32 × Bool :=
  let allSaved := m.generation == capturedGeneration
  ({ m with
      storageSequence := snapshot.sequence
      dirty := if allSaved then false else m.dirty },
    m.generation, allSaved)

/-- The first critical section of `load`. -/
def loadBegin (m : ParamManager) : Bool := m.initialized && m.storage

/-- The second critical section of `load`, with the generation that is published. -/
def loadEnd (m : ParamManager) (snapshot : ParamStorageSnapshot) : ParamManager × UInt32 :=
  ({ m with
      table := applySnapshot (defaults m.table) snapshot
      storageSequence := snapshot.sequence, dirty := false, generation := m.generation + 1 },
    m.generation + 1)

def AutoSaveDelayMicroseconds : UInt64 := 1000000

/-- The critical section of `pollAutoSave`: whether it goes on to `save`. -/
def autoSaveDue (m : ParamManager) (nowMicroseconds : UInt64) : Bool :=
  m.dirty && m.lastChangeTimestamp != 0 && m.lastChangeTimestamp ≤ nowMicroseconds &&
    AutoSaveDelayMicroseconds ≤ nowMicroseconds - m.lastChangeTimestamp

/-- The first critical section of `initialize`; whether the storage is loaded next. -/
def initializeBegin (m : ParamManager) : ParamManager × Bool :=
  if m.initialized then (m, false) else ({ m with storage := true, initialized := true }, true)

/-- The second critical section of `initialize`, when a snapshot was loaded. -/
def initializeEnd (m : ParamManager) (snapshot : ParamStorageSnapshot) : ParamManager :=
  { m with
    table := applySnapshot m.table snapshot
    storageSequence := snapshot.sequence }

/-! ## What a snapshot gives back -/

/-- The table fits, and its names are distinct C strings that fit into a record. -/
structure WellFormed (table : ParamTable) : Prop where
  short : table.length ≤ ParamMaxCount
  names : (table.map ParamEntry.name).Nodup
  fits : ∀ entry ∈ table, entry.name.length < ParamNameLength ∧ (0 : UInt8) ∉ entry.name

/-- The parameters that differ from their default. -/
def changed (table : ParamTable) : List ParamEntry :=
  table.filter fun entry => entry.value != entry.defaultValue

/-- The records in use. -/
def used (snapshot : ParamStorageSnapshot) : List ParamStoredRecord :=
  snapshot.records.toList.take snapshot.count.toNat

/-- What the table would be after a reboot that loads this. -/
def restore (table : ParamTable) : Option ParamStorageSnapshot → ParamTable
  | some snapshot => applySnapshot (defaults table) snapshot
  | none => defaults table

/-- One turn of the loop in `makeSnapshot`. -/
theorem used_push (snapshot : ParamStorageSnapshot) (record : ParamStoredRecord)
    (h : snapshot.count.toNat < ParamMaxCount) :
    (snapshot.count + 1).toNat = snapshot.count.toNat + 1 ∧
      used
        { snapshot with
          records := snapshot.records.setIfInBounds snapshot.count.toNat record
          count := snapshot.count + 1 } = used snapshot ++ [record] := by
  rw [ParamMaxCount] at h
  have hcount : (snapshot.count + 1).toNat = snapshot.count.toNat + 1 := by
    rw [UInt16.toNat_add]
    exact Nat.mod_eq_of_lt (show snapshot.count.toNat + 1 < 65536 by omega)
  refine ⟨hcount, ?_⟩
  rw [used, hcount]
  exact take_setIfInBounds snapshot.records _ record h

/-- The loop of `makeSnapshot` from any snapshot with room for the rest of the table. -/
theorem makeSnapshot_loop (table : ParamTable) (snapshot : ParamStorageSnapshot)
    (hroom : snapshot.count.toNat + table.length ≤ ParamMaxCount) :
    let result := table.foldl
      (fun snapshot entry =>
        if snapshot.count.toNat < ParamMaxCount then
          if entry.value = entry.defaultValue then snapshot
          else
            { snapshot with
              records := snapshot.records.setIfInBounds snapshot.count.toNat (recordOf entry)
              count := snapshot.count + 1 }
        else snapshot) snapshot
    result.sequence = snapshot.sequence ∧
      result.count.toNat = snapshot.count.toNat + (changed table).length ∧
      used result = used snapshot ++ (changed table).map recordOf := by
  induction table generalizing snapshot with
  | nil => simp [changed]
  | cons entry table ih =>
      rw [List.length_cons] at hroom
      rw [List.foldl_cons, if_pos (by omega)]
      by_cases hsame : entry.value = entry.defaultValue
      · have hchanged : changed (entry :: table) = changed table := by simp [changed, hsame]
        rw [if_pos hsame, hchanged]
        exact ih snapshot (by omega)
      · have hchanged : changed (entry :: table) = entry :: changed table := by
          simp [changed, hsame]
        obtain ⟨hcount, hused⟩ := used_push snapshot (recordOf entry) (by omega)
        obtain ⟨hsequence, hlength, hrest⟩ := ih
          { snapshot with
            records := snapshot.records.setIfInBounds snapshot.count.toNat (recordOf entry)
            count := snapshot.count + 1 } (by dsimp only; omega)
        rw [if_neg hsame, hchanged]
        refine ⟨hsequence, ?_, ?_⟩
        · rw [hlength, List.length_cons]
          dsimp only
          omega
        · rw [hrest, hused, List.map_cons, List.append_assoc, List.singleton_append]

/-- What `makeSnapshot` makes of a table that fits. -/
theorem makeSnapshot_spec {table : ParamTable} (h : table.length ≤ ParamMaxCount)
    (sequence : UInt32) :
    (makeSnapshot table sequence).sequence = sequence ∧
      (makeSnapshot table sequence).count.toNat ≤ ParamMaxCount ∧
      used (makeSnapshot table sequence) = (changed table).map recordOf := by
  obtain ⟨hsequence, hcount, hused⟩ := makeSnapshot_loop table { sequence } (by
    show (0 : UInt16).toNat + table.length ≤ ParamMaxCount
    simpa using h)
  refine ⟨hsequence, ?_, hused⟩
  have hzero : (0 : UInt16).toNat = 0 := rfl
  have hfilter := List.length_filter_le (fun entry => entry.value != entry.defaultValue) table
  rw [changed] at hcount
  rw [makeSnapshot, hcount]
  dsimp only
  omega

/-- A page keeps the records in use. -/
theorem used_stored {snapshot : ParamStorageSnapshot} (h : snapshot.count.toNat ≤ ParamMaxCount) :
    used snapshot.stored = used snapshot := by
  rw [ParamMaxCount] at h
  apply List.ext_getElem
  · simp [used, ParamStorageSnapshot.stored]
  · intro i hi _
    have hlt : i < snapshot.count.toNat := by
      simp only [used, ParamStorageSnapshot.stored, List.length_take] at hi
      omega
    simp only [used, ParamStorageSnapshot.stored, List.getElem_take, Vector.getElem_toList,
      Vector.getElem_ofFn, if_pos hlt, getD_eq]
    rw [Vector.getElem?_eq_getElem (by omega), Option.getD_some]

theorem applySnapshot_eq (table : ParamTable) {snapshot : ParamStorageSnapshot}
    (h : snapshot.count.toNat ≤ ParamMaxCount) :
    applySnapshot table snapshot = (used snapshot).foldl applyRecord table := by
  rw [applySnapshot, Nat.min_eq_left h]
  rfl

/-! ### Definitions do not change -/

/-- Everything but the values. -/
def definitions (table : ParamTable) : List (CString × ParamType × ParamValue) :=
  table.map fun entry => (entry.name, entry.type, entry.defaultValue)

theorem defaults_congr {table other : ParamTable} (h : definitions table = definitions other) :
    defaults table = defaults other := by
  have hdefaults : ∀ t : ParamTable, defaults t =
      (definitions t).map fun d => ⟨d.1, d.2.1, d.2.2, d.2.2⟩ := by
    intro t
    rw [definitions, List.map_map]
    rfl
  rw [hdefaults, hdefaults, h]

theorem restore_congr {table other : ParamTable} (h : definitions table = definitions other)
    (loaded : Option ParamStorageSnapshot) : restore table loaded = restore other loaded := by
  cases loaded <;> simp only [restore, defaults_congr h]

theorem WellFormed.of_names {table other : ParamTable} (h : WellFormed table)
    (hnames : other.map ParamEntry.name = table.map ParamEntry.name) : WellFormed other := by
  refine ⟨?_, hnames ▸ h.names, ?_⟩
  · have hlength := congrArg List.length hnames
    rw [List.length_map, List.length_map] at hlength
    rw [hlength]
    exact h.short
  · intro entry hmem
    have hname : entry.name ∈ table.map ParamEntry.name := hnames ▸ List.mem_map_of_mem hmem
    obtain ⟨old, hold, heq⟩ := List.mem_map.mp hname
    rw [← heq]
    exact h.fits old hold

theorem WellFormed.congr {table other : ParamTable} (h : WellFormed table)
    (hsame : definitions other = definitions table) : WellFormed other := by
  have hfirst := congrArg (List.map Prod.fst) hsame
  rw [definitions, definitions, List.map_map, List.map_map] at hfirst
  exact h.of_names hfirst

theorem definitions_set (table : ParamTable) {index : Nat} {entry : ParamEntry}
    (h : table[index]? = some entry) (value : ParamValue) :
    definitions (table.set index { entry with value }) = definitions table :=
  map_set h rfl

theorem definitions_applyRecord (table : ParamTable) (record : ParamStoredRecord) :
    definitions (applyRecord table record) = definitions table := by
  rw [applyRecord]
  split
  · rw [definitions]
    apply map_modify
    intro entry
    rfl
  · rfl

theorem definitions_defaults (table : ParamTable) :
    definitions (defaults table) = definitions table := by
  rw [definitions, defaults, List.map_map]
  rfl

theorem definitions_applySnapshot (table : ParamTable) (snapshot : ParamStorageSnapshot) :
    definitions (applySnapshot table snapshot) = definitions table := by
  rw [applySnapshot]
  generalize snapshot.records.toList.take (min snapshot.count.toNat ParamMaxCount) = records
  induction records generalizing table with
  | nil => rfl
  | cons record records ih => rw [List.foldl_cons, ih, definitions_applyRecord]

/-- A table that was just restored would be restored to the same values. -/
theorem restore_applySnapshot (table : ParamTable) (snapshot : ParamStorageSnapshot) :
    restore (applySnapshot (defaults table) snapshot) (some snapshot) =
      applySnapshot (defaults table) snapshot := by
  have hsame : definitions (applySnapshot (defaults table) snapshot) = definitions table :=
    (definitions_applySnapshot _ _).trans (definitions_defaults table)
  rw [restore_congr hsame]
  rfl

/-- A critical section that changes values: nothing happens, or the manager is dirty and the generation
has moved. -/
inductive Changes (m : ParamManager) : ParamManager × Option UInt32 → Prop
  | nothing : Changes m (m, none)
  | touched {table : ParamTable} (now : UInt64) : definitions table = definitions m.table →
      Changes m (m.touch table now, some (m.generation + 1))

theorem setRaw_changes (m : ParamManager) (handle : UInt16) (type : ParamType) (rawValue : UInt32)
    (now : UInt64) :
    m.Changes ((m.setRaw handle type rawValue now).1, (m.setRaw handle type rawValue now).2.2) := by
  rw [setRaw]
  cases hentry : m.table[handle.toNat]? with
  | none => exact .nothing
  | some entry =>
      by_cases htype : entry.type ≠ type
      · simp only [if_pos htype]
        exact .nothing
      · by_cases hvalue : entry.value.raw ≠ rawValue
        · simp only [if_neg htype, if_pos hvalue]
          exact .touched now (definitions_set m.table hentry _)
        · simp only [if_neg htype, if_neg hvalue]
          exact .nothing

theorem resetAll_changes (m : ParamManager) (now : UInt64) : m.Changes (m.resetAll now) := by
  rw [resetAll]
  split
  · exact .touched now (definitions_defaults m.table)
  · exact .nothing

/-- What a snapshot is taken from. -/
theorem saveBegin_captured {m : ParamManager} {snapshot : ParamStorageSnapshot} {generation : UInt32}
    (h : m.saveBegin = .captured snapshot generation) :
    m.dirty = true ∧ snapshot = makeSnapshot m.table (m.storageSequence + 1) ∧
      generation = m.generation := by
  rw [saveBegin] at h
  split at h
  · cases h
  · split at h
    · cases h
    · cases h
      refine ⟨?_, rfl, rfl⟩
      simp_all

theorem saveBegin_clean {m : ParamManager} (h : m.saveBegin = .clean) : m.dirty = false := by
  rw [saveBegin] at h
  split at h
  · cases h
  · split at h
    · rename_i hnot
      simpa using hnot
    · cases h

/-! ### Records and names -/

/-- A name that fits survives the way through a record. -/
theorem recordOf_name {entry : ParamEntry} (hlength : entry.name.length < ParamNameLength)
    (hzero : (0 : UInt8) ∉ entry.name) :
    ((recordOf entry).name.toList.takeWhile fun byte => byte != 0) = entry.name := by
  rw [ParamNameLength] at hlength
  have hbytes : (recordOf entry).name.toList =
      entry.name ++ List.replicate (17 - entry.name.length) 0 := by
    apply List.ext_getElem
    · simp only [Vector.length_toList, List.length_append, List.length_replicate]
      omega
    · intro i hi _
      simp only [recordOf, Vector.getElem_toList, Vector.getElem_ofFn]
      by_cases hin : i < entry.name.length
      · rw [List.getElem_append_left hin, List.getD_eq_getElem _ _ hin]
      · rw [List.getElem_append_right (by omega), List.getD_eq_default _ _ (by omega),
          List.getElem_replicate]
  rw [hbytes, List.takeWhile_append_of_pos]
  · simp
  · intro byte hbyte
    rw [bne_iff_ne]
    rintro rfl
    exact hzero hbyte

theorem sameName_recordOf {entry other : ParamEntry}
    (hentry : entry.name.length < ParamNameLength ∧ (0 : UInt8) ∉ entry.name)
    (hother : other.name.length < ParamNameLength) :
    sameName other.name (recordOf entry) = (other.name == entry.name) := by
  rw [sameName, recordOf_name hentry.1 hentry.2, List.take_of_length_le (Nat.le_of_lt hother)]

theorem toUInt8_eq_iff (s t : ParamType) : (s.toUInt8 == t.toUInt8) = decide (s = t) := by
  cases s <;> cases t <;> decide

/-- The change a record makes to one entry. -/
def overwrite (entry : ParamEntry) (old : ParamEntry) : ParamEntry :=
  if old.name = entry.name ∧ old.type = entry.type then { old with value := entry.value } else old

/-- Applying the record of a parameter changes the parameters of its name and type. -/
theorem applyRecord_recordOf {table : ParamTable} (h : WellFormed table) {entry : ParamEntry}
    (hentry : entry.name.length < ParamNameLength ∧ (0 : UInt8) ∉ entry.name) :
    applyRecord table (recordOf entry) = table.map (overwrite entry) := by
  have hmatch : ∀ other ∈ table, (sameName other.name (recordOf entry) &&
      other.type.toUInt8 == (recordOf entry).type) =
        decide (other.name = entry.name ∧ other.type = entry.type) := by
    intro other hmem
    rw [sameName_recordOf hentry (h.fits other hmem).1, recordOf, toUInt8_eq_iff]
    simp [Bool.decide_and, Bool.beq_eq_decide_eq]
  refine (modify_findIdx? _ _ ?_).trans ?_
  rotate_left
  · apply List.map_congr_left
    intro other hmem
    rw [hmatch other hmem, overwrite]
    by_cases hsame : other.name = entry.name ∧ other.type = entry.type
    · rw [if_pos (by simpa using hsame), if_pos hsame]
      rfl
    · rw [if_neg (by simpa using hsame), if_neg hsame]
  · have hnames := h.names
    rw [List.Nodup, List.pairwise_map] at hnames
    refine hnames.imp_of_mem fun {other another} hother hanother hne => ?_
    rw [hmatch other hother, hmatch another hanother]
    simp only [decide_eq_true_eq, decide_eq_false_iff_not]
    rintro ⟨hname, _⟩ ⟨hname', _⟩
    exact hne (hname.trans hname'.symm)

@[simp] theorem overwrite_name (entry old : ParamEntry) : (overwrite entry old).name = old.name := by
  rw [overwrite]
  split <;> rfl

/-- A change of values keeps a table well-formed. -/
theorem WellFormed.map {table : ParamTable} (h : WellFormed table) {change : ParamEntry → ParamEntry}
    (hname : ∀ entry, (change entry).name = entry.name) : WellFormed (table.map change) where
  short := by rw [List.length_map]; exact h.short
  names := by
    have hcomp : ParamEntry.name ∘ change = ParamEntry.name := funext hname
    rw [List.map_map, hcomp]
    exact h.names
  fits := by
    intro entry hmem
    obtain ⟨old, hold, rfl⟩ := List.mem_map.mp hmem
    rw [hname]
    exact h.fits old hold

/-- Applying the records of several parameters. -/
theorem foldl_applyRecord {table : ParamTable} (h : WellFormed table) {entries : List ParamEntry}
    (hentries : ∀ entry ∈ entries,
      entry.name.length < ParamNameLength ∧ (0 : UInt8) ∉ entry.name) :
    (entries.map recordOf).foldl applyRecord table =
      table.map fun old => entries.foldl (fun old entry => overwrite entry old) old := by
  rw [← foldl_map_comm overwrite]
  induction entries generalizing table with
  | nil => rfl
  | cons entry entries ih =>
      rw [List.forall_mem_cons] at hentries
      rw [List.map_cons, List.foldl_cons, List.foldl_cons, applyRecord_recordOf h hentries.1]
      exact ih (h.map fun old => overwrite_name entry old) hentries.2

theorem overwrite_of_ne {entry old : ParamEntry} (h : ¬ (old.name = entry.name ∧ old.type = entry.type)) :
    overwrite entry old = old := if_neg h

/-- Records of other names or types change nothing. -/
theorem foldl_overwrite_of_ne {entries : List ParamEntry} {old : ParamEntry}
    (h : ∀ entry ∈ entries, ¬ (old.name = entry.name ∧ old.type = entry.type)) :
    entries.foldl (fun old entry => overwrite entry old) old = old := by
  induction entries with
  | nil => rfl
  | cons entry entries ih =>
      rw [List.forall_mem_cons] at h
      rw [List.foldl_cons, overwrite_of_ne h.1]
      exact ih h.2

/-- Of records with distinct names one at most has the name and the type of an entry, and this one gives
its value. -/
theorem foldl_overwrite {entries : List ParamEntry} (hnames : (entries.map ParamEntry.name).Nodup)
    {x old : ParamEntry} (hx : x ∈ entries) (hname : old.name = x.name) (htype : old.type = x.type) :
    entries.foldl (fun old entry => overwrite entry old) old = { old with value := x.value } := by
  induction entries with
  | nil => cases hx
  | cons entry entries ih =>
      rw [List.map_cons, List.nodup_cons] at hnames
      rw [List.foldl_cons]
      rcases List.mem_cons.mp hx with rfl | hx
      · rw [overwrite, if_pos ⟨hname, htype⟩]
        refine foldl_overwrite_of_ne ?_
        rintro other hother ⟨hsame, -⟩
        exact hnames.1 (List.mem_map.mpr ⟨other, hother, hsame.symm.trans hname⟩)
      · rw [overwrite_of_ne]
        · exact ih hnames.2 hx
        · rintro ⟨hsame, -⟩
          exact hnames.1 (List.mem_map.mpr ⟨x, hx, hname.symm.trans hsame⟩)

/-- An entry after the records of a table. -/
def carry (table : ParamTable) (old : ParamEntry) : ParamEntry :=
  (changed table).foldl (fun old entry => overwrite entry old) old

theorem carry_changed {table : ParamTable} (hnames : (table.map ParamEntry.name).Nodup)
    {x old : ParamEntry} (hx : x ∈ table) (hchanged : x.value ≠ x.defaultValue)
    (hname : old.name = x.name) (htype : old.type = x.type) :
    carry table old = { old with value := x.value } := by
  refine foldl_overwrite (hnames.sublist (List.filter_sublist.map _)) ?_ hname htype
  exact List.mem_filter.mpr ⟨hx, by simpa using hchanged⟩

theorem carry_unchanged {table : ParamTable} {old : ParamEntry}
    (h : ∀ x ∈ table, old.name = x.name → old.type = x.type → x.value = x.defaultValue) :
    carry table old = old := by
  refine foldl_overwrite_of_ne ?_
  rintro x hx ⟨hname, htype⟩
  obtain ⟨hmem, hchanged⟩ := List.mem_filter.mp hx
  rw [h x hmem hname htype] at hchanged
  simp at hchanged

/-- A snapshot of one table applied to another. -/
theorem applySnapshot_makeSnapshot {table other : ParamTable} (htable : WellFormed table)
    (hother : WellFormed other) (sequence : UInt32) :
    applySnapshot other (makeSnapshot table sequence) = other.map (carry table) ∧
      applySnapshot other (makeSnapshot table sequence).stored = other.map (carry table) := by
  obtain ⟨_, hcount, hused⟩ := makeSnapshot_spec htable.short sequence
  have hstored : (makeSnapshot table sequence).stored.count.toNat ≤ ParamMaxCount := hcount
  have hrecords : ((changed table).map recordOf).foldl applyRecord other = other.map (carry table) :=
    foldl_applyRecord hother fun entry hmem => htable.fits entry (List.mem_of_mem_filter hmem)
  refine ⟨?_, ?_⟩
  · rw [applySnapshot_eq _ hcount, hused]
    exact hrecords
  · rw [applySnapshot_eq _ hstored, used_stored hcount, hused]
    exact hrecords

/-- A snapshot of a table gives back every value of that table. -/
theorem map_carry_defaults {table : ParamTable} (hnames : (table.map ParamEntry.name).Nodup) :
    (defaults table).map (carry table) = table := by
  rw [defaults, List.map_map]
  refine (List.map_congr_left ?_).trans (List.map_id table)
  intro x hx
  by_cases hsame : x.value = x.defaultValue
  · refine (carry_unchanged ?_).trans ?_
    · intro other hmem hname _
      obtain rfl := eq_of_key hnames hx hmem hname
      exact hsame
    · cases x
      cases hsame
      rfl
  · exact carry_changed hnames hx hsame rfl rfl

theorem restore_makeSnapshot {table : ParamTable} (h : WellFormed table) (sequence : UInt32) :
    restore table (some (makeSnapshot table sequence).stored) = table := by
  have hdefaults : WellFormed (defaults table) := h.map fun _ => rfl
  rw [restore, (applySnapshot_makeSnapshot h hdefaults sequence).2]
  exact map_carry_defaults h.names

end ParamManager

end DualMagneticWheel
