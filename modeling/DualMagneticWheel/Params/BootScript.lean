/-
# DualMagneticWheel.Params.BootScript — the numbered profile at start-up

The boot script compares `SYS_AUTOSTART` and sources the profile of the robot, a list of `param set` and
`param set-default` lines. NSH ends a script at its first failed command, and after `set +e` (as in `rcS`)
goes on; the flag holds in the files it sources as well, so a sourced file is its lines in place.
`lines_table` is the meaning of such lines: each parameter goes through the lines that name it. From it
follows what the boot leaves (`autostart_spec`): every line of the profile runs and is accepted, its
default is in force, and a value that is not at its default stays; without the number of a profile nothing
changes.
-/
import DualMagneticWheel.Foundation.Script
import DualMagneticWheel.Params.Definitions
import DualMagneticWheel.Params.ParamSessions

namespace DualMagneticWheel

open Foundation ParamManager ParamCommand

/-! ## The scripts -/

/-- The commands of the boot scripts; the clock readings are those of the command. -/
inductive NshCommand where
  | param (clock : ParamClock) (argv : List CString)
  | echo (text : CString)
  | false

namespace NshCommand

variable {S : Type} [ParamStorage S]

/-- A command with its status. -/
def exec (c : CLibrary) (s : ParamShell S) : NshCommand → ParamShell S × Int32
  | param clock argv => ((execute c clock s argv).1, (execute c clock s argv).2.1)
  | echo _ => (s, 0)
  | false => (s, 1)

/-- How a status is read, by `if` as by a script that stops on errors. -/
def succeeds (status : Int32) : Bool := status == 0

end NshCommand

namespace BootScript

/-- A line of a script as an argument vector. -/
def words (line : List String) : List CString := line.map cstr

/-- `/etc/robots/1_dual_magneticwheel`. -/
def dualMagneticWheel : List (List CString) :=
  [["param", "set", "CA_AIRFRAME", "1"],
    ["param", "set-default", "CA_THR_F", "1.0"],
    ["param", "set-default", "CA_THR_R", "1.0"],
    ["param", "set-default", "CA_YAW_F", "1.0"],
    ["param", "set-default", "CA_YAW_R", "0.0"],
    ["param", "set-default", "CA_ARM_SW", "1"],
    ["param", "set-default", "FS_RC_TMO", "0.5"],
    ["param", "set-default", "FS_MOT_ACT", "1"],
    ["param", "set-default", "FS_MOT_VAL", "0.0"],
    ["param", "set-default", "FS_STR_ACT", "0"],
    ["param", "set-default", "FS_STR_VAL", "0.0"],
    ["param", "set-default", "OUT_FAIL_ACT", "2"],
    ["param", "set-default", "CAN_M0_FUNC", "101"],
    ["param", "set-default", "CAN_M0_PROTO", "1"],
    ["param", "set-default", "CAN_M0_TYPE", "2"],
    ["param", "set-default", "CAN_M0_MODE", "3"],
    ["param", "set-default", "CAN_M1_FUNC", "102"],
    ["param", "set-default", "CAN_M1_PROTO", "1"],
    ["param", "set-default", "CAN_M1_TYPE", "2"],
    ["param", "set-default", "CAN_M1_MODE", "3"],
    ["param", "set-default", "CAN_S0_FUNC", "201"],
    ["param", "set-default", "CAN_S0_PROTO", "1"],
    ["param", "set-default", "CAN_S0_TYPE", "1"],
    ["param", "set-default", "CAN_S0_MODE", "2"],
    ["param", "set-default", "CAN_S0_PFBMAX", "12.5"],
    ["param", "set-default", "CAN_S1_FUNC", "202"],
    ["param", "set-default", "CAN_S1_PROTO", "1"],
    ["param", "set-default", "CAN_S1_TYPE", "1"],
    ["param", "set-default", "CAN_S1_MODE", "2"],
    ["param", "set-default", "CAN_S1_PFBMAX", "12.5"]].map words

/-- The lines with the clock readings they meet. -/
def commands (clock : Nat → ParamClock) (lines : List (List CString)) : List NshCommand :=
  lines.mapIdx fun i argv => .param (clock i) argv

/-- The test of the number. -/
def compareAutostart (clock : ParamClock) : NshCommand :=
  .param clock (words ["param", "compare", "SYS_AUTOSTART", "1"])

/-- What the script says without a profile. -/
def unsupported : NshCommand :=
  .echo (cstr "ERROR: unsupported SYS_AUTOSTART; outputs remain disabled")

/-- `/etc/init.d/rc.autostart`. -/
def autostart (clock : Nat → ParamClock) : Script NshCommand :=
  .branch (compareAutostart (clock 0)) (.lines (commands (fun i => clock (i + 1)) dualMagneticWheel))
    (.lines [unsupported, .false])

/-! ## What lines mean -/

/-- The values of the real literals in the profile. -/
def realLiteral (text : CString) : Option Float32 :=
  if text = cstr "1.0" then some 1
  else if text = cstr "0.0" then some 0
  else if text = cstr "0.5" then some 0.5
  else if text = cstr "12.5" then some 12.5
  else none

/-- `strtof` reads these literals. -/
def ReadsLiterals (c : CLibrary) : Prop :=
  ∀ text v, realLiteral text = some v →
    c.strtof text = { value := v, converted := true, rest := [], error := .false }

/-- The value that a text of the profile stands for. -/
def meaning (type : ParamType) (text : CString) : Option ParamValue :=
  match type with
  | .int32 =>
      match readInteger text with
      | some (value, []) =>
          if (Int32.ofInt value).toInt = value then some (.ofInteger (Int32.ofInt value)) else none
      | _ => none
  | .float => (realLiteral text).bind fun v => if v.isFinite then some (.ofReal v) else none

theorem accepts_of_meaning {c : CLibrary} (hc : ReadsLiterals c) {type : ParamType} {text : CString}
    {value : ParamValue} (h : meaning type text = some value) : c.accepts type text = some value := by
  unfold meaning at h
  cases type with
  | int32 =>
      dsimp only at h
      split at h
      · rename_i found hread
        split at h
        · rename_i hfits
          rw [Option.some_inj] at h
          rw [ParamShell.accepts_int, ← h, ← readInteger_iff, hread]
          exact congrArg (fun v => some (v, [])) hfits.symm
        · cases h
      · cases h
  | float =>
      obtain ⟨v, hliteral, hfinite⟩ := Option.bind_eq_some_iff.mp h
      have hparsed : c.parseFloat text = some v := by
        rw [CLibrary.parseFloat, hc text v hliteral]
        rfl
      rw [CLibrary.accepts, hparsed]
      exact hfinite

/-- What a line does to a parameter. -/
def lineEntry (c : CLibrary) (r : ParamRequest) (entry : ParamEntry) : ParamEntry :=
  match r with
  | .set name text =>
      if entry.name = name then
        (c.accepts entry.type text).elim entry fun value => { entry with value }
      else entry
  | .setDefault name text =>
      if entry.name = name then
        (c.accepts entry.type text).elim entry fun value => rebase entry value.raw
      else entry
  | _ => entry

/-- A line of a profile. -/
def IsLine : ParamRequest → Prop
  | .set _ _ | .setDefault _ _ => True
  | _ => False

instance : DecidablePred IsLine := fun r => by
  cases r <;> first | exact .isTrue trivial | exact .isFalse id

variable {S : Type} [ParamStorage S] {c : CLibrary} {s : ParamShell S}

/-- Replacing one entry is a map over the table, as far as the map leaves the others alone. -/
theorem set_eq_map {table : ParamTable} {i : Nat} {entry : ParamEntry} (hi : table[i]? = some entry)
    {change : ParamEntry → ParamEntry}
    (hother : ∀ j other, table[j]? = some other → j ≠ i → change other = other) :
    table.set i (change entry) = table.map change := by
  apply List.ext_getElem?
  intro j
  obtain ⟨hlt, -⟩ := List.getElem?_eq_some_iff.mp hi
  rw [List.getElem?_map]
  by_cases hj : j = i
  · rw [hj, List.getElem?_set_self hlt, hi]
    rfl
  · rw [List.getElem?_set_ne (Ne.symm hj)]
    cases hother' : table[j]? with
    | none => rfl
    | some other => rw [Option.map_some, hother j other hother' hj]

/-- A line acts on each parameter by itself. -/
theorem line_table (h : s.Running) {argv : List CString} (hline : IsLine (request argv))
    (clock : ParamClock) :
    (execute c clock s argv).1.manager.table = s.manager.table.map (lineEntry c (request argv)) := by
  obtain ⟨name, text, hargv⟩ : ∃ name text,
      request argv = .set name text ∨ request argv = .setDefault name text := by
    cases hrequest : request argv with
    | set name text => exact ⟨name, text, Or.inl rfl⟩
    | setDefault name text => exact ⟨name, text, Or.inr rfl⟩
    | _ => rw [hrequest] at hline; cases hline
  by_cases hfound : ∃ (i : Nat) (entry : ParamEntry), s.manager.table[i]? = some entry ∧ entry.name = name
  · obtain ⟨i, entry, hi, rfl⟩ := hfound
    -- no other parameter has the name
    have hother : ∀ j other, s.manager.table[j]? = some other → j ≠ i →
        lineEntry c (request argv) other = other := by
      intro j other hj hne
      have hname : other.name ≠ entry.name := by
        intro hsame
        have hindex := find_name h.table hj
        rw [hsame, find_name h.table hi] at hindex
        exact hne hindex.symm
      rcases hargv with hargv | hargv <;> rw [hargv, lineEntry, if_neg hname]
    rw [← set_eq_map hi hother]
    have hsame : s.manager.table = s.manager.table.set i entry := by
      obtain ⟨hlt, rfl⟩ := List.getElem?_eq_some_iff.mp hi
      exact (List.set_getElem_self hlt).symm
    rcases hargv with hargv | hargv
    · obtain ⟨hrefused, haccepted⟩ := h.set_spec (c := c) hi hargv clock
      rw [hargv, lineEntry, if_pos rfl]
      cases hvalue : c.accepts entry.type text with
      | none =>
          rw [(hrefused hvalue).1]
          exact hsame
      | some value => exact (haccepted value hvalue).1
    · obtain ⟨hrefused, haccepted⟩ := h.setDefault_spec (c := c) hi hargv clock
      rw [hargv, lineEntry, if_pos rfl]
      cases hvalue : c.accepts entry.type text with
      | none =>
          rw [(hrefused hvalue).1]
          exact hsame
      | some value => exact (haccepted value hvalue).1
  · -- the line is about no parameter
    have hmap : s.manager.table.map (lineEntry c (request argv)) = s.manager.table := by
      refine (List.map_congr_left fun entry hmem => ?_).trans (List.map_id _)
      obtain ⟨i, hi⟩ := List.getElem?_of_mem hmem
      have hname : entry.name ≠ name := fun hsame => hfound ⟨i, entry, hi, hsame⟩
      rcases hargv with hargv | hargv <;> rw [hargv, lineEntry, if_neg hname] <;> rfl
    rw [hmap]
    obtain ⟨status, hp⟩ := h.next_cases c (.command clock argv)
    have hwritten : (request argv).written = some name := by
      rcases hargv with hargv | hargv <;> rw [hargv] <;> rfl
    cases hp with
    | quiet hmanager _ => exact congrArg ParamManager.table hmanager
    | wrote hwritten' hentry _ _ _ _ _ =>
        have hsame := hwritten.symm.trans hwritten'
        rw [Option.some_inj] at hsame
        refine absurd ⟨_, _, hentry, ?_⟩ hfound
        rw [definition_find h.table.short hentry, hsame]
    | swept hsweeps _ _ _ =>
        rcases hsweeps with hsweeps | hsweeps <;> rcases hargv with hargv | hargv <;>
          exact ParamRequest.noConfusion (hargv.symm.trans hsweeps)
    | saved hsave _ _ _ _ =>
        rcases hargv with hargv | hargv <;> exact ParamRequest.noConfusion (hargv.symm.trans hsave)

omit [ParamStorage S] in
theorem commands_cons (clock : Nat → ParamClock) (argv : List CString) (lines : List (List CString)) :
    commands clock (argv :: lines) =
      .param (clock 0) argv :: commands (fun i => clock (i + 1)) lines := by
  rw [commands, List.mapIdx_cons]
  rfl

/-- Each parameter goes through the lines by itself. -/
theorem lines_table (h : s.Running) {lines : List (List CString)}
    (hlines : ∀ argv ∈ lines, IsLine (request argv)) (clock : Nat → ParamClock) :
    ((commands clock lines).foldl (fun s command => (NshCommand.exec c s command).1) s).manager.table =
      s.manager.table.map fun entry =>
        lines.foldl (fun entry argv => lineEntry c (request argv) entry) entry := by
  induction lines generalizing s clock with
  | nil => exact (List.map_id _).symm
  | cons argv lines ih =>
      obtain ⟨status, hp⟩ := h.next_cases c (.command (clock 0) argv)
      have hrunning : (NshCommand.exec c s (.param (clock 0) argv)).1.Running := hp.running h
      have hfirst : (NshCommand.exec c s (.param (clock 0) argv)).1.manager.table =
          s.manager.table.map (lineEntry c (request argv)) :=
        line_table h (hlines argv List.mem_cons_self) (clock 0)
      rw [commands_cons, List.foldl_cons,
        ih hrunning (fun later hmem => hlines later (List.mem_cons_of_mem argv hmem)) _, hfirst,
        List.map_map]
      rfl

/-! ## What the profile leaves -/

theorem lineEntry_name (r : ParamRequest) (entry : ParamEntry) :
    (lineEntry c r entry).name = entry.name := by
  unfold lineEntry
  split
  · split
    · cases c.accepts entry.type _ <;> rfl
    · rfl
  · split
    · cases c.accepts entry.type _ with
      | none => rfl
      | some value => exact rebase_name entry value.raw
    · rfl
  · rfl

theorem lineEntry_other {r : ParamRequest} {entry : ParamEntry} (h : r.written ≠ some entry.name) :
    lineEntry c r entry = entry := by
  unfold lineEntry
  split
  · exact if_neg fun hname => h (congrArg some hname.symm)
  · exact if_neg fun hname => h (congrArg some hname.symm)
  · rfl

theorem foldl_other {lines : List (List CString)} {entry : ParamEntry}
    (h : ∀ argv ∈ lines, (request argv).written ≠ some entry.name) :
    lines.foldl (fun entry argv => lineEntry c (request argv) entry) entry = entry := by
  induction lines with
  | nil => rfl
  | cons argv lines ih =>
      rw [List.foldl_cons, lineEntry_other (h argv List.mem_cons_self)]
      exact ih fun later hmem => h later (List.mem_cons_of_mem argv hmem)

/-- If the lines name different parameters, one line is all there is for a parameter. -/
theorem foldl_named {lines : List (List CString)}
    (hnames : (lines.map fun argv => (request argv).written).Nodup) {argv : List CString}
    (hmem : argv ∈ lines) {entry : ParamEntry} (hnamed : (request argv).written = some entry.name) :
    lines.foldl (fun entry argv => lineEntry c (request argv) entry) entry =
      lineEntry c (request argv) entry := by
  induction lines generalizing entry with
  | nil => cases hmem
  | cons first lines ih =>
      rw [List.map_cons, List.nodup_cons] at hnames
      rw [List.foldl_cons]
      rcases List.mem_cons.mp hmem with rfl | hmem
      · apply foldl_other
        intro later hlater hsame
        rw [lineEntry_name] at hsame
        exact hnames.1 (List.mem_map.mpr ⟨later, hlater, hsame.trans hnamed.symm⟩)
      · have hother : (request first).written ≠ some entry.name := by
          intro hsame
          exact hnames.1 (List.mem_map.mpr ⟨argv, hmem, hnamed.trans hsame.symm⟩)
        rw [lineEntry_other hother]
        exact ih hnames.2 hmem hnamed

/-- A line of the profile, read for a table: it names a parameter and gives a value of its type. -/
def Reads (table : ParamTable) : ParamRequest → Bool
  | .set name text | .setDefault name text =>
      table.any fun entry => entry.name == name && (meaning entry.type text).isSome
  | _ => false

/-- The parameter of such a line. -/
theorem reads_found {table : ParamTable} {r : ParamRequest} (hreads : Reads table r = true)
    (name text : CString) (hr : r = .set name text ∨ r = .setDefault name text) :
    ∃ (i : Nat) (entry : ParamEntry) (value : ParamValue), table[i]? = some entry ∧ entry.name = name ∧
      meaning entry.type text = some value := by
  have hany : (table.any fun entry => entry.name == name && (meaning entry.type text).isSome) = true := by
    rcases hr with rfl | rfl <;> exact hreads
  obtain ⟨entry, hmem, hentry⟩ := List.any_eq_true.mp hany
  obtain ⟨hname, hmeaning⟩ := Bool.and_eq_true_iff.mp hentry
  obtain ⟨value, hvalue⟩ := Option.isSome_iff_exists.mp hmeaning
  obtain ⟨i, hi⟩ := List.getElem?_of_mem hmem
  exact ⟨i, entry, value, hi, beq_iff_eq.mp hname, hvalue⟩

theorem dualMagneticWheel_reads :
    ∀ argv ∈ dualMagneticWheel, Reads construct.table (request argv) = true := by
  decide +kernel

theorem dualMagneticWheel_names :
    (dualMagneticWheel.map fun argv => (request argv).written).Nodup := by
  decide +kernel

/-- A line has been accepted: it names a parameter, gives a value of its type, and that is the value or
the default in force. A value that is not at its default stays under a new default. -/
def InForce (before after : ParamTable) : ParamRequest → Prop
  | .set name text =>
      ∃ (i : Nat) (entry : ParamEntry) (value : ParamValue), before[i]? = some entry ∧ entry.name = name ∧
        meaning entry.type text = some value ∧ after[i]? = some { entry with value }
  | .setDefault name text =>
      ∃ (i : Nat) (entry : ParamEntry) (value : ParamValue), before[i]? = some entry ∧ entry.name = name ∧
        meaning entry.type text = some value ∧
        after[i]? = some { entry with
          value := if entry.value = entry.defaultValue then value else entry.value
          defaultValue := value }
  | _ => False

theorem rebase_eq (entry : ParamEntry) (value : ParamValue) :
    rebase entry value.raw = { entry with
      value := if entry.value = entry.defaultValue then value else entry.value
      defaultValue := value } := by
  rw [← rebase_value entry value.raw]
  calc rebase entry value.raw
      = ⟨(rebase entry value.raw).name, (rebase entry value.raw).type,
          (rebase entry value.raw).defaultValue, (rebase entry value.raw).value⟩ := rfl
    _ = _ := by rw [rebase_name, rebase_type, rebase_default]

/-- A line that can be read for the table is in force after the lines. -/
theorem inForce_of_reads (hc : ReadsLiterals c) {table : ParamTable} {lines : List (List CString)}
    (hnames : (lines.map fun argv => (request argv).written).Nodup) {argv : List CString}
    (hmem : argv ∈ lines) (hreads : Reads table (request argv) = true) :
    InForce table (table.map fun entry =>
      lines.foldl (fun entry argv => lineEntry c (request argv) entry) entry) (request argv) := by
  have hfound := reads_found hreads
  -- only this line changes the entry it names
  have hentry : ∀ (i : Nat) (entry : ParamEntry), table[i]? = some entry →
      (request argv).written = some entry.name →
        (table.map fun entry => lines.foldl (fun entry argv => lineEntry c (request argv) entry) entry)[i]? =
          some (lineEntry c (request argv) entry) := by
    intro i entry hi hwritten
    rw [List.getElem?_map, hi, Option.map_some, foldl_named hnames hmem hwritten]
  cases hargv : request argv with
  | set name text =>
      obtain ⟨i, entry, value, hi, rfl, hvalue⟩ := hfound name text (.inl hargv)
      refine ⟨i, entry, value, hi, rfl, hvalue, (hentry i entry hi (by rw [hargv]; rfl)).trans ?_⟩
      rw [hargv, lineEntry, if_pos rfl, accepts_of_meaning hc hvalue]
      rfl
  | setDefault name text =>
      obtain ⟨i, entry, value, hi, rfl, hvalue⟩ := hfound name text (.inr hargv)
      refine ⟨i, entry, value, hi, rfl, hvalue, (hentry i entry hi (by rw [hargv]; rfl)).trans ?_⟩
      rw [hargv, lineEntry, if_pos rfl, accepts_of_meaning hc hvalue]
      exact congrArg some (rebase_eq entry value)
  | _ => rw [hargv] at hreads; cases hreads

/-- The definitions of the firmware, whatever the values. -/
def Firmware (s : ParamShell S) : Prop := construct.table.SameShape s.manager.table

omit [ParamStorage S] in
/-- A line that can be read for the firmware can be read for its table. -/
theorem Firmware.reads (h : Firmware s) {r : ParamRequest} (hr : Reads construct.table r = true) :
    Reads s.manager.table r = true := by
  have hany : ∀ (table : ParamTable) (name text : CString),
      (table.any fun entry => entry.name == name && (meaning entry.type text).isSome) =
        (table.map fun entry => (entry.name, entry.type)).any fun p =>
          p.1 == name && (meaning p.2 text).isSome := by
    intro table name text
    rw [List.any_map]
    rfl
  unfold Reads at hr ⊢
  split at hr
  · rw [hany, ← h, ← hany]
    exact hr
  · rw [hany, ← h, ← hany]
    exact hr
  · cases hr

/-- Such a line succeeds. -/
theorem reads_succeeds (hc : ReadsLiterals c) (h : s.Running) {argv : List CString}
    (hreads : Reads s.manager.table (request argv) = true) (clock : ParamClock) :
    (execute c clock s argv).2.1 = 0 := by
  have hfound := reads_found hreads
  cases hargv : request argv with
  | set name text =>
      obtain ⟨i, entry, value, hi, rfl, hvalue⟩ := hfound name text (.inl hargv)
      exact ((h.set_spec hi hargv clock).2 value (accepts_of_meaning hc hvalue)).2
  | setDefault name text =>
      obtain ⟨i, entry, value, hi, rfl, hvalue⟩ := hfound name text (.inr hargv)
      exact ((h.setDefault_spec hi hargv clock).2 value (accepts_of_meaning hc hvalue)).2
  | _ => rw [hargv] at hreads; cases hreads

theorem isLine_of_reads {table : ParamTable} {r : ParamRequest} (hreads : Reads table r = true) :
    IsLine r := by
  cases r <;> trivial

/-- A line that can be read for the firmware succeeds and leaves it so. -/
theorem commands_step (hc : ReadsLiterals c) {lines : List (List CString)}
    (hreads : ∀ argv ∈ lines, Reads construct.table (request argv) = true) (clock : Nat → ParamClock) :
    ∀ command ∈ commands clock lines, ∀ s : ParamShell S, s.Running ∧ Firmware s →
      ((NshCommand.exec c s command).1.Running ∧ Firmware (NshCommand.exec c s command).1) ∧
        NshCommand.succeeds (NshCommand.exec c s command).2 = true := by
  intro command hmem s hs
  obtain ⟨i, hlt, rfl⟩ := List.mem_mapIdx.mp hmem
  have hline := hreads _ (List.getElem_mem hlt)
  generalize lines[i] = argv at hline
  obtain ⟨status, hp⟩ := hs.1.next_cases c (.command (clock i) argv)
  refine ⟨⟨hp.running hs.1, hs.2.trans hp.sameShape⟩, ?_⟩
  exact beq_iff_eq.mpr (reads_succeeds hc hs.1 (hs.2.reads hline) (clock i))

/-- The number of the profile is selected. -/
def Selected (s : ParamShell S) : Prop :=
  ∃ entry ∈ s.manager.table, entry.name = cstr "SYS_AUTOSTART" ∧ entry.value.integer = 1

/-- The test of the boot script. -/
theorem compare_selected (h : s.Running) (hfirmware : Firmware s) (clock : ParamClock) :
    let tested := execute c clock s (words ["param", "compare", "SYS_AUTOSTART", "1"])
    tested.1 = s ∧ (tested.2.1 = 0 ↔ Selected s) := by
  intro tested
  have hreads : Reads construct.table (.set (cstr "SYS_AUTOSTART") (cstr "1")) = true := by
    decide +kernel
  have hint : ∀ entry ∈ construct.table, entry.name = cstr "SYS_AUTOSTART" → entry.type = .int32 := by
    decide +kernel
  -- the firmware has the parameter, as an integer
  obtain ⟨entry, hmem, hentry⟩ := List.any_eq_true.mp (hfirmware.reads hreads)
  have hname : entry.name = cstr "SYS_AUTOSTART" := beq_iff_eq.mp (Bool.and_eq_true_iff.mp hentry).1
  have htype : entry.type = .int32 := by
    have hpair : (entry.name, entry.type) ∈ construct.table.map fun e => (e.name, e.type) := by
      rw [hfirmware]
      exact List.mem_map_of_mem hmem
    obtain ⟨old, hold, heq⟩ := List.mem_map.mp hpair
    rw [← (Prod.mk.inj heq).2]
    exact hint old hold ((Prod.mk.inj heq).1.trans hname)
  obtain ⟨i, hi⟩ := List.getElem?_of_mem hmem
  have hargv : request (words ["param", "compare", "SYS_AUTOSTART", "1"]) =
      .compare entry.name (cstr "1") := by
    rw [hname]
    decide +kernel
  have hone : Denotes (cstr "1") 1 := readInteger_iff.mp (by decide +kernel)
  refine ⟨(h.compare_spec hi hargv clock).1, ?_⟩
  rw [(ParamShell.integer_texts h hi htype clock).2 hargv]
  constructor
  · intro hdenotes
    refine ⟨entry, hmem, hname, ?_⟩
    rw [← Int32.toInt_inj, hdenotes.unique hone]
    rfl
  · rintro ⟨other, hother, hsame, hvalue⟩
    have hunique := eq_of_key h.table.names hmem hother (hname.trans hsame.symm)
    rw [hunique, hvalue]
    exact hone

/-- The lines of a profile have been sourced from `s`, behind the test. -/
structure Sourced (lines : List (List CString)) (clock : Nat → ParamClock) (s : ParamShell S)
    (after : Script.Outcome NshCommand (ParamShell S) Int32) : Prop where
  finished : after.finished = true
  /-- The test and every line ran, in order. -/
  ran : after.log.map Prod.fst =
    compareAutostart (clock 0) :: commands (fun i => clock (i + 1)) lines
  /-- None of them had an error. -/
  accepted : ∀ entry ∈ after.log, entry.2 = 0
  inForce : ∀ argv ∈ lines, InForce s.manager.table after.state.manager.table (request argv)
  /-- A parameter that no line names is as before. -/
  other : ∀ (i : Nat) (entry : ParamEntry), s.manager.table[i]? = some entry →
    (∀ argv ∈ lines, (request argv).written ≠ some entry.name) →
      after.state.manager.table[i]? = some entry

/-- There is no profile for the number: nothing has changed, the script has said so and its last command
has failed, which ends it where errors stop it. -/
structure Unsupported (clock : Nat → ParamClock) (stopOnError : Bool) (s : ParamShell S)
    (after : Script.Outcome NshCommand (ParamShell S) Int32) : Prop where
  state : after.state = s
  ran : ∃ status, status ≠ 0 ∧
    after.log = [(compareAutostart (clock 0), status), (unsupported, 0), (.false, 1)]
  finished : after.finished = !stopOnError

/-- Lines that can be read for the firmware and name different parameters. -/
theorem sourced_of_reads (hc : ReadsLiterals c) (h : s.Running) (hfirmware : Firmware s)
    {lines : List (List CString)}
    (hreads : ∀ argv ∈ lines, Reads construct.table (request argv) = true)
    (hnames : (lines.map fun argv => (request argv).written).Nodup) (clock : Nat → ParamClock)
    (stopOnError : Bool) :
    Sourced lines clock s (((Script.lines (commands (fun i => clock (i + 1)) lines)).eval
      (NshCommand.exec c) NshCommand.succeeds stopOnError s).after [(compareAutostart (clock 0), 0)]) := by
  have hstep := commands_step (S := S) hc hreads fun i => clock (i + 1)
  have hlines : Script.Triple (NshCommand.exec c) NshCommand.succeeds stopOnError _ _ _ :=
    Script.Triple.lines hstep
  have hstate : ((Script.lines (commands (fun i => clock (i + 1)) lines)).eval (NshCommand.exec c)
      NshCommand.succeeds stopOnError s).state = _ := Script.Triple.lines_state hstep ⟨h, hfirmware⟩
  obtain ⟨hfinished, -, hran, hstatus⟩ := hlines s ⟨h, hfirmware⟩
  have htable := lines_table (c := c) h (fun argv hmem => isLine_of_reads (hreads argv hmem))
    fun i => clock (i + 1)
  rw [← hstate] at htable
  constructor
  case finished => exact hfinished
  case ran => exact congrArg (compareAutostart (clock 0) :: ·) hran
  case accepted =>
    intro entry hmem
    rcases List.mem_cons.mp hmem with rfl | hmem
    · rfl
    · exact beq_iff_eq.mp (hstatus entry hmem)
  case inForce =>
    intro argv hmem
    have hline := inForce_of_reads hc hnames hmem (hfirmware.reads (hreads argv hmem))
    rw [← htable] at hline
    exact hline
  case other =>
    intro i entry hi hother
    have hentry := congrArg (·[i]?) htable
    rw [List.getElem?_map, hi, Option.map_some, foldl_other hother] at hentry
    exact hentry

/-- The boot script on the parameters of the firmware, whatever values they have and whether or not errors
stop it: the profile is sourced if its number is selected, and otherwise there is none. -/
theorem autostart_spec (hc : ReadsLiterals c) (h : s.Running) (hfirmware : Firmware s)
    (clock : Nat → ParamClock) (stopOnError : Bool) :
    let after := (autostart clock).eval (NshCommand.exec c) NshCommand.succeeds stopOnError s
    (Selected s → Sourced dualMagneticWheel clock s after) ∧
      (¬ Selected s → Unsupported clock stopOnError s after) := by
  suffices htriple : Script.Triple (NshCommand.exec c) NshCommand.succeeds stopOnError (fun t => t = s)
      (autostart clock) fun after => (Selected s → Sourced dualMagneticWheel clock s after) ∧
        (¬ Selected s → Unsupported clock stopOnError s after) from htriple s rfl
  refine Script.Triple.branch (R := fun t status => t = s ∧ (status = 0 ↔ Selected s)) ?_ ?_ ?_
  · rintro t rfl
    exact compare_selected h hfirmware (clock 0)
  · rintro status hok t ⟨rfl, hselected⟩
    obtain rfl : status = 0 := beq_iff_eq.mp hok
    refine ⟨fun _ => ?_, fun hnot => absurd (hselected.mp rfl) hnot⟩
    exact sourced_of_reads hc h hfirmware dualMagneticWheel_reads dualMagneticWheel_names clock stopOnError
  · rintro status hfailed t ⟨rfl, hselected⟩
    have hne : status ≠ 0 := by
      rintro rfl
      cases hfailed
    refine ⟨fun hyes => absurd (hselected.mpr hyes) hne, fun _ => ?_⟩
    -- the second line fails, and there is none after it
    cases stopOnError <;> exact ⟨rfl, ⟨status, hne, rfl⟩, rfl⟩

/-- A library that reads the literals of the profile. -/
def profileLibrary : CLibrary where
  longWidth := 32
  wide := by decide
  strtof text :=
    match realLiteral text with
    | some v => { value := v, converted := true, rest := [], error := .false }
    | none => { value := 0, converted := .false, rest := text, error := .false }

theorem autostart_spec_construct :
    let after := (autostart fun i => ⟨UInt64.ofNat i, UInt64.ofNat i⟩).eval (NshCommand.exec profileLibrary)
      NshCommand.succeeds true ParamShell.demoShell
    after.finished = true ∧ (∀ entry ∈ after.log, entry.2 = 0) ∧
      InForce ParamShell.demoShell.manager.table after.state.manager.table
        (.set (cstr "CA_AIRFRAME") (cstr "1")) := by
  have hc : ReadsLiterals profileLibrary := by
    intro text v hliteral
    simp only [profileLibrary, hliteral]
  have hselected : Selected ParamShell.demoShell := by
    refine ⟨⟨cstr "SYS_AUTOSTART", .int32, .ofInteger 1, .ofInteger 1⟩, ?_, rfl, rfl⟩
    decide +kernel
  have hfirmware : Firmware ParamShell.demoShell := by
    unfold Firmware ParamTable.SameShape
    decide +kernel
  have hsourced := (autostart_spec hc ParamShell.demoShell_running hfirmware
    (fun i => ⟨UInt64.ofNat i, UInt64.ofNat i⟩) true).1 hselected
  exact ⟨hsourced.finished, hsourced.accepted, hsourced.inForce _ List.mem_cons_self⟩

end BootScript

end DualMagneticWheel
