/-
# DualMagneticWheel.Params.ParamCommand — the `param` command

The command of the shell that shows, sets and compares parameters. A command line becomes a request, and
the request is carried out on the manager with nobody in between. Numbers come as text: integers are read
by `strtol` in base 0, real numbers by the `strtof` of the C library, and only as a whole.

`parseInt_iff` says which texts are accepted for an integer parameter, and `perform_cases` says once what
a command can do: nothing, one write to the parameter it names, a change of all values, or a save.
-/
import DualMagneticWheel.Foundation.Numeral
import DualMagneticWheel.Params.Profile

namespace DualMagneticWheel

open Foundation

/-! ## The C library -/

/-- What `strtol` and `strtof` leave behind. -/
structure Conversion (V : Type) where
  value : V
  /-- The end pointer has moved. -/
  converted : Bool
  /-- The text from the end pointer on. -/
  rest : CString
  /-- `errno` is set. -/
  error : Bool

/-- The width of `long`, and `strtof`. -/
structure CLibrary where
  longWidth : Nat
  wide : 32 ≤ longWidth
  strtof : CString → Conversion Float32

namespace CLibrary

variable (c : CLibrary)

/-- `strtol(text, &end, 0)`: a number that does not fit becomes the nearest one, with an error. -/
def strtol (text : CString) : Conversion Int :=
  match readInteger text with
  | none => { value := 0, converted := false, rest := text, error := false }
  | some (value, rest) =>
      if value < -2 ^ (c.longWidth - 1) then
        { value := -2 ^ (c.longWidth - 1), converted := true, rest, error := true }
      else if 2 ^ (c.longWidth - 1) ≤ value then
        { value := 2 ^ (c.longWidth - 1) - 1, converted := true, rest, error := true }
      else { value, converted := true, rest, error := false }

/-- The tests that `setFromText`, `setDefaultFromText` and `compare` make on an integer. -/
def parseInt (text : CString) : Option Int32 :=
  let parsed := c.strtol text
  if parsed.error || !parsed.converted || !parsed.rest.isEmpty ||
      decide (parsed.value < -2147483648) || decide (2147483647 < parsed.value) then none
  else some (Int32.ofInt parsed.value)

/-- The tests that they make on a real number. -/
def parseFloat (text : CString) : Option Float32 :=
  let parsed := c.strtof text
  if parsed.error || !parsed.converted || !parsed.rest.isEmpty then none else some parsed.value

end CLibrary

/-! ## The shell -/

/-- `ParamStorage`, the interface to a storage. -/
class ParamStorage (S : Type) where
  load : S → S × Option ParamStorageSnapshot
  save : S → ParamStorageSnapshot → S × Bool

/-- The manager with its storage and what it has published, newest first. -/
structure ParamShell (S : Type) where
  manager : ParamManager
  storage : S
  published : List ParameterUpdate := []

/-- The clock readings of a command: for a change, and for its notification. -/
structure ParamClock where
  change : UInt64
  notice : UInt64

/-- What the command prints; `reason` goes to `stderr`. -/
inductive ParamLine where
  | reason (text : String)
  | usage
  | int (name : CString) (value : Int32)
  | float (name : CString) (value : Float32)
  | shown (count : Nat)
  | text (line : String)
  | status (count : Nat) (generation storageSequence : UInt32) (dirty : Bool)

namespace ParamManager

/-- `ParamInvalid`. -/
def ParamInvalid : UInt16 := 0xffff

/-- `ParamManager::find`. -/
def find (m : ParamManager) (name : CString) : UInt16 :=
  match m.table.find name with
  | some index => UInt16.ofNat index
  | none => ParamInvalid

/-- `ParamManager::definition`, with the value. -/
def definition (m : ParamManager) (handle : UInt16) : Option ParamEntry := m.table[handle.toNat]?

end ParamManager

namespace ParamShell

variable {S : Type} [ParamStorage S]

/-- `publishUpdate`, if there is something to publish. -/
def publishUpdate (clock : ParamClock) (notice : Option (UInt32 × Bool)) (s : ParamShell S) :
    ParamShell S :=
  { s with published := (notice.map fun n => ⟨clock.notice, n.1, n.2⟩).toList ++ s.published }

/-- A manager after a change, with the generation to publish. -/
def change (clock : ParamClock) (s : ParamShell S) (result : ParamManager × Option UInt32) :
    ParamShell S :=
  publishUpdate clock (result.2.map fun generation => (generation, false))
    { s with manager := result.1 }

/-- `paramSystemInitialize`. -/
def paramSystemInitialize (s : ParamShell S) : ParamShell S :=
  match s.manager.initializeBegin with
  | (_, false) => s
  | (manager, true) =>
      match ParamStorage.load s.storage with
      | (storage, none) => { s with manager, storage }
      | (storage, some snapshot) => { s with manager := manager.initializeEnd snapshot, storage }

/-- `ParamManager::save`. -/
def save (clock : ParamClock) (s : ParamShell S) : ParamShell S × Bool :=
  match s.manager.saveBegin with
  | .refused => (s, false)
  | .clean => (s, true)
  | .captured snapshot capturedGeneration =>
      match ParamStorage.save s.storage snapshot with
      | (storage, false) => ({ s with storage }, false)
      | (storage, true) =>
          let (manager, currentGeneration, allSaved) :=
            s.manager.saveEnd snapshot capturedGeneration
          (publishUpdate clock (some (currentGeneration, allSaved)) { s with manager, storage }, true)

/-- `ParamManager::load`. -/
def load (clock : ParamClock) (s : ParamShell S) : ParamShell S × Bool :=
  if !s.manager.loadBegin then (s, false)
  else
    match ParamStorage.load s.storage with
    | (storage, none) => ({ s with storage }, false)
    | (storage, some snapshot) =>
        let (manager, changedGeneration) := s.manager.loadEnd snapshot
        (publishUpdate clock (some (changedGeneration, true)) { s with manager, storage }, true)

end ParamShell

/-! ## Requests -/

/-- The branches of `ParamCommand::execute`. -/
inductive ParamRequest where
  | help
  | compare (name text : CString)
  | show (pattern : CString)
  | get (name : CString)
  | set (name text : CString)
  | setDefault (name text : CString)
  | reset (name : CString)
  | resetAll
  | save
  | load
  | status
  | unknown
  deriving DecidableEq

namespace ParamCommand

/-- The branch that `execute` takes. -/
def request (argv : List CString) : ParamRequest :=
  let command := argv.getD 1 []
  let name := argv.getD 2 []
  let text := argv.getD 3 []
  if argv.length < 2 ∨ command = cstr "help" ∨ command = cstr "-h" then .help
  else if command = cstr "compare" ∧ argv.length = 4 then .compare name text
  else if command = cstr "show" then .show (if 3 ≤ argv.length then name else cstr "*")
  else if command = cstr "get" ∧ 3 ≤ argv.length then .get name
  else if command = cstr "set" ∧ 4 ≤ argv.length then .set name text
  else if command = cstr "set-default" ∧ 4 ≤ argv.length then .setDefault name text
  else if command = cstr "reset" ∧ 3 ≤ argv.length then
    if name = cstr "all" then .resetAll else .reset name
  else if command = cstr "save" then .save
  else if command = cstr "load" then .load
  else if command = cstr "status" then .status
  else .unknown

/-- `ParamCommand::printUsage` with a reason. -/
def printUsage (reason : String) : Int32 × List ParamLine := (-1, [.reason reason, .usage])

/-- `ParamCommand::nameMatches`; `strncmp` looks at the characters before the star. -/
def nameMatches (name pattern : CString) : Bool :=
  if pattern = [] ∨ pattern = cstr "*" then true
  else if pattern.getLast? = some 0x2a then
    name.take (pattern.length - 1) == pattern.take (pattern.length - 1)
  else name == pattern

/-- The line of a parameter. -/
def parameterLine (entry : ParamEntry) : ParamLine :=
  match entry.type with
  | .int32 => .int entry.name entry.value.integer
  | .float => .float entry.name entry.value.real

/-- `ParamCommand::printParameter`; a parameter of the table can always be read. -/
def printParameter (m : ParamManager) (handle : UInt16) : Option ParamLine :=
  (m.definition handle).map parameterLine

/-- `ParamCommand::setFromText`: the manager, the result and the generation to publish. -/
def setFromText (c : CLibrary) (now : UInt64) (m : ParamManager) (handle : UInt16) (text : CString) :
    ParamManager × Bool × Option UInt32 :=
  match m.definition handle with
  | none => (m, false, none)
  | some definition =>
      match definition.type with
      | .int32 =>
          match c.parseInt text with
          | none => (m, false, none)
          | some parsed => m.setInt handle parsed now
      | .float =>
          match c.parseFloat text with
          | none => (m, false, none)
          | some parsed => m.setFloat handle parsed now

/-- `ParamCommand::setDefaultFromText`. -/
def setDefaultFromText (c : CLibrary) (m : ParamManager) (handle : UInt16) (text : CString) :
    ParamManager × Bool × Option UInt32 :=
  match m.definition handle with
  | none => (m, false, none)
  | some definition =>
      match definition.type with
      | .int32 =>
          match c.parseInt text with
          | none => (m, false, none)
          | some parsed => m.setDefaultInt handle parsed
      | .float =>
          match c.parseFloat text with
          | none => (m, false, none)
          | some parsed => m.setDefaultFloat handle parsed

/-- `ParamCommand::compare`: zero if the value is the one of the text. -/
def compare (c : CLibrary) (m : ParamManager) (name text : CString) : Int32 × List ParamLine :=
  match m.definition (m.find name) with
  | none => printUsage "parameter not found"
  | some definition =>
      match definition.type with
      | .int32 =>
          match c.parseInt text with
          | none => printUsage "invalid comparison value"
          | some parsed => (if definition.value.integer = parsed then 0 else -1, [])
      | .float =>
          match c.parseFloat text with
          | none => printUsage "invalid comparison value"
          | some parsed =>
              if !parsed.isFinite then printUsage "invalid comparison value"
              else (if definition.value.real == parsed then 0 else -1, [])

variable {S : Type} [ParamStorage S]

/-- The branch of a request, with the status and what is printed. -/
def perform (c : CLibrary) (clock : ParamClock) (s : ParamShell S) :
    ParamRequest → ParamShell S × Int32 × List ParamLine
  | .help => (s, 0, [.usage])
  | .compare name text => (s, compare c s.manager name text)
  | .show pattern =>
      let found := s.manager.table.filter fun entry => nameMatches entry.name pattern
      (s, 0, found.map parameterLine ++ [.shown found.length])
  | .get name =>
      match printParameter s.manager (s.manager.find name) with
      | some line => (s, 0, [line])
      | none => (s, printUsage "parameter not found")
  | .set name text =>
      let handle := s.manager.find name
      match setFromText c clock.change s.manager handle text with
      | (_, false, _) => (s, printUsage "parameter value or type is invalid")
      | (manager, true, notice) =>
          (s.change clock (manager, notice), 0,
            (printParameter manager handle).toList ++ [.text "autosave pending"])
  | .setDefault name text =>
      let handle := s.manager.find name
      match setDefaultFromText c s.manager handle text with
      | (_, false, _) => (s, printUsage "parameter default value or type is invalid")
      | (manager, true, notice) =>
          (s.change clock (manager, notice), 0, (printParameter manager handle).toList)
  | .reset name =>
      let handle := s.manager.find name
      match s.manager.reset handle clock.change with
      | (_, false, _) => (s, printUsage "parameter not found")
      | (manager, true, notice) =>
          (s.change clock (manager, notice), 0,
            (printParameter manager handle).toList ++ [.text "autosave pending"])
  | .resetAll =>
      (s.change clock (s.manager.resetAll clock.change), 0,
        [.text "all parameters reset; autosave pending"])
  | .save =>
      match s.save clock with
      | (s, true) => (s, 0, [.text "parameters saved"])
      | (s, false) => (s, -1, [.text "parameter save failed"])
  | .load =>
      match s.load clock with
      | (s, true) => (s, 0, [.text "parameters loaded"])
      | (s, false) => (s, -1, [.text "no valid parameter snapshot"])
  | .status =>
      (s, 0, [.status s.manager.table.length s.manager.generation s.manager.storageSequence
        s.manager.dirty])
  | .unknown => (s, printUsage "unknown param command")

/-- `ParamCommand::execute`. -/
def execute (c : CLibrary) (clock : ParamClock) (s : ParamShell S) (argv : List CString) :
    ParamShell S × Int32 × List ParamLine :=
  perform c clock s.paramSystemInitialize (request argv)

end ParamCommand

/-! ## Integers as text -/

/-- A text is accepted as an integer exactly when it denotes one that an `int32_t` holds, however wide
`long` is. -/
theorem CLibrary.parseInt_iff (c : CLibrary) (text : CString) (v : Int32) :
    c.parseInt text = some v ↔ Denotes text v.toInt := by
  have hpow : (2147483648 : Int) ≤ 2 ^ (c.longWidth - 1) := by
    have hwide : 31 ≤ c.longWidth - 1 := by
      have hwide := c.wide
      omega
    exact_mod_cast Nat.pow_le_pow_right (by omega : 0 < 2) hwide
  have hlow : -2147483648 ≤ v.toInt := Int32.le_toInt v
  have hhigh : v.toInt < 2147483648 := Int32.toInt_lt v
  rw [← readInteger_iff, CLibrary.parseInt, CLibrary.strtol]
  cases hread : readInteger text with
  | none => simp
  | some found =>
      obtain ⟨value, rest⟩ := found
      rw [Option.some_inj, Prod.mk.injEq]
      dsimp only
      split
      · -- too small for `long`, so too small for the parameter
        simp only [Bool.true_or, if_true, reduceCtorEq, false_iff, not_and]
        intro hvalue
        omega
      · split
        · simp only [Bool.true_or, if_true, reduceCtorEq, false_iff, not_and]
          intro hvalue
          omega
        · simp only [Bool.false_or, Bool.not_true, Bool.or_eq_true, Bool.not_eq_true',
            List.isEmpty_eq_false_iff, decide_eq_true_eq]
          split
          · rename_i hout
            simp only [reduceCtorEq, false_iff, not_and]
            rintro rfl hnil
            rcases hout with (hrest | hsmall) | hlarge
            · exact hrest hnil
            · omega
            · omega
          · rename_i hin
            simp only [not_or, not_not, not_lt] at hin
            rw [Option.some_inj]
            constructor
            · rintro rfl
              exact ⟨(Int32.toInt_ofInt_of_le hin.1.2 (by omega)).symm, hin.1.1⟩
            · rintro ⟨rfl, -⟩
              exact Int32.ofInt_toInt v

/-! ## What a write does -/

/-- The value that a text stands for, if it is accepted for a parameter of the type. -/
def CLibrary.accepts (c : CLibrary) (type : ParamType) (text : CString) : Option ParamValue :=
  match type with
  | .int32 => (c.parseInt text).map .ofInteger
  | .float => (c.parseFloat text).bind fun v => if v.isFinite then some (.ofReal v) else none

namespace ParamManager

/-- A parameter that is found has the name that was looked for. -/
theorem definition_find {m : ParamManager} (h : m.table.length ≤ ParamMaxCount) {name : CString}
    {entry : ParamEntry} (hentry : m.definition (m.find name) = some entry) : entry.name = name := by
  have hmax : ParamMaxCount = 160 := rfl
  unfold find definition at hentry
  cases hfind : m.table.find name with
  | none =>
      rw [hfind] at hentry
      have hnone : m.table[ParamInvalid.toNat]? = none :=
        List.getElem?_eq_none (Nat.le_trans h (by decide))
      rw [hnone] at hentry
      cases hentry
  | some index =>
      obtain ⟨hlt, hname, -⟩ := List.findIdx?_eq_some_iff_getElem.mp hfind
      rw [hfind] at hentry
      dsimp only at hentry
      rw [UInt16.toNat_ofNat_of_lt' (show index < 65536 by omega), List.getElem?_eq_getElem hlt,
        Option.some_inj] at hentry
      rw [← hentry]
      exact beq_iff_eq.mp hname

/-- A parameter is found under its name. -/
theorem find_name {m : ParamManager} (h : WellFormed m.table) {i : Nat} {entry : ParamEntry}
    (hi : m.table[i]? = some entry) : (m.find entry.name).toNat = i := by
  have hmax : ParamMaxCount = 160 := rfl
  obtain ⟨hlt, hget⟩ := List.getElem?_eq_some_iff.mp hi
  have hfind : m.table.find entry.name = some i := by
    refine List.findIdx?_eq_some_iff_getElem.mpr ⟨hlt, ?_, ?_⟩
    · rw [hget]
      exact beq_self_eq_true entry.name
    · -- an earlier one of the same name would be the same one
      intro j hj hsame
      have hnames := List.pairwise_iff_getElem.mp h.names j i (by rw [List.length_map]; omega)
        (by rw [List.length_map]; omega) hj
      rw [List.getElem_map, List.getElem_map, hget] at hnames
      exact hnames (beq_iff_eq.mp hsame)
  have hshort := h.short
  rw [find, hfind]
  exact UInt16.toNat_ofNat_of_lt' (show i < 65536 by omega)

/-- Nothing is left to publish, or the present generation is. -/
def Notifies (m : ParamManager) (result : ParamManager × Option UInt32) : Prop :=
  result = (m, none) ∨
    result.2 = some result.1.generation ∧ result.1.initialized = m.initialized

theorem setRaw_accepts {m : ParamManager} {handle : UInt16} {entry : ParamEntry} {type : ParamType}
    (hentry : m.definition handle = some entry) (htype : entry.type = type) (rawValue : UInt32)
    (now : UInt64) :
    (m.setRaw handle type rawValue now).2.1 = true ∧
      (m.setRaw handle type rawValue now).1.table =
        m.table.set handle.toNat { entry with value := ⟨rawValue⟩ } ∧
      m.Notifies ((m.setRaw handle type rawValue now).1, (m.setRaw handle type rawValue now).2.2) := by
  subst htype
  unfold definition at hentry
  simp only [setRaw, hentry, Ne, not_true, if_false]
  by_cases hvalue : entry.value.raw = rawValue
  · rw [if_neg (not_not.mpr hvalue)]
    refine ⟨rfl, ?_, Or.inl rfl⟩
    obtain ⟨hlt, rfl⟩ := List.getElem?_eq_some_iff.mp hentry
    rw [← hvalue]
    exact (List.set_getElem_self hlt).symm
  · rw [if_pos hvalue]
    exact ⟨rfl, rfl, Or.inr ⟨rfl, rfl⟩⟩

theorem setDefaultRaw_accepts {m : ParamManager} {handle : UInt16} {entry : ParamEntry}
    {type : ParamType} (hentry : m.definition handle = some entry) (htype : entry.type = type)
    (rawValue : UInt32) :
    (m.setDefaultRaw handle type rawValue).2.1 = true ∧
      (m.setDefaultRaw handle type rawValue).1.table =
        m.table.set handle.toNat (rebase entry rawValue) ∧
      m.Notifies ((m.setDefaultRaw handle type rawValue).1,
        (m.setDefaultRaw handle type rawValue).2.2) := by
  subst htype
  unfold definition at hentry
  simp only [setDefaultRaw, hentry, Ne, not_true, if_false, rebase]
  by_cases hdefault : entry.defaultValue.raw = rawValue
  · rw [if_pos hdefault, if_pos hdefault]
    refine ⟨rfl, ?_, Or.inl rfl⟩
    obtain ⟨hlt, rfl⟩ := List.getElem?_eq_some_iff.mp hentry
    exact (List.set_getElem_self hlt).symm
  · rw [if_neg hdefault, if_neg hdefault]
    exact ⟨rfl, rfl, Or.inr ⟨rfl, rfl⟩⟩

theorem reset_accepts {m : ParamManager} {handle : UInt16} {entry : ParamEntry}
    (hentry : m.definition handle = some entry) (now : UInt64) :
    (m.reset handle now).2.1 = true ∧
      (m.reset handle now).1.table =
        m.table.set handle.toNat { entry with value := entry.defaultValue } ∧
      m.Notifies ((m.reset handle now).1, (m.reset handle now).2.2) := by
  have hbegin : m.resetBegin handle = some (entry.type, entry.defaultValue.raw) := by
    unfold definition at hentry
    rw [resetBegin, hentry]
    rfl
  rw [reset, hbegin]
  exact setRaw_accepts hentry rfl entry.defaultValue.raw now

/-- How a write ends: refused, or with one parameter changed, which keeps its name and its type. -/
inductive Wrote (m : ParamManager) (handle : UInt16) : ParamManager × Bool × Option UInt32 → Prop
  | refused {manager : ParamManager} {notice : Option UInt32} :
      Wrote m handle (manager, false, notice)
  | accepted {entry changed : ParamEntry} {manager : ParamManager} {notice : Option UInt32} :
      m.definition handle = some entry → changed.name = entry.name → changed.type = entry.type →
      manager.table = m.table.set handle.toNat changed → m.Notifies (manager, notice) →
      Wrote m handle (manager, true, notice)

variable (m : ParamManager) (handle : UInt16)

theorem wrote_of_accepts {result : ParamManager × Bool × Option UInt32} {entry changed : ParamEntry}
    (hentry : m.definition handle = some entry)
    (haccepts : result.2.1 = true ∧ result.1.table = m.table.set handle.toNat changed ∧
      m.Notifies (result.1, result.2.2))
    (hname : changed.name = entry.name) (htype : changed.type = entry.type) : m.Wrote handle result := by
  obtain ⟨manager, ok, notice⟩ := result
  obtain ⟨rfl, htable, hnotifies⟩ := haccepts
  exact .accepted hentry hname htype htable hnotifies

end ParamManager

namespace ParamCommand

open ParamManager

variable (c : CLibrary) (m : ParamManager) (handle : UInt16)

theorem setFromText_eq {entry : ParamEntry} (hentry : m.definition handle = some entry) (now : UInt64)
    (text : CString) :
    setFromText c now m handle text =
      match c.accepts entry.type text with
      | none => (m, false, none)
      | some value => m.setRaw handle entry.type value.raw now := by
  unfold setFromText CLibrary.accepts
  rw [hentry]
  dsimp only
  cases entry.type with
  | int32 => cases c.parseInt text <;> rfl
  | float =>
      dsimp only
      cases c.parseFloat text with
      | none => rfl
      | some parsed =>
          cases hfinite : parsed.isFinite <;> simp [setFloat, hfinite]

theorem setDefaultFromText_eq {entry : ParamEntry} (hentry : m.definition handle = some entry)
    (text : CString) :
    setDefaultFromText c m handle text =
      match c.accepts entry.type text with
      | none => (m, false, none)
      | some value => m.setDefaultRaw handle entry.type value.raw := by
  unfold setDefaultFromText CLibrary.accepts
  rw [hentry]
  dsimp only
  cases entry.type with
  | int32 => cases c.parseInt text <;> rfl
  | float =>
      dsimp only
      cases c.parseFloat text with
      | none => rfl
      | some parsed =>
          cases hfinite : parsed.isFinite <;> simp [setDefaultFloat, hfinite]

theorem setFromText_wrote (now : UInt64) (text : CString) :
    m.Wrote handle (setFromText c now m handle text) := by
  cases hentry : m.definition handle with
  | none =>
      rw [setFromText, hentry]
      exact .refused
  | some entry =>
      rw [setFromText_eq c m handle hentry]
      cases c.accepts entry.type text with
      | none => exact .refused
      | some value =>
          exact wrote_of_accepts m handle hentry (setRaw_accepts hentry rfl value.raw now) rfl rfl

theorem setDefaultFromText_wrote (text : CString) :
    m.Wrote handle (setDefaultFromText c m handle text) := by
  cases hentry : m.definition handle with
  | none =>
      rw [setDefaultFromText, hentry]
      exact .refused
  | some entry =>
      rw [setDefaultFromText_eq c m handle hentry]
      cases c.accepts entry.type text with
      | none => exact .refused
      | some value =>
          exact wrote_of_accepts m handle hentry (setDefaultRaw_accepts hentry rfl value.raw)
            (rebase_name _ _) (rebase_type _ _)

theorem reset_wrote (now : UInt64) : m.Wrote handle (m.reset handle now) := by
  cases hentry : m.definition handle with
  | none =>
      have hnone : m.resetBegin handle = none := by
        unfold definition at hentry
        rw [resetBegin, hentry]
        rfl
      rw [reset, hnone]
      exact .refused
  | some entry => exact wrote_of_accepts m handle hentry (reset_accepts hentry now) rfl rfl

end ParamCommand

/-! ## What a command does -/

/-- The parameter that a request is about, if it is about one and may change it. -/
def ParamRequest.written : ParamRequest → Option CString
  | .set name _ | .setDefault name _ | .reset name => some name
  | _ => none

/-- A request about the values of all parameters. -/
def ParamRequest.Sweeps (r : ParamRequest) : Prop := r = .resetAll ∨ r = .load

/-- A request that may change this parameter. -/
def ParamRequest.Touches (r : ParamRequest) (name : CString) : Prop := r.written = some name ∨ r.Sweeps

instance (r : ParamRequest) (name : CString) : Decidable (r.Touches name) :=
  inferInstanceAs (Decidable (_ ∨ _ ∨ _))

namespace ParamShell

variable {S : Type}

/-- One publication more, with the present generation. -/
def Announces (s s' : ParamShell S) : Prop :=
  s'.manager.initialized = s.manager.initialized ∧
    ∃ update, s'.published = update :: s.published ∧ update.generation = s'.manager.generation

/-- What a request can lead to, with its status. -/
inductive Performed (s : ParamShell S) (r : ParamRequest) (s' : ParamShell S) (status : Int32) : Prop
  /-- Neither the manager nor the topic has changed. -/
  | quiet : s'.manager = s.manager → s'.published = s.published → Performed s r s' status
  /-- The parameter of the request was written. -/
  | wrote {name : CString} {entry changed : ParamEntry} : r.written = some name →
      s.manager.definition (s.manager.find name) = some entry → changed.name = entry.name →
      changed.type = entry.type →
      s'.manager.table = s.manager.table.set (s.manager.find name).toNat changed →
      s.Announces s' → status = 0 → Performed s r s' status
  /-- All values were set. -/
  | swept : r.Sweeps → ParamManager.definitions s'.manager.table =
      ParamManager.definitions s.manager.table → s.Announces s' → status = 0 → Performed s r s' status
  /-- A snapshot was saved. -/
  | saved : r = .save → s'.manager.table = s.manager.table →
      s'.manager.generation = s.manager.generation → s.Announces s' → status = 0 →
      Performed s r s' status

theorem announces_change (clock : ParamClock) (s : ParamShell S) {manager : ParamManager}
    {notice : Option UInt32} (h : s.manager.Notifies (manager, notice)) :
    s.change clock (manager, notice) = s ∨ s.Announces (s.change clock (manager, notice)) := by
  rcases h with h | h
  · obtain ⟨rfl, rfl⟩ := Prod.mk.inj h
    exact Or.inl rfl
  · obtain ⟨hnotice, hinitialized⟩ := h
    obtain rfl : notice = some manager.generation := hnotice
    exact Or.inr ⟨hinitialized, _, rfl, rfl⟩

/-- A write through the request of a name. -/
theorem Performed.of_wrote {s : ParamShell S} {r : ParamRequest} {name : CString}
    (hname : r.written = some name) (clock : ParamClock) {manager : ParamManager}
    {notice : Option UInt32} (h : s.manager.Wrote (s.manager.find name) (manager, true, notice)) :
    Performed s r (s.change clock (manager, notice)) 0 := by
  cases h with
  | accepted hentry hsame htype htable hnotifies =>
      rcases announces_change clock s hnotifies with hquiet | hannounces
      · rw [hquiet]
        exact .quiet rfl rfl
      · exact .wrote hname hentry hsame htype htable hannounces rfl

end ParamShell

namespace ParamCommand

variable {S : Type} [ParamStorage S]

/-- One case for each request. -/
theorem perform_cases (c : CLibrary) (clock : ParamClock) (s : ParamShell S) (r : ParamRequest) :
    s.Performed r (perform c clock s r).1 (perform c clock s r).2.1 := by
  cases r with
  | set name text =>
      have hwrote := setFromText_wrote c s.manager (s.manager.find name) clock.change text
      unfold perform
      dsimp only
      generalize setFromText c clock.change s.manager (s.manager.find name) text = result at hwrote
      obtain ⟨manager, ok, notice⟩ := result
      cases ok with
      | false => exact .quiet rfl rfl
      | true => exact .of_wrote rfl clock hwrote
  | setDefault name text =>
      have hwrote := setDefaultFromText_wrote c s.manager (s.manager.find name) text
      unfold perform
      dsimp only
      generalize setDefaultFromText c s.manager (s.manager.find name) text = result at hwrote
      obtain ⟨manager, ok, notice⟩ := result
      cases ok with
      | false => exact .quiet rfl rfl
      | true => exact .of_wrote rfl clock hwrote
  | reset name =>
      have hwrote := reset_wrote s.manager (s.manager.find name) clock.change
      unfold perform
      dsimp only
      generalize s.manager.reset (s.manager.find name) clock.change = result at hwrote
      obtain ⟨manager, ok, notice⟩ := result
      cases ok with
      | false => exact .quiet rfl rfl
      | true => exact .of_wrote rfl clock hwrote
  | resetAll =>
      have hchanges := s.manager.resetAll_changes clock.change
      unfold perform
      dsimp only
      generalize s.manager.resetAll clock.change = result at hchanges
      cases hchanges with
      | nothing => exact .quiet rfl rfl
      | touched now hsame => exact .swept (Or.inl rfl) hsame ⟨rfl, _, rfl, rfl⟩ rfl
  | save =>
      unfold perform ParamShell.save
      cases s.manager.saveBegin with
      | refused => exact .quiet rfl rfl
      | clean => exact .quiet rfl rfl
      | captured snapshot capturedGeneration =>
          dsimp only
          rcases ParamStorage.save s.storage snapshot with ⟨storage, _ | _⟩
          · exact .quiet rfl rfl
          · exact .saved rfl rfl rfl ⟨rfl, _, rfl, rfl⟩ rfl
  | load =>
      unfold perform ParamShell.load
      cases s.manager.loadBegin with
      | false => exact .quiet rfl rfl
      | true =>
          dsimp only
          rcases ParamStorage.load s.storage with ⟨storage, _ | snapshot⟩
          · exact .quiet rfl rfl
          · refine .swept (Or.inr rfl) ?_ ⟨rfl, _, rfl, rfl⟩ rfl
            exact (ParamManager.definitions_applySnapshot _ _).trans
              (ParamManager.definitions_defaults _)
  | get name =>
      unfold perform
      dsimp only
      split
      · exact .quiet rfl rfl
      · exact .quiet rfl rfl
  | _ => exact .quiet rfl rfl

end ParamCommand

end DualMagneticWheel
