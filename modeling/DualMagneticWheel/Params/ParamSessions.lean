/-
# DualMagneticWheel.Params.ParamSessions — what survives a session of `param` commands

A session is any number of `param` commands with automatic saves in between. A parameter keeps its value
and its default until a command names it or changes all parameters (`Running.keeps`). So what `set` has
read from a text is what `compare` finds under the same text and what `get` prints later
(`compare_after_set`), and no change of the table goes without a notification (`session_announced`).
-/
import DualMagneticWheel.Foundation.Binary32
import DualMagneticWheel.Params.Definitions
import DualMagneticWheel.Params.ParamCommand

namespace DualMagneticWheel

open Foundation ParamManager ParamCommand

/-- A line of the shell, or a poll for the automatic save. -/
inductive ParamSessionEvent where
  | command (clock : ParamClock) (argv : List CString)
  | poll (clock : ParamClock) (now : UInt64)

/-- The request of an event; a poll saves at most. -/
def ParamSessionEvent.request : ParamSessionEvent → ParamRequest
  | .command _ argv => ParamCommand.request argv
  | .poll _ _ => .save

namespace ParamShell

variable {S : Type} [ParamStorage S]

/-- One event. -/
def next (c : CLibrary) (s : ParamShell S) : ParamSessionEvent → ParamShell S
  | .command clock argv => (execute c clock s argv).1
  | .poll clock now => if s.manager.autoSaveDue now then (s.save clock).1 else s

/-- A session. -/
def session (c : CLibrary) (s : ParamShell S) (events : List ParamSessionEvent) : ParamShell S :=
  events.foldl (next c) s

/-- The parameter system is up, on a table that fits. -/
structure Running (s : ParamShell S) : Prop where
  table : WellFormed s.manager.table
  initialized : s.manager.initialized = true

/-- Nothing is left to initialize. -/
theorem Running.initialize_eq {s : ParamShell S} (h : s.Running) : s.paramSystemInitialize = s := by
  unfold paramSystemInitialize initializeBegin
  rw [if_pos h.initialized]

theorem Running.execute_eq {s : ParamShell S} (h : s.Running) (c : CLibrary) (clock : ParamClock)
    (argv : List CString) : execute c clock s argv = perform c clock s (request argv) := by
  rw [execute, h.initialize_eq]

/-- After `paramSystemInitialize` it is up. -/
theorem running_initialize {s : ParamShell S} (h : WellFormed s.manager.table) :
    s.paramSystemInitialize.Running := by
  unfold paramSystemInitialize
  cases hinitialized : s.manager.initialized with
  | true =>
      have hbegin : s.manager.initializeBegin = (s.manager, false) := by
        rw [initializeBegin, if_pos hinitialized]
      rw [hbegin]
      exact ⟨h, hinitialized⟩
  | false =>
      have hbegin : s.manager.initializeBegin =
          ({ s.manager with storage := true, initialized := true }, true) := by
        rw [initializeBegin, if_neg (by rw [hinitialized]; exact Bool.false_ne_true)]
      rw [hbegin]
      dsimp only
      split
      · exact ⟨h, rfl⟩
      · exact ⟨h.congr (definitions_applySnapshot _ _), rfl⟩

/-! ## One event -/

/-- An event does what its request does. -/
theorem Running.next_cases {s : ParamShell S} (h : s.Running) (c : CLibrary) (e : ParamSessionEvent) :
    ∃ status, s.Performed e.request (s.next c e) status := by
  cases e with
  | command clock argv =>
      refine ⟨(perform c clock s (request argv)).2.1, ?_⟩
      rw [next, h.execute_eq]
      exact perform_cases c clock s (request argv)
  | poll clock now =>
      unfold next
      dsimp only
      split
      · have hsave := perform_cases c clock s .save
        have hsame : (perform c clock s .save).1 = (s.save clock).1 := by
          unfold perform
          dsimp only
          split <;> rename_i hresult <;> rw [hresult]
        rw [hsame] at hsave
        exact ⟨_, hsave⟩
      · exact ⟨0, .quiet rfl rfl⟩

omit [ParamStorage S] in
theorem Performed.running {s s' : ParamShell S} {r : ParamRequest} {status : Int32} (h : s.Running)
    (hp : s.Performed r s' status) : s'.Running := by
  cases hp with
  | quiet hmanager _ =>
      refine ⟨?_, ?_⟩
      · rw [hmanager]
        exact h.table
      · rw [hmanager]
        exact h.initialized
  | wrote _ hentry hname htype htable hannounces _ =>
      refine ⟨?_, hannounces.1.trans h.initialized⟩
      rw [htable]
      exact h.table.of_names (map_set hentry hname)
  | swept _ hsame hannounces _ => exact ⟨h.table.congr hsame, hannounces.1.trans h.initialized⟩
  | saved _ htable _ hannounces _ =>
      refine ⟨?_, hannounces.1.trans h.initialized⟩
      rw [htable]
      exact h.table

omit [ParamStorage S] in
/-- A parameter that is not touched. -/
theorem Performed.keeps {s s' : ParamShell S} {r : ParamRequest} {status : Int32} (h : s.Running)
    (hp : s.Performed r s' status) {i : Nat} {entry : ParamEntry}
    (hi : s.manager.table[i]? = some entry) (huntouched : ¬ r.Touches entry.name) :
    s'.manager.table[i]? = some entry := by
  cases hp with
  | quiet hmanager _ =>
      rw [hmanager]
      exact hi
  | @wrote name found changed hwritten hentry _ _ htable _ _ =>
      rw [htable, List.getElem?_set_ne]
      · exact hi
      · -- otherwise the parameter that was written would be this one
        rintro rfl
        have hname := definition_find h.table.short hentry
        have hsame : found = entry := Option.some_inj.mp (hentry.symm.trans hi)
        rw [← hsame, hname] at huntouched
        exact huntouched (Or.inl hwritten)
  | swept hsweeps _ _ _ => exact absurd (Or.inr hsweeps) huntouched
  | saved _ htable _ _ _ =>
      rw [htable]
      exact hi

omit [ParamStorage S] in
/-- The definitions stay. -/
theorem Performed.sameShape {s s' : ParamShell S} {r : ParamRequest} {status : Int32}
    (hp : s.Performed r s' status) : s.manager.table.SameShape s'.manager.table := by
  unfold ParamTable.SameShape
  cases hp with
  | quiet hmanager _ => rw [hmanager]
  | wrote _ hentry hname htype htable _ _ =>
      rw [htable]
      exact (map_set hentry (by rw [hname, htype])).symm
  | swept _ hsame _ _ =>
      have hpairs := congrArg (List.map fun d => (d.1, d.2.1)) hsame
      rw [definitions, definitions, List.map_map, List.map_map] at hpairs
      exact hpairs.symm
  | saved _ htable _ _ _ => rw [htable]

omit [ParamStorage S] in
/-- Either nothing was published and nothing has changed, or the present generation was published. -/
theorem Performed.announced {s s' : ParamShell S} {r : ParamRequest} {status : Int32}
    (hp : s.Performed r s' status) : s'.manager = s.manager ∧ s'.published = s.published ∨
      s.Announces s' := by
  cases hp with
  | quiet hmanager hpublished => exact Or.inl ⟨hmanager, hpublished⟩
  | wrote _ _ _ _ _ hannounces _ => exact Or.inr hannounces
  | swept _ _ hannounces _ => exact Or.inr hannounces
  | saved _ _ _ hannounces _ => exact Or.inr hannounces

/-! ## Sessions -/

variable {c : CLibrary} {s : ParamShell S}

theorem Running.session (h : s.Running) (events : List ParamSessionEvent) :
    (s.session c events).Running := by
  unfold ParamShell.session
  induction events generalizing s with
  | nil => exact h
  | cons e events ih =>
      obtain ⟨status, hp⟩ := h.next_cases c e
      exact ih (hp.running h)

/-- A parameter that no event touches keeps its value and its default. -/
theorem Running.keeps (h : s.Running) {events : List ParamSessionEvent} {i : Nat} {entry : ParamEntry}
    (hi : s.manager.table[i]? = some entry)
    (huntouched : ∀ e ∈ events, ¬ e.request.Touches entry.name) :
    (s.session c events).manager.table[i]? = some entry := by
  unfold ParamShell.session
  induction events generalizing s with
  | nil => exact hi
  | cons e events ih =>
      obtain ⟨status, hp⟩ := h.next_cases c e
      refine ih (hp.running h) (hp.keeps h hi (huntouched e List.mem_cons_self)) ?_
      intro later hlater
      exact huntouched later (List.mem_cons_of_mem e hlater)

theorem Running.session_published (h : s.Running) (events : List ParamSessionEvent) :
    s.manager.table.SameShape (s.session c events).manager.table ∧
      s.published <:+ (s.session c events).published ∧
      ((s.session c events).published = s.published →
        (s.session c events).manager = s.manager) ∧
      ((s.session c events).published ≠ s.published →
        ∃ update ∈ (s.session c events).published.head?,
          update.generation = (s.session c events).manager.generation) := by
  unfold ParamShell.session
  induction events generalizing s with
  | nil =>
      refine ⟨ParamTable.SameShape.refl _, List.suffix_rfl, fun _ => rfl, ?_⟩
      intro hne
      exact absurd rfl hne
  | cons e events ih =>
      obtain ⟨status, hp⟩ := h.next_cases c e
      obtain ⟨hshape, hsuffix, hquiet, hnewest⟩ := ih (hp.running h)
      rw [List.foldl_cons]
      refine ⟨hp.sameShape.trans hshape, ?_, ?_, ?_⟩
      · rcases hp.announced with ⟨-, hpublished⟩ | ⟨-, update, hpublished, -⟩
        · rw [← hpublished]
          exact hsuffix
        · refine List.IsSuffix.trans ?_ hsuffix
          rw [hpublished]
          exact List.suffix_cons update s.published
      · intro hsame
        rcases hp.announced with ⟨hmanager, hpublished⟩ | ⟨-, update, hpublished, -⟩
        · rw [← hmanager]
          exact hquiet (hsame.trans hpublished.symm)
        · -- the list cannot have become shorter again
          have hlength := hsuffix.length_le
          rw [hsame, hpublished, List.length_cons] at hlength
          omega
      · intro hne
        by_cases hrest : (List.foldl (next c) (s.next c e) events).published =
            (s.next c e).published
        · rcases hp.announced with ⟨-, hpublished⟩ | ⟨-, update, hpublished, hgeneration⟩
          · exact absurd (hrest.trans hpublished) hne
          · refine ⟨update, ?_, ?_⟩
            · rw [hrest, hpublished]
              rfl
            · rw [hgeneration, hquiet hrest]
        · exact hnewest hrest

/-! ## Numbers as text -/

omit [ParamStorage S] in
/-- The parameter of a name. -/
theorem Running.definition_name (h : s.Running) {i : Nat} {entry : ParamEntry}
    (hi : s.manager.table[i]? = some entry) :
    s.manager.definition (s.manager.find entry.name) = some entry := by
  rw [ParamManager.definition, find_name h.table hi, hi]

/-- `set` on a parameter: an accepted text becomes the value, another one changes nothing. -/
theorem Running.set_spec (h : s.Running) {i : Nat} {entry : ParamEntry}
    (hi : s.manager.table[i]? = some entry) {argv : List CString} {text : CString}
    (hargv : request argv = .set entry.name text) (clock : ParamClock) :
    (c.accepts entry.type text = none → (execute c clock s argv).1 = s ∧
        (execute c clock s argv).2.1 = -1) ∧
      ∀ value, c.accepts entry.type text = some value →
        (execute c clock s argv).1.manager.table = s.manager.table.set i { entry with value } ∧
          (execute c clock s argv).2.1 = 0 := by
  have hentry := h.definition_name hi
  rw [h.execute_eq, hargv]
  unfold perform
  dsimp only
  rw [setFromText_eq c s.manager _ hentry]
  refine ⟨?_, ?_⟩
  · intro hnone
    rw [hnone]
    exact ⟨rfl, rfl⟩
  · intro value hvalue
    rw [hvalue]
    obtain ⟨hok, htable, -⟩ := setRaw_accepts hentry rfl value.raw clock.change
    dsimp only
    generalize s.manager.setRaw (s.manager.find entry.name) entry.type value.raw clock.change = result
      at hok htable
    obtain ⟨manager, ok, notice⟩ := result
    obtain rfl : ok = true := hok
    rw [find_name h.table hi] at htable
    exact ⟨htable, rfl⟩

/-- `set-default` likewise. -/
theorem Running.setDefault_spec (h : s.Running) {i : Nat} {entry : ParamEntry}
    (hi : s.manager.table[i]? = some entry) {argv : List CString} {text : CString}
    (hargv : request argv = .setDefault entry.name text) (clock : ParamClock) :
    (c.accepts entry.type text = none → (execute c clock s argv).1 = s ∧
        (execute c clock s argv).2.1 = -1) ∧
      ∀ value, c.accepts entry.type text = some value →
        (execute c clock s argv).1.manager.table = s.manager.table.set i (rebase entry value.raw) ∧
          (execute c clock s argv).2.1 = 0 := by
  have hentry := h.definition_name hi
  rw [h.execute_eq, hargv]
  unfold perform
  dsimp only
  rw [setDefaultFromText_eq c s.manager _ hentry]
  refine ⟨?_, ?_⟩
  · intro hnone
    rw [hnone]
    exact ⟨rfl, rfl⟩
  · intro value hvalue
    rw [hvalue]
    obtain ⟨hok, htable, -⟩ := setDefaultRaw_accepts hentry rfl value.raw
    dsimp only
    generalize s.manager.setDefaultRaw (s.manager.find entry.name) entry.type value.raw = result
      at hok htable
    obtain ⟨manager, ok, notice⟩ := result
    obtain rfl : ok = true := hok
    rw [find_name h.table hi] at htable
    exact ⟨htable, rfl⟩

/-- A text that is accepted as the comparison value and equals the value. -/
def Equals (c : CLibrary) (text : CString) (value : ParamValue) : ParamType → Prop
  | .int32 => c.parseInt text = some value.integer
  | .float => ∃ v, c.parseFloat text = some v ∧ v.isFinite = true ∧ (value.real == v) = true

/-- `compare` on a parameter. -/
theorem Running.compare_spec (h : s.Running) {i : Nat} {entry : ParamEntry}
    (hi : s.manager.table[i]? = some entry) {argv : List CString} {text : CString}
    (hargv : request argv = .compare entry.name text) (clock : ParamClock) :
    (execute c clock s argv).1 = s ∧
      ((execute c clock s argv).2.1 = 0 ↔ Equals c text entry.value entry.type) := by
  rw [h.execute_eq, hargv]
  unfold perform ParamCommand.compare
  dsimp only
  rw [h.definition_name hi]
  refine ⟨rfl, ?_⟩
  dsimp only
  cases entry.type with
  | int32 =>
      dsimp only [Equals]
      cases c.parseInt text with
      | none => simp [printUsage]
      | some parsed =>
          by_cases hsame : entry.value.integer = parsed
          · simp [hsame]
          · simp [hsame, Ne.symm hsame]
  | float =>
      dsimp only [Equals]
      cases c.parseFloat text with
      | none => simp [printUsage]
      | some parsed =>
          cases hfinite : parsed.isFinite with
          | false => simp [hfinite, printUsage]
          | true => cases hsame : entry.value.real == parsed <;> simp [hfinite, hsame]

/-- An accepted text compares equal to the value that was made of it. -/
theorem equals_of_accepts {type : ParamType} {text : CString} {value : ParamValue}
    (h : c.accepts type text = some value) : Equals c text value type := by
  unfold CLibrary.accepts at h
  cases type with
  | int32 =>
      obtain ⟨v, hparsed, rfl⟩ := Option.map_eq_some_iff.mp h
      exact hparsed
  | float =>
      obtain ⟨v, hparsed, haccepted⟩ := Option.bind_eq_some_iff.mp h
      cases hfinite : v.isFinite with
      | false =>
          rw [hfinite] at haccepted
          cases haccepted
      | true =>
          rw [hfinite, if_pos rfl, Option.some_inj] at haccepted
          refine ⟨v, hparsed, hfinite, ?_⟩
          rw [← haccepted, ParamValue.ofReal, ParamValue.real, ofBits_toBits hfinite]
          exact beq_self hfinite

theorem accepts_int (c : CLibrary) (text : CString) (value : ParamValue) :
    c.accepts .int32 text = some value ↔ Denotes text value.integer.toInt := by
  rw [← c.parseInt_iff]
  unfold CLibrary.accepts
  rw [Option.map_eq_some_iff]
  constructor
  · rintro ⟨v, hparsed, rfl⟩
    exact hparsed
  · intro hparsed
    exact ⟨value.integer, hparsed, rfl⟩

/-- An integer parameter in text. `set` accepts exactly the texts that denote an `int32_t`, sets what the
text denotes and otherwise changes nothing; `compare` succeeds exactly on the texts that denote the
value. -/
theorem integer_texts (h : s.Running) {i : Nat} {entry : ParamEntry}
    (hi : s.manager.table[i]? = some entry) (htype : entry.type = .int32) (clock : ParamClock)
    {argv : List CString} {text : CString} :
    (request argv = .set entry.name text →
      ((execute c clock s argv).2.1 = 0 ↔ ∃ v : Int32, Denotes text v.toInt) ∧
        ((execute c clock s argv).2.1 ≠ 0 → (execute c clock s argv).1 = s) ∧
        ∀ v : Int32, Denotes text v.toInt → (execute c clock s argv).1.manager.table =
          s.manager.table.set i { entry with value := .ofInteger v }) ∧
      (request argv = .compare entry.name text →
        ((execute c clock s argv).2.1 = 0 ↔ Denotes text entry.value.integer.toInt)) := by
  refine ⟨?_, ?_⟩
  · intro hargv
    obtain ⟨hrefused, haccepted⟩ := h.set_spec (c := c) hi hargv clock
    have hdenotes : ∀ value, c.accepts entry.type text = some value ↔
        Denotes text value.integer.toInt := by
      rw [htype]
      exact accepts_int c text
    refine ⟨⟨?_, ?_⟩, ?_, ?_⟩
    · intro hzero
      cases hvalue : c.accepts entry.type text with
      | none =>
          rw [(hrefused hvalue).2] at hzero
          cases hzero
      | some value => exact ⟨value.integer, (hdenotes value).mp hvalue⟩
    · rintro ⟨v, hv⟩
      exact (haccepted (.ofInteger v) ((hdenotes _).mpr hv)).2
    · intro hfailed
      cases hvalue : c.accepts entry.type text with
      | none => exact (hrefused hvalue).1
      | some value => exact absurd (haccepted value hvalue).2 hfailed
    · intro v hv
      exact (haccepted (.ofInteger v) ((hdenotes _).mpr hv)).1
  · intro hargv
    rw [(h.compare_spec (c := c) hi hargv clock).2, htype]
    exact c.parseInt_iff text entry.value.integer

/-- The memory storage of the command test: nothing is stored. -/
structure CommandTestStorage where

instance : ParamStorage CommandTestStorage where
  load storage := (storage, none)
  save storage _ := (storage, true)

/-- A library for a 64-bit `long`, and for one real literal. -/
def hostLibrary : CLibrary where
  longWidth := 64
  wide := by decide
  strtof text :=
    if text = cstr "-0.5" then { value := -0.5, converted := true, rest := [], error := false }
    else { value := 0, converted := false, rest := text, error := false }

/-- The firmware's parameters after start-up. -/
def demoShell : ParamShell CommandTestStorage :=
  ({ manager := construct, storage := {} } : ParamShell CommandTestStorage).paramSystemInitialize

theorem demoShell_running : demoShell.Running := running_initialize construct_fresh.table

theorem demoShell_armSwitch : demoShell.manager.table[103]? =
    some ⟨cstr "CA_ARM_SW", .int32, .ofInteger 1, .ofInteger 1⟩ := by
  decide +kernel

/-- A command line at time 1000. -/
def demoLine (line : List String) : ParamSessionEvent := .command ⟨1000, 1000⟩ (line.map cstr)

theorem integer_texts_demo :
    (execute hostLibrary ⟨1000, 1000⟩ demoShell
      (["param", "set", "CA_ARM_SW", " 0x2"].map cstr)).2.1 = 0 := by
  have hargv : request (["param", "set", "CA_ARM_SW", " 0x2"].map cstr) =
      .set (cstr "CA_ARM_SW") (cstr " 0x2") := by decide +kernel
  have hdenotes : Denotes (cstr " 0x2") (Int32.toInt 2) := readInteger_iff.mp (by decide +kernel)
  exact ((integer_texts demoShell_running demoShell_armSwitch rfl ⟨1000, 1000⟩).1 hargv).1.mpr
    ⟨2, hdenotes⟩

/-- What `set` has read from a text stays: after any session that does not touch the parameter, `compare`
with that text succeeds, and the value is the one right after the `set`. -/
theorem compare_after_set (h : s.Running) {i : Nat} {entry : ParamEntry}
    (hi : s.manager.table[i]? = some entry) {setArgv compareArgv : List CString} {text : CString}
    (hset : request setArgv = .set entry.name text)
    (hcompare : request compareArgv = .compare entry.name text) {clock : ParamClock}
    (hdone : (execute c clock s setArgv).2.1 = 0) {events : List ParamSessionEvent}
    (huntouched : ∀ e ∈ events, ¬ e.request.Touches entry.name) (later : ParamClock) :
    (execute c later ((execute c clock s setArgv).1.session c events) compareArgv).2.1 = 0 ∧
      ((execute c clock s setArgv).1.session c events).manager.table[i]? =
        (execute c clock s setArgv).1.manager.table[i]? := by
  obtain ⟨hrefused, haccepted⟩ := h.set_spec (c := c) hi hset clock
  cases hvalue : c.accepts entry.type text with
  | none =>
      rw [(hrefused hvalue).2] at hdone
      cases hdone
  | some value =>
      obtain ⟨hlt, -⟩ := List.getElem?_eq_some_iff.mp hi
      have hrunning : (execute c clock s setArgv).1.Running := by
        obtain ⟨status, hp⟩ := h.next_cases c (.command clock setArgv)
        exact hp.running h
      have hwritten : (execute c clock s setArgv).1.manager.table[i]? = some { entry with value } := by
        rw [(haccepted value hvalue).1, List.getElem?_set_self hlt]
      have hkept := hrunning.keeps (c := c) hwritten huntouched
      have hcompared := ((hrunning.session (c := c) events).compare_spec (c := c) hkept hcompare later).2
      refine ⟨hcompared.mpr (equals_of_accepts hvalue), ?_⟩
      rw [hkept, hwritten]

theorem compare_after_set_demo :
    (execute hostLibrary ⟨9000, 9000⟩
      ((execute hostLibrary ⟨1000, 1000⟩ demoShell (["param", "set", "CA_YAW_R", "-0.5"].map cstr)).1.session
        hostLibrary [demoLine ["param", "set", "CA_ARM_SW", "2"], .poll ⟨2000000, 2000000⟩ 2000000])
      (["param", "compare", "CA_YAW_R", "-0.5"].map cstr)).2.1 = 0 := by
  have hentry : demoShell.manager.table[102]? =
      some ⟨cstr "CA_YAW_R", .float, .ofReal 0, .ofReal 0⟩ := by decide +kernel
  have hset : request (["param", "set", "CA_YAW_R", "-0.5"].map cstr) =
      .set (cstr "CA_YAW_R") (cstr "-0.5") := by decide +kernel
  have hcompare : request (["param", "compare", "CA_YAW_R", "-0.5"].map cstr) =
      .compare (cstr "CA_YAW_R") (cstr "-0.5") := by decide +kernel
  exact (compare_after_set demoShell_running hentry hset hcompare (by decide +kernel)
    (by decide +kernel) ⟨9000, 9000⟩).1

/-- The last field of a line: `%ld` for an integer. -/
def valueText : ParamLine → Option CString
  | .int _ value => some (printInt value.toInt)
  | _ => none

/-- A printed integer restores. What `get` prints for an integer parameter can be given to `set` at any
time later, whatever has happened in between, and brings the value back. -/
theorem printed_restores (h : s.Running) {i : Nat} {entry : ParamEntry}
    (hi : s.manager.table[i]? = some entry) (htype : entry.type = .int32)
    {getArgv setArgv : List CString} (hget : request getArgv = .get entry.name) {text : CString}
    {clock : ParamClock}
    (hprinted : (execute c clock s getArgv).2.2.filterMap valueText = [text])
    (hset : request setArgv = .set entry.name text) (events : List ParamSessionEvent)
    (later : ParamClock) :
    (execute c later (s.session c events) setArgv).2.1 = 0 ∧
      ((execute c later (s.session c events) setArgv).1.manager.table[i]?).map ParamEntry.value =
        some entry.value := by
  have htext : text = printInt entry.value.integer.toInt := by
    rw [h.execute_eq, hget] at hprinted
    unfold perform printParameter at hprinted
    dsimp only at hprinted
    rw [h.definition_name hi] at hprinted
    simp only [Option.map_some, parameterLine, htype, List.filterMap_cons, valueText,
      List.filterMap_nil, List.cons.injEq, and_true] at hprinted
    exact hprinted.symm
  -- the parameter is still there under its name
  obtain ⟨hshape, -⟩ := h.session_published (c := c) events
  obtain ⟨found, hfound, hname, hfoundType⟩ : ∃ found, (s.session c events).manager.table[i]? = some found ∧
      found.name = entry.name ∧ found.type = entry.type := by
    have hat := congrArg (·[i]?) hshape
    simp only [List.getElem?_map, hi, Option.map_some] at hat
    obtain ⟨found, hfound, heq⟩ := Option.map_eq_some_iff.mp hat.symm
    exact ⟨found, hfound, (Prod.mk.inj heq).1, (Prod.mk.inj heq).2⟩
  rw [← hname] at hset
  obtain ⟨-, haccepted⟩ := (h.session (c := c) events).set_spec (c := c) hfound hset later
  have haccepts : c.accepts found.type text = some entry.value := by
    rw [hfoundType, htype, accepts_int, htext]
    exact denotes_printInt entry.value.integer.toInt
  obtain ⟨htable, hzero⟩ := haccepted entry.value haccepts
  obtain ⟨hlt, -⟩ := List.getElem?_eq_some_iff.mp hfound
  refine ⟨hzero, ?_⟩
  rw [htable, List.getElem?_set_self hlt]
  rfl

theorem printed_restores_demo :
    ((execute hostLibrary ⟨9000, 9000⟩
      (demoShell.session hostLibrary [demoLine ["param", "set", "CA_ARM_SW", "-7"]])
      (["param", "set", "CA_ARM_SW", "1"].map cstr)).1.manager.table[103]?).map ParamEntry.value =
        some (.ofInteger 1) := by
  have hget : request (["param", "get", "CA_ARM_SW"].map cstr) = .get (cstr "CA_ARM_SW") := by
    decide +kernel
  have hset : request (["param", "set", "CA_ARM_SW", "1"].map cstr) =
      .set (cstr "CA_ARM_SW") (cstr "1") := by decide +kernel
  have hprinted : (execute hostLibrary ⟨1000, 1000⟩ demoShell
      (["param", "get", "CA_ARM_SW"].map cstr)).2.2.filterMap valueText = [cstr "1"] := by
    decide +kernel
  exact (printed_restores demoShell_running demoShell_armSwitch rfl hget hprinted hset _ _).2

/-- Sessions and the notification. The definitions stay; a command that fails leaves the manager and the
topic as they are; if anything about the manager has changed then something was published, and the newest
notification carries the present generation. -/
theorem session_announced (h : s.Running) (events : List ParamSessionEvent) :
    s.manager.table.SameShape (s.session c events).manager.table ∧
      ((s.session c events).manager ≠ s.manager →
        ∃ update ∈ (s.session c events).published.head?,
          update.generation = (s.session c events).manager.generation ∧
            s.published.length < (s.session c events).published.length) ∧
      ∀ (clock : ParamClock) (argv : List CString),
        (execute c clock (s.session c events) argv).2.1 ≠ 0 →
          (execute c clock (s.session c events) argv).1.manager = (s.session c events).manager ∧
            (execute c clock (s.session c events) argv).1.published =
              (s.session c events).published := by
  obtain ⟨hshape, hsuffix, hquiet, hnewest⟩ := h.session_published (c := c) events
  refine ⟨hshape, ?_, ?_⟩
  · intro hchanged
    have hne : (s.session c events).published ≠ s.published := fun hsame => hchanged (hquiet hsame)
    obtain ⟨update, hhead, hgeneration⟩ := hnewest hne
    refine ⟨update, hhead, hgeneration, Nat.lt_of_le_of_ne hsuffix.length_le ?_⟩
    intro hlength
    exact hne (hsuffix.eq_of_length hlength).symm
  · intro clock argv hfailed
    rw [(h.session (c := c) events).execute_eq] at hfailed ⊢
    cases perform_cases c clock (s.session c events) (request argv) with
    | quiet hmanager hpublished => exact ⟨hmanager, hpublished⟩
    | wrote _ _ _ _ _ _ hzero => exact absurd hzero hfailed
    | swept _ _ _ hzero => exact absurd hzero hfailed
    | saved _ _ _ _ hzero => exact absurd hzero hfailed

theorem session_announced_demo :
    ∃ update ∈ (demoShell.session hostLibrary
        [demoLine ["param", "set", "CA_ARM_SW", "2"]]).published.head?,
      update.generation = (demoShell.session hostLibrary
        [demoLine ["param", "set", "CA_ARM_SW", "2"]]).manager.generation := by
  have hchanged : (demoShell.session hostLibrary
      [demoLine ["param", "set", "CA_ARM_SW", "2"]]).manager ≠ demoShell.manager := by
    intro hsame
    have hdirty : true = false := calc
      true = (demoShell.session hostLibrary
          [demoLine ["param", "set", "CA_ARM_SW", "2"]]).manager.dirty := by decide +kernel
      _ = demoShell.manager.dirty := congrArg ParamManager.dirty hsame
      _ = false := by decide +kernel
    cases hdirty
  obtain ⟨update, hhead, hgeneration, -⟩ := (session_announced demoShell_running _).2.1 hchanged
  exact ⟨update, hhead, hgeneration⟩

end ParamShell

end DualMagneticWheel
