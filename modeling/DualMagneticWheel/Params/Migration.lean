/-
# DualMagneticWheel.Params.Migration — a snapshot from one firmware to the next

Two firmware versions register their parameters in different orders, with different defaults, and not
always the same ones. A snapshot that one of them writes holds what differs from its own defaults, by name
and type; the other takes over what it knows under this name and type and leaves the rest at its own
defaults (`snapshot_carries`).
-/
import DualMagneticWheel.Params.Manager

namespace DualMagneticWheel

open Foundation

/-! ## Registered tables -/

/-- A call of `addInt` or `addFloat`. -/
inductive Registration where
  | int (name : CString) (defaultValue : Int32)
  | float (name : CString) (defaultValue : Float32)

namespace Registration

def name : Registration → CString
  | .int name _ | .float name _ => name

def type : Registration → ParamType
  | .int _ _ => .int32
  | .float _ _ => .float

def defaultValue : Registration → ParamValue
  | .int _ value => .ofInteger value
  | .float _ value => .ofReal value

/-- The call. -/
def register (m : ParamManager) : Registration → ParamManager
  | .int name value => m.addInt name value
  | .float name value => m.addFloat name value

/-- The parameter that the call adds. -/
def entry (call : Registration) : ParamEntry :=
  ⟨call.name, call.type, call.defaultValue, call.defaultValue⟩

end Registration

/-- The calls that build a table: no more than it holds, with distinct names of at most sixteen
characters. -/
structure Registrations where
  calls : List Registration
  short : calls.length ≤ ParamMaxCount
  names : (calls.map Registration.name).Nodup
  fits : ∀ call ∈ calls, call.name.length ≤ 16 ∧ (0 : UInt8) ∉ call.name

namespace Registrations

open ParamManager

/-- The manager that these calls build. -/
def build (r : Registrations) : ParamManager := r.calls.foldl Registration.register {}

/-- The parameters registered, at their defaults. -/
def table (r : Registrations) : ParamTable := r.build.table

/-- A call that fits adds its parameter. -/
theorem register_table {m : ParamManager} {call : Registration} (hroom : m.table.length < ParamMaxCount)
    (hfits : call.name.length ≤ 16) :
    (Registration.register m call).table = m.table ++ [call.entry] := by
  have hadd : ∀ type value, (m.add type call.name value).table =
      m.table ++ [⟨call.name, type, value, value⟩] := by
    intro type value
    rw [add, if_neg (Nat.not_le.mpr hroom),
      List.take_of_length_le (show call.name.length ≤ ParamNameLength - 1 from hfits)]
  cases call with
  | int name value => exact hadd .int32 (.ofInteger value)
  | float name value => exact hadd .float (.ofReal value)

/-- The table holds the registered parameters in the order of the calls. -/
theorem table_eq (r : Registrations) : r.table = r.calls.map Registration.entry := by
  have hloop : ∀ (calls : List Registration) (m : ParamManager),
      m.table.length + calls.length ≤ ParamMaxCount →
      (∀ call ∈ calls, call.name.length ≤ 16) →
      (calls.foldl Registration.register m).table = m.table ++ calls.map Registration.entry := by
    intro calls
    induction calls with
    | nil =>
        intro m _ _
        exact (List.append_nil _).symm
    | cons call calls ih =>
        intro m hroom hfits
        rw [List.length_cons] at hroom
        rw [List.forall_mem_cons] at hfits
        have hstep : (call.register m).table = m.table ++ [call.entry] :=
          register_table (by omega) hfits.1
        rw [List.foldl_cons, ih _ (by rw [hstep, List.length_append, List.length_singleton]; omega)
          hfits.2, hstep, List.append_assoc, List.map_cons, List.singleton_append]
  have hall := hloop r.calls {} (by simpa using r.short) fun call hmem => (r.fits call hmem).1
  rw [table, build, hall]
  rfl

theorem wellFormed (r : Registrations) : WellFormed r.table := by
  rw [r.table_eq]
  refine ⟨?_, ?_, ?_⟩
  · rw [List.length_map]
    exact r.short
  · rw [List.map_map]
    exact r.names
  · intro entry hmem
    obtain ⟨call, hcall, rfl⟩ := List.mem_map.mp hmem
    exact ⟨Nat.lt_succ_of_le (r.fits call hcall).1, (r.fits call hcall).2⟩

theorem defaults_table (r : Registrations) : defaults r.table = r.table := by
  rw [r.table_eq, defaults, List.map_map]
  rfl

/-- The table with other values. -/
def assign (r : Registrations) (value : Nat → ParamValue) : ParamTable :=
  r.table.mapIdx fun i entry => { entry with value := value i }

theorem definitions_assign (r : Registrations) (value : Nat → ParamValue) :
    definitions (r.assign value) = definitions r.table := by
  apply List.ext_getElem?
  intro i
  rw [definitions, definitions, assign, List.getElem?_map, List.getElem?_map, List.getElem?_mapIdx,
    Option.map_map]
  rfl

theorem wellFormed_assign (r : Registrations) (value : Nat → ParamValue) :
    WellFormed (r.assign value) := r.wellFormed.congr (r.definitions_assign value)

/-! ## From one table to another -/

/-- For every two tables and all values under the first: the second firmware has the first one's value of
each parameter that the first has under the same name and type and not at its default, and its own default
otherwise. What the first does not know by name and type is not touched. Under the same table every value
comes back. -/
theorem snapshot_carries (old new : Registrations) (value : Nat → ParamValue) (sequence : UInt32) :
    let snapshot := makeSnapshot (old.assign value) sequence
    let restored := applySnapshot new.table snapshot
    (restored.length = new.table.length ∧ ∀ (i : Nat) (entry : ParamEntry), new.table[i]? = some entry →
      (∀ x ∈ old.assign value, x.name = entry.name → x.type = entry.type →
        x.value.raw ≠ x.defaultValue.raw →
          restored[i]? = some { entry with value := x.value }) ∧
      ((∀ x ∈ old.assign value, x.name = entry.name → x.type = entry.type →
        x.value.raw = x.defaultValue.raw) →
          restored[i]? = some { entry with value := entry.defaultValue }) ∧
      ((∀ x ∈ old.assign value, ¬ (x.name = entry.name ∧ x.type = entry.type)) →
          restored[i]? = some entry)) ∧
      applySnapshot old.table snapshot = old.assign value := by
  intro snapshot restored
  have hold := old.wellFormed_assign value
  have hraw : ∀ v v' : ParamValue, v.raw = v'.raw → v = v' := by
    rintro ⟨r⟩ ⟨r'⟩ rfl
    rfl
  have hrestored : restored = new.table.map (carry (old.assign value)) :=
    (applySnapshot_makeSnapshot hold new.wellFormed sequence).1
  refine ⟨⟨?_, ?_⟩, ?_⟩
  · rw [hrestored, List.length_map]
  · intro i entry hentry
    have hat : restored[i]? = some (carry (old.assign value) entry) := by
      rw [hrestored, List.getElem?_map, hentry, Option.map_some]
    refine ⟨?_, ?_, ?_⟩
    · intro x hx hname htype hchanged
      rw [hat, carry_changed hold.names hx (fun heq => hchanged (by rw [heq])) hname.symm htype.symm]
    · intro hnone
      have hdefault : entry = { entry with value := entry.defaultValue } := by
        have hmem := List.mem_of_getElem? hentry
        rw [new.table_eq] at hmem
        obtain ⟨call, -, rfl⟩ := List.mem_map.mp hmem
        rfl
      rw [hat, carry_unchanged fun x hx hname htype =>
        hraw _ _ (hnone x hx hname.symm htype.symm), ← hdefault]
    · intro hunknown
      rw [hat, carry_unchanged fun x hx hname htype =>
        absurd ⟨hname.symm, htype.symm⟩ (hunknown x hx)]
  · have hsame : old.table = defaults (old.assign value) := by
      rw [defaults_congr (old.definitions_assign value), old.defaults_table]
    rw [(applySnapshot_makeSnapshot hold old.wellFormed sequence).1, hsame]
    exact map_carry_defaults hold.names

end Registrations

end DualMagneticWheel
