/-
# DualMagneticWheel.Params.Table — the parameter table as modules see it

Names are C strings, values are 32 raw bits read as `int32_t` or `float`. A module never touches the
table directly: it owns `ParamInt` and `ParamFloat` objects that look their handle up once, cache it,
and refresh a cached value on request. Definitions never move after start-up, which `SameShape` states;
under it a cached handle and a fresh lookup by name are the same thing.
-/
import DualMagneticWheel.Msg

namespace DualMagneticWheel

/-! ## Names and values -/

/-- A C string without its terminating zero. -/
abbrev CString := List UInt8

/-- The C string of a source literal; the project's names are ASCII. -/
def cstr (s : String) : CString := s.toList.map fun c => UInt8.ofNat c.toNat

/-- `snprintf("%u")`. -/
def decimal (number : Nat) : CString := (Nat.toDigits 10 number).map fun c => UInt8.ofNat c.toNat

/-- `ParamType`, with the numbers 1 and 2 of the source in `toUInt8`. -/
inductive ParamType where
  | int32
  | float
  deriving DecidableEq, Repr

def ParamType.toUInt8 : ParamType → UInt8
  | .int32 => 1
  | .float => 2

/-- The union `ParamValue`: 32 bits with three readings. -/
structure ParamValue where
  raw : UInt32
  deriving DecidableEq

namespace ParamValue

def integer (v : ParamValue) : Int32 := v.raw.toInt32
def real (v : ParamValue) : Float32 := Float32.ofBits v.raw
def ofInteger (i : Int32) : ParamValue := ⟨i.toUInt32⟩
def ofReal (f : Float32) : ParamValue := ⟨f.toBits⟩

@[simp] theorem integer_ofInteger (i : Int32) : (ofInteger i).integer = i := rfl

end ParamValue

/-- `ParamDefinition` together with the current value kept beside it in `_values`. -/
structure ParamEntry where
  name : CString
  type : ParamType
  defaultValue : ParamValue
  value : ParamValue
  deriving DecidableEq

/-- The registered parameters in registration order. -/
abbrev ParamTable := List ParamEntry

namespace ParamTable

/-! ## Lookup -/

/-- `ParamManager::find`: the index of the first parameter of that name, `none` for `ParamInvalid`. -/
def find (t : ParamTable) (name : CString) : Option Nat := t.findIdx? fun e => e.name == name

/-- The value behind a handle if the handle is valid and the parameter has the wanted type. -/
def getTyped {V : Type} (type : ParamType) (read : ParamValue → V) (t : ParamTable)
    (handle : Option Nat) : Option V :=
  match handle.bind fun h => t[h]? with
  | some e => if e.type = type then some (read e.value) else none
  | none => none

/-- `ParamManager::get(handle, int32_t &)`. -/
def getInt (t : ParamTable) (handle : Option Nat) : Option Int32 :=
  t.getTyped .int32 ParamValue.integer handle

/-- `ParamManager::get(handle, float &)`. -/
def getFloat (t : ParamTable) (handle : Option Nat) : Option Float32 :=
  t.getTyped .float ParamValue.real handle

/-- `ParamManager::get(name, int32_t &)`. -/
def lookupInt (t : ParamTable) (name : CString) : Option Int32 := t.getInt (t.find name)

/-- `ParamManager::get(name, float &)`. -/
def lookupFloat (t : ParamTable) (name : CString) : Option Float32 := t.getFloat (t.find name)

/-- Two moments of one table: the definitions are the same, values and defaults may differ. -/
def SameShape (t u : ParamTable) : Prop :=
  t.map (fun e => (e.name, e.type)) = u.map (fun e => (e.name, e.type))

theorem SameShape.refl (t : ParamTable) : SameShape t t := rfl

theorem find_eq_of_sameShape {t u : ParamTable} (h : SameShape t u) (name : CString) :
    t.find name = u.find name := by
  have hfind : ∀ w : ParamTable, w.find name =
      (w.map fun e => (e.name, e.type)).findIdx? fun p => p.1 == name := by
    intro w
    rw [List.findIdx?_map]
    rfl
  rw [hfind, hfind, h]

end ParamTable

/-! ## Cached parameter objects -/

/-- The value types a parameter object can cache, with the overload of `get` that reads them. -/
class ParamKind (V : Type) where
  get : ParamTable → Option Nat → Option V

instance : ParamKind Int32 := ⟨ParamTable.getInt⟩
instance : ParamKind Float32 := ⟨ParamTable.getFloat⟩

/-- `ParamBase` with the cached value of its two subclasses. -/
structure Param (V : Type) where
  name : CString
  handle : Option Nat := none
  value : V
  deriving DecidableEq

/-- `ParamInt`: caches an `int32_t`. -/
abbrev ParamInt := Param Int32
/-- `ParamFloat`: caches a `float`. -/
abbrev ParamFloat := Param Float32

namespace Param

variable {V : Type} [ParamKind V]

/-- `ensureHandle`: look the name up unless that succeeded before. -/
def ensureHandle (t : ParamTable) (p : Param V) : Option Nat :=
  match p.handle with
  | some h => some h
  | none => t.find p.name

/-- `ParamInt::update` and `ParamFloat::update`; the cached value survives a failure. -/
def update (t : ParamTable) (p : Param V) : Bool × Param V :=
  match ParamKind.get t (p.ensureHandle t) with
  | some v => (true, { p with handle := p.ensureHandle t, value := v })
  | none => (false, { p with handle := p.ensureHandle t })

/-- The constructor: take the fallback, then try to refresh. -/
def construct (t : ParamTable) (name : CString) (fallback : V) : Param V :=
  (update t { name, value := fallback }).2

/-- The cached handle is still to be found or is the one the table gives. -/
def Coherent (p : Param V) (t : ParamTable) : Prop := p.handle = none ∨ p.handle = t.find p.name

omit [ParamKind V] in
theorem ensureHandle_eq {p : Param V} {t : ParamTable} (h : p.Coherent t) :
    p.ensureHandle t = t.find p.name := by
  unfold ensureHandle
  rcases h with h | h
  · rw [h]
  · cases hp : p.handle with
    | none => rfl
    | some i => rw [← h, hp]

@[simp] theorem update_name (t : ParamTable) (p : Param V) : (p.update t).2.name = p.name := by
  unfold update
  split <;> rfl

theorem update_coherent {p : Param V} {t : ParamTable} (h : p.Coherent t) :
    (p.update t).2.Coherent t := by
  unfold update
  rw [ensureHandle_eq h]
  split <;> exact Or.inr rfl

/-- Refreshing a coherent parameter caches what a lookup by name finds. -/
theorem update_value {p : Param V} {t : ParamTable} (h : p.Coherent t) {v : V}
    (hv : ParamKind.get t (t.find p.name) = some v) : (p.update t).2.value = v := by
  unfold update
  rw [ensureHandle_eq h, hv]

omit [ParamKind V] in
theorem Coherent.congr {p : Param V} {t u : ParamTable} (h : p.Coherent t)
    (hs : ParamTable.SameShape t u) : p.Coherent u := by
  unfold Coherent
  rw [← ParamTable.find_eq_of_sameShape hs]
  exact h

@[simp] theorem construct_name (t : ParamTable) (name : CString) (fallback : V) :
    (construct t name fallback).name = name := update_name t _

theorem construct_coherent (t : ParamTable) (name : CString) (fallback : V) :
    (construct t name fallback).Coherent t := update_coherent (Or.inl rfl)

theorem construct_value {t : ParamTable} {name : CString} {fallback v : V}
    (hv : ParamKind.get t (t.find name) = some v) : (construct t name fallback).value = v :=
  update_value (Or.inl rfl) hv

end Param

end DualMagneticWheel
