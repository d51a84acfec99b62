/-
# DualMagneticWheel.Rc.Conversions — which calibration values can be converted

`RcConfig::refresh` casts the floats behind `RCn_MIN`, `RCn_MAX`, `RCn_TRIM` and `RCn_DZ` to `uint16_t`.
The language gives such a cast a meaning only when the truncated value is one of the type, and the
parameter store admits every finite float. `refresh?` is the same function with the undefined casts as
`none`: it goes through exactly when all these parameters lie between -1 and 65536, both excluded
(`refresh?_isSome_iff`). The mapping of the channels, in the same function, tests its range first.
-/
import DualMagneticWheel.Foundation.Binary32
import DualMagneticWheel.Params.Definitions
import DualMagneticWheel.Rc.RcConfig

namespace DualMagneticWheel

open Foundation

namespace RcConfig

/-! ## The casts of `refresh` -/

/-- One turn of the calibration loop; `none` where a cast is undefined. -/
def refreshCalibration? (params : ParamTable) (s : Bool × RcConfig) (channel : Nat) :
    Option (Bool × RcConfig) := do
  let number := channel + 1
  let (v₁, value) := readFloat params (channelName number "_MIN") 0
  let minimum ← toUInt16? value
  let (v₂, value) := readFloat params (channelName number "_MAX") value
  let maximum ← toUInt16? value
  let (v₃, value) := readFloat params (channelName number "_TRIM") value
  let trim ← toUInt16? value
  let (v₄, value) := readFloat params (channelName number "_DZ") value
  let deadzone ← toUInt16? value
  let (v₅, value) := readFloat params (channelName number "_REV") value
  let calibration : RcChannelCalibration :=
    { minimum, maximum, trim, deadzone, reversed := value.lt 0 }
  return (s.1 && v₁ && v₂ && v₃ && v₄ && v₅,
    { s.2 with calibrations := s.2.calibrations.setIfInBounds channel calibration })

/-- The second half of `refresh`: the channels of the functions. -/
def refreshMappings (params : ParamTable) (s : Bool × RcConfig) : Bool × RcConfig :=
  let s := refreshMapping params (cstr "RC_MAP_THROTTLE") RcChannels.FUNCTION_THROTTLE s
  let s := refreshMapping params (cstr "RC_MAP_ROLL") RcChannels.FUNCTION_ROLL s
  let s := refreshMapping params (cstr "RC_MAP_PITCH") RcChannels.FUNCTION_PITCH s
  let s := refreshMapping params (cstr "RC_MAP_YAW") RcChannels.FUNCTION_YAW s
  forRange RcChannels.SWITCH_COUNT
    (fun s switchIndex =>
      refreshMapping params (cstr "RC_MAP_SW" ++ decimal (switchIndex + 1))
        (RcChannels.FUNCTION_SWITCH_FIRST + switchIndex) s) s

/-- `RcConfig::refresh` with its casts; `none` where one of them is undefined. -/
def refresh? (params : ParamTable) (c : RcConfig) : Option (Bool × RcConfig) :=
  (forRange? InputRc.MAX_CHANNELS (refreshCalibration? params) (true, c)).map (refreshMappings params)

/-! ## One channel -/

/-- The parameters of a channel that are cast. -/
def castSuffixes : List String := ["_MIN", "_MAX", "_TRIM", "_DZ"]

/-- The value of a parameter, if it has one, is between -1 and 65536. -/
def InCastRange (params : ParamTable) (name : CString) : Prop :=
  ∀ v, params.lookupFloat name = some v → Float32.lt (-1) v = true ∧ v.lt 65536 = true

/-- A read keeps the held value or takes the parameter's. -/
theorem readFloat_isSome_iff (params : ParamTable) (name : CString) {held : Float32}
    (h : (toUInt16? held).isSome = true) :
    (toUInt16? (readFloat params name held).2).isSome = true ↔ InCastRange params name := by
  rw [readFloat, InCastRange]
  cases params.lookupFloat name with
  | none => simp [h]
  | some v =>
      rw [toUInt16?_isSome_iff]
      constructor
      · rintro hv _ ⟨⟩
        exact hv
      · intro hv
        exact hv v rfl

/-- The first cast of a chain: it is undefined, or the chain goes on with its number. -/
theorem bind_isSome_iff {α β : Type} {x : Option α} {f : α → Option β} {P Q : Prop}
    (hx : x.isSome = true ↔ P) (hf : ∀ a, x = some a → ((f a).isSome = true ↔ Q)) :
    (x.bind f).isSome = true ↔ P ∧ Q := by
  cases x with
  | none =>
      have hnot : ¬ P := fun hp => Bool.false_ne_true (hx.mpr hp)
      simp [hnot]
  | some a =>
      have hp : P := hx.mp rfl
      rw [Option.bind_some, hf a rfl]
      exact ⟨fun hq => ⟨hp, hq⟩, fun h => h.2⟩

theorem refreshCalibration?_isSome_iff (params : ParamTable) (channel : Nat) (s : Bool × RcConfig) :
    (refreshCalibration? params s channel).isSome ↔
      ∀ suffix ∈ castSuffixes, InCastRange params (channelName (channel + 1) suffix) := by
  have hzero : (toUInt16? 0).isSome = true := by decide
  simp only [castSuffixes, List.forall_mem_cons, List.not_mem_nil, false_implies, implies_true]
  unfold refreshCalibration?
  -- a read that fails keeps the value of the cast before it, so its own cast is defined
  refine bind_isSome_iff (readFloat_isSome_iff params _ hzero) fun minimum hmin => ?_
  refine bind_isSome_iff (readFloat_isSome_iff params _ (by rw [hmin]; rfl)) fun maximum hmax => ?_
  refine bind_isSome_iff (readFloat_isSome_iff params _ (by rw [hmax]; rfl)) fun trim htrim => ?_
  refine bind_isSome_iff (readFloat_isSome_iff params _ (by rw [htrim]; rfl)) fun deadzone _ => ?_
  simp

/-- Where its casts are defined, a turn is the one on machine numbers. -/
theorem refreshCalibration_of_defined {params : ParamTable} {s t : Bool × RcConfig} {channel : Nat}
    (h : refreshCalibration? params s channel = some t) : refreshCalibration params s channel = t := by
  unfold refreshCalibration? at h
  obtain ⟨minimum, hmin, h⟩ := Option.bind_eq_some_iff.mp h
  obtain ⟨maximum, hmax, h⟩ := Option.bind_eq_some_iff.mp h
  obtain ⟨trim, htrim, h⟩ := Option.bind_eq_some_iff.mp h
  obtain ⟨deadzone, hdeadzone, h⟩ := Option.bind_eq_some_iff.mp h
  obtain rfl := Option.some.inj h
  obtain rfl := toUInt16_of_toUInt16? hmin
  obtain rfl := toUInt16_of_toUInt16? hmax
  obtain rfl := toUInt16_of_toUInt16? htrim
  obtain rfl := toUInt16_of_toUInt16? hdeadzone
  rfl

/-! ## The whole refresh -/

/-- Every calibration parameter that is cast is between -1 and 65536. -/
def CastsInRange (params : ParamTable) : Prop :=
  ∀ channel < InputRc.MAX_CHANNELS, ∀ suffix ∈ castSuffixes,
    InCastRange params (channelName (channel + 1) suffix)

theorem refresh?_isSome_iff (params : ParamTable) (c : RcConfig) :
    (refresh? params c).isSome ↔ CastsInRange params := by
  rw [refresh?, Option.isSome_map]
  exact forRange?_isSome_iff (refreshCalibration?_isSome_iff params) _

theorem refresh_of_defined {params : ParamTable} {c : RcConfig} {r : Bool × RcConfig}
    (h : refresh? params c = some r) : refresh params c = r := by
  obtain ⟨s, hloop, rfl⟩ := Option.map_eq_some_iff.mp h
  have hrun : forRange InputRc.MAX_CHANNELS (refreshCalibration params) (true, c) = s := by
    have hinv := forRange?_invariant
      (fun n u => forRange n (refreshCalibration params) (true, c) = u) rfl
      (fun i u v _ hu hv => by
        rw [forRange_succ, hu]
        exact refreshCalibration_of_defined hv) hloop
    exact hinv
  rw [← hrun]
  rfl

/-- `refresh` casts a value outside of `uint16_t` unless every calibration parameter is between -1 and
65536; inside that range it is the function the other modules are proved about. -/
theorem casts_defined_iff (params : ParamTable) (c : RcConfig) :
    refresh? params c = some (refresh params c) ↔ CastsInRange params := by
  rw [← refresh?_isSome_iff params c]
  constructor
  · intro h
    rw [h]
    rfl
  · intro h
    obtain ⟨r, hr⟩ := Option.isSome_iff_exists.mp h
    rw [hr, refresh_of_defined hr]

/-- The registered defaults are all in range. -/
example : (refresh? ParamManager.construct.table mk32).isSome = true := by decide +kernel

/-- The store admits a negative minimum of channel 1, as a value and as a default, and the next refresh
casts it. -/
theorem negative_minimum_cast :
    (ParamManager.construct.setFloat 0 (-5) 1000).2.1 = true ∧
      refresh? (ParamManager.construct.setFloat 0 (-5) 1000).1.table mk32 = none ∧
      (ParamManager.construct.setDefaultFloat 0 (-5)).2.1 = true ∧
      refresh? (ParamManager.construct.setDefaultFloat 0 (-5)).1.table mk32 = none := by
  refine ⟨by decide +kernel, by decide +kernel, by decide +kernel, by decide +kernel⟩

end RcConfig

end DualMagneticWheel
