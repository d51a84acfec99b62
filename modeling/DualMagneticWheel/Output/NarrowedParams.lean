/-
# DualMagneticWheel.Output.NarrowedParams — the CAN parameters that are tested after a cast

The ids of a channel and the number of its function are 32-bit parameters that the code casts to sixteen
bits first and tests afterwards. `updateParams_iff` says what a reload really tests: the table with these
twelve integers cut to sixteen bits. `reload_checks_iff` compares that with the ranges as integers: the
two agree for a table exactly when it is refused in any case or none of the twelve is changed by its
cast. A drive motor whose id is 65537 is accepted and addressed as motor 1.
-/
import DualMagneticWheel.Foundation.Bits
import DualMagneticWheel.Output.CanRuns
import DualMagneticWheel.Output.Drivable

namespace DualMagneticWheel

open Foundation

namespace CanChannelConfig

variable {K : Type} [Scalar K] [OfScientific K] [Add K] [Sub K] [Mul K] [Neg K] [BEq K]

/-! ## One channel -/

/-- The channel that the parameters of one actuator describe, its two ids cut to sixteen bits. -/
def described (params : ParamReader K) (type : ActuatorType) (index : Nat) :
    Option (CanChannelConfig K) := do
  let protocol ← params.integer (paramName type index "PROTO")
  let motorType ← params.integer (paramName type index "TYPE")
  let id ← params.integer (paramName type index "ID")
  let feedbackId ← params.integer (paramName type index "FBID")
  let mode ← params.integer (paramName type index "MODE")
  let reverse ← params.real (paramName type index "REV")
  let velocityMax ← params.real (paramName type index "VMAX")
  let torqueMax ← params.real (paramName type index "TMAX")
  let config : CanChannelConfig K :=
    { initial with
      actuatorType := type, protocol := ⟨protocol⟩, motorType := ⟨motorType⟩, mode := ⟨mode⟩
      motorId := id.toUInt32.toUInt16, feedbackId := feedbackId.toUInt32.toUInt16, reverse }
  match type with
  | .Servo =>
      let positionMinimum ← params.real (paramName type index "PMIN")
      let positionMaximum ← params.real (paramName type index "PMAX")
      let positionMax ← params.real (paramName type index "PFBMAX")
      pure { config with
        positionMinimum, positionMaximum, limits := { positionMax, velocityMax, torqueMax } }
  | .Motor =>
      let positionMax ← params.real (paramName type index "PMAX")
      pure { config with
        positionMinimum := -positionMax, positionMaximum := positionMax
        limits := { positionMax, velocityMax, torqueMax } }

omit [Add K] [Sub K] [Mul K] in
/-- A described channel is loaded as described, from whatever was there before. -/
theorem loadChannel_of_described {params : ParamReader K} {type : ActuatorType} {index : Nat}
    {c : CanChannelConfig K} (h : described params type index = some c) (config : CanChannelConfig K) :
    loadChannel params type index config = (c.accepted, c) := by
  obtain ⟨protocol, hprotocol, h⟩ := Option.bind_eq_some_iff.mp h
  obtain ⟨motorType, htype, h⟩ := Option.bind_eq_some_iff.mp h
  obtain ⟨id, hid, h⟩ := Option.bind_eq_some_iff.mp h
  obtain ⟨feedbackId, hfeedback, h⟩ := Option.bind_eq_some_iff.mp h
  obtain ⟨mode, hmode, h⟩ := Option.bind_eq_some_iff.mp h
  obtain ⟨reverse, hreverse, h⟩ := Option.bind_eq_some_iff.mp h
  obtain ⟨velocityMax, hvelocity, h⟩ := Option.bind_eq_some_iff.mp h
  obtain ⟨torqueMax, htorque, h⟩ := Option.bind_eq_some_iff.mp h
  cases type with
  | Motor =>
      simp only [Option.bind_eq_bind, Option.bind_eq_some_iff, Option.pure_def, Option.some_inj] at h
      obtain ⟨positionMax, hposition, rfl⟩ := h
      simp only [loadChannel, loadIntegers, loadReals, readInt, readFloat, hprotocol, htype, hid,
        hfeedback, hmode, hreverse, hvelocity, htorque, hposition, Bool.true_and]
  | Servo =>
      simp only [Option.bind_eq_bind, Option.bind_eq_some_iff, Option.pure_def, Option.some_inj] at h
      obtain ⟨positionMinimum, hminimum, positionMaximum, hmaximum, positionMax, hposition, rfl⟩ := h
      simp only [loadChannel, loadIntegers, loadReals, readInt, readFloat, hprotocol, htype, hid,
        hfeedback, hmode, hreverse, hvelocity, htorque, hminimum, hmaximum, hposition, Bool.true_and]

omit [Scalar K] [OfScientific K] [Add K] [Sub K] [Mul K] [Neg K] [BEq K] in
/-- Readings that are all good have found the five integers. -/
theorem loadIntegers_found {params : ParamReader K} {type : ActuatorType} {index : Nat}
    {config : CanChannelConfig K} (h : (loadIntegers params type index config).1 = true) :
    (∃ v, params.integer (paramName type index "PROTO") = some v) ∧
      (∃ v, params.integer (paramName type index "TYPE") = some v) ∧
      (∃ v, params.integer (paramName type index "ID") = some v) ∧
      (∃ v, params.integer (paramName type index "FBID") = some v) ∧
      ∃ v, params.integer (paramName type index "MODE") = some v := by
  obtain ⟨h, hmode⟩ := readInt_valid h
  obtain ⟨h, hfeedback⟩ := readInt_valid h
  obtain ⟨h, hid⟩ := readInt_valid h
  obtain ⟨h, htype⟩ := readInt_valid h
  obtain ⟨-, hprotocol⟩ := readInt_valid h
  exact ⟨⟨_, hprotocol⟩, ⟨_, htype⟩, ⟨_, hid⟩, ⟨_, hfeedback⟩, ⟨_, hmode⟩⟩

omit [Add K] [Sub K] [Mul K] in
/-- An accepted channel is the described one. -/
theorem described_of_loadChannel {params : ParamReader K} {type : ActuatorType} {index : Nat}
    {config : CanChannelConfig K} (h : (loadChannel params type index config).1 = true) :
    ∃ c, described params type index = some c ∧ c.accepted = true ∧
      (loadChannel params type index config).2 = c := by
  have hsome : ∃ c, described params type index = some c := by
    rw [loadChannel, Bool.and_eq_true] at h
    obtain ⟨h, -⟩ := h
    cases type with
    | Motor =>
        simp only [loadReals] at h
        obtain ⟨h, hposition⟩ := readFloat_valid h
        obtain ⟨h, htorque⟩ := readFloat_valid h
        obtain ⟨h, hvelocity⟩ := readFloat_valid h
        obtain ⟨h, hreverse⟩ := readFloat_valid h
        obtain ⟨⟨_, hprotocol⟩, ⟨_, hmotor⟩, ⟨_, hid⟩, ⟨_, hfeedback⟩, ⟨_, hmode⟩⟩ :=
          loadIntegers_found h
        simp only [described, hprotocol, hmotor, hid, hfeedback, hmode, hreverse, hvelocity, htorque,
          hposition, Option.bind_eq_bind, Option.bind_some, Option.pure_def, Option.some_inj, exists_eq']
    | Servo =>
        simp only [loadReals] at h
        obtain ⟨h, hposition⟩ := readFloat_valid h
        obtain ⟨h, hmaximum⟩ := readFloat_valid h
        obtain ⟨h, hminimum⟩ := readFloat_valid h
        obtain ⟨h, htorque⟩ := readFloat_valid h
        obtain ⟨h, hvelocity⟩ := readFloat_valid h
        obtain ⟨h, hreverse⟩ := readFloat_valid h
        obtain ⟨⟨_, hprotocol⟩, ⟨_, hmotor⟩, ⟨_, hid⟩, ⟨_, hfeedback⟩, ⟨_, hmode⟩⟩ :=
          loadIntegers_found h
        simp only [described, hprotocol, hmotor, hid, hfeedback, hmode, hreverse, hvelocity, htorque,
          hminimum, hmaximum, hposition, Option.bind_eq_bind, Option.bind_some, Option.pure_def,
          Option.some_inj, exists_eq']
  obtain ⟨c, hc⟩ := hsome
  rw [loadChannel_of_described hc] at h ⊢
  exact ⟨c, hc, h, rfl⟩

omit [Scalar K] [Add K] [Sub K] [Mul K] [BEq K] in
/-- The integers behind a described channel. -/
theorem described_integers {params : ParamReader K} {type : ActuatorType} {index : Nat}
    {c : CanChannelConfig K} (h : described params type index = some c) :
    ∃ id feedbackId, params.integer (paramName type index "ID") = some id ∧
      params.integer (paramName type index "FBID") = some feedbackId ∧
      params.integer (paramName type index "MODE") = some c.mode.value ∧
      c.motorId = id.toUInt32.toUInt16 ∧ c.feedbackId = feedbackId.toUInt32.toUInt16 := by
  obtain ⟨_, _, h⟩ := Option.bind_eq_some_iff.mp h
  obtain ⟨_, _, h⟩ := Option.bind_eq_some_iff.mp h
  obtain ⟨id, hid, h⟩ := Option.bind_eq_some_iff.mp h
  obtain ⟨feedbackId, hfeedback, h⟩ := Option.bind_eq_some_iff.mp h
  obtain ⟨mode, hmode, h⟩ := Option.bind_eq_some_iff.mp h
  obtain ⟨_, _, h⟩ := Option.bind_eq_some_iff.mp h
  obtain ⟨_, _, h⟩ := Option.bind_eq_some_iff.mp h
  obtain ⟨_, _, h⟩ := Option.bind_eq_some_iff.mp h
  refine ⟨id, feedbackId, hid, hfeedback, ?_⟩
  cases type with
  | Motor =>
      simp only [Option.bind_eq_bind, Option.bind_eq_some_iff, Option.pure_def, Option.some_inj] at h
      obtain ⟨_, _, rfl⟩ := h
      exact ⟨hmode, rfl, rfl⟩
  | Servo =>
      simp only [Option.bind_eq_bind, Option.bind_eq_some_iff, Option.pure_def, Option.some_inj] at h
      obtain ⟨_, _, _, _, _, _, rfl⟩ := h
      exact ⟨hmode, rfl, rfl⟩

omit [Add K] [Sub K] [Mul K] in
/-- The two ids of an accepted channel are standard ids, the first one shifted by its mode. -/
theorem accepted_ids {c : CanChannelConfig K} (h : c.accepted = true) :
    ∃ offset, DamiaoProtocol.modeOffset c.mode = some offset ∧
      c.motorId.toNat + offset.toNat ≤ 0x7ff ∧ c.feedbackId.toNat ≤ 0x7ff := by
  unfold accepted at h
  cases hoffset : DamiaoProtocol.modeOffset c.mode with
  | none => simp [hoffset] at h
  | some offset =>
      simp only [hoffset, Bool.and_eq_true, decide_eq_true_iff] at h
      exact ⟨offset, rfl, h.1.1.1.1.1.1.2, h.1.1.1.1.1.2⟩

/-- Every channel is described and passes the final test. -/
def AllAccepted (params : ParamReader K) : Prop :=
  ∀ (type : ActuatorType) (index : Nat), index < type.count →
    ∃ c, described params type index = some c ∧ c.accepted = true

omit [Add K] [Sub K] [Mul K] in
theorem loadTurn_of_described {params : ParamReader K} (h : AllAccepted params) (type : ActuatorType)
    {index : Nat} (hindex : index < type.count) (channels : Vector (CanChannelConfig K) 4) :
    (loadTurn params type channels index).isSome = true := by
  obtain ⟨c, hc, haccepted⟩ := h type index hindex
  rw [loadTurn, loadChannel_of_described hc, haccepted]
  rfl

omit [Add K] [Sub K] [Mul K] in
/-- A refresh takes the channels as described, or fails. -/
theorem loadChannels_isSome_iff (params : ParamReader K) :
    (loadChannels params).isSome = true ↔ AllAccepted params := by
  constructor
  · intro hsome type index hindex
    obtain ⟨channels, h⟩ := Option.isSome_iff_exists.mp hsome
    obtain ⟨c, hc, haccepted, -⟩ :=
      loadChannels_fills (P := fun type index config => ∃ c, described params type index = some c ∧
        c.accepted = true ∧ config = c) (fun _ _ _ => described_of_loadChannel) h hindex
    exact ⟨c, hc, haccepted⟩
  · intro h
    -- no turn of either loop returns early
    have hturns : ∀ type : ActuatorType, ∀ index s, index < 2 → loadTurn params type s index =
        some ((loadTurn params type s index).getD s) := by
      intro type index s hindex
      have hsome := loadTurn_of_described h type (by cases type <;> exact hindex) s
      obtain ⟨channels, hchannels⟩ := Option.isSome_iff_exists.mp hsome
      rw [hchannels, Option.getD_some]
    rw [loadChannels, forRange?_eq_some _ (hturns .Motor), Option.bind_some,
      forRange?_eq_some _ (hturns .Servo)]
    rfl

omit [Add K] [Sub K] [Mul K] in
theorem loadChannels_described {params : ParamReader K} {channels : Vector (CanChannelConfig K) 4}
    (h : loadChannels params = some channels) {type : ActuatorType} {index : Nat}
    (hindex : index < type.count) :
    described params type index = some (channels.getD (type.channel index) initial) ∧
      (channels.getD (type.channel index) initial).accepted = true := by
  apply loadChannels_fills (P := fun type index config => described params type index = some config ∧
    config.accepted = true) ?_ h hindex
  intro type index config hload
  obtain ⟨c, hc, haccepted, rfl⟩ := described_of_loadChannel hload
  exact ⟨hc, haccepted⟩

end CanChannelConfig

/-! ## The function of a channel -/

/-- The numbers that `MixingOutput` stores as they are. -/
def OutputFunction.known (function : OutputFunction) : Bool :=
  function == .Disabled || outputFunctionIsMotor function || outputFunctionIsServo function

/-- The test of `updateParamsImpl` asks for the opposite. -/
theorem OutputFunction.ite_unknown {α : Type} (function : OutputFunction) (a b : α) :
    (if function ≠ .Disabled ∧ ¬ outputFunctionIsMotor function ∧
      ¬ outputFunctionIsServo function then a else b) = if function.known then b else a := by
  have hknown : function.known = true ↔ ¬ (function ≠ .Disabled ∧
      ¬ outputFunctionIsMotor function ∧ ¬ outputFunctionIsServo function) := by
    simp only [known, Bool.or_eq_true, beq_iff_eq]
    tauto
  simp only [hknown, ite_not]

namespace MixingOutput

/-- The cached handles are still to be found or are the ones the table gives. -/
structure Coherent (m : MixingOutput) (names : List CString) (params : ParamTable) : Prop where
  functionParamNames : m.functionParamNames = some names
  handles : ∀ c, m.functionHandles.getD c none = none ∨
    m.functionHandles.getD c none = params.find (names.getD c [])
  failName : m.paramFailAction.name = cstr "OUT_FAIL_ACT"
  failAction : m.paramFailAction.Coherent params

/-- The function that a parameter selects once it is cut to sixteen bits; `none` when the parameter is
missing or the function unknown. -/
def selected (params : ParamTable) (name : CString) : Option OutputFunction :=
  (params.lookupInt name).bind fun value =>
    if (OutputFunction.ofInt32 value).known then some (.ofInt32 value) else none

/-- One turn of the channel loop reads the parameter by its name. -/
theorem refreshChannel_read {m : MixingOutput} {names : List CString} {params : ParamTable}
    (h : m.Coherent names params) (valid : Bool) (c : Nat) :
    refreshChannel params (valid, m) c =
      match params.getInt (params.find (names.getD c [])) with
      | none => (false, { m with
          functionHandles := m.functionHandles.setIfInBounds c (params.find (names.getD c []))
          functions := m.functions.setIfInBounds c .Disabled })
      | some value =>
          if (OutputFunction.ofInt32 value).known then
            (valid, { m with
              functionHandles := m.functionHandles.setIfInBounds c (params.find (names.getD c []))
              functions := m.functions.setIfInBounds c (.ofInt32 value) })
          else (false, { m with
            functionHandles := m.functionHandles.setIfInBounds c (params.find (names.getD c []))
            functions := m.functions.setIfInBounds c .Disabled }) := by
  unfold refreshChannel
  simp only [h.functionParamNames, OutputFunction.ite_unknown]
  cases hcached : m.functionHandles.getD c none with
  | none => rfl
  | some i =>
      -- a handle that is kept is the one the table gives
      have hfind : params.find (names.getD c []) = some i := by
        rcases h.handles c with hnone | hfound
        · rw [hcached] at hnone
          cases hnone
        · rw [← hfound, hcached]
      rewrite [hfind]
      rfl

/-- It stores the function that the parameter selects. -/
theorem refreshChannel_eq {m : MixingOutput} {names : List CString} {params : ParamTable}
    (h : m.Coherent names params) (valid : Bool) (c : Nat) :
    refreshChannel params (valid, m) c =
      (valid && (selected params (names.getD c [])).isSome,
        { m with
          functionHandles := m.functionHandles.setIfInBounds c (params.find (names.getD c []))
          functions :=
            m.functions.setIfInBounds c ((selected params (names.getD c [])).getD .Disabled) }) := by
  rw [refreshChannel_read h, selected, ParamTable.lookupInt]
  cases params.getInt (params.find (names.getD c [])) with
  | none => simp
  | some value =>
      cases hknown : (OutputFunction.ofInt32 value).known with
      | true => simp [hknown]
      | false => simp [hknown]

/-- A refreshed handle is the one of the table. -/
theorem Coherent.refreshed {m : MixingOutput} {names : List CString} {params : ParamTable}
    (h : m.Coherent names params) (c : Nat) (functions : Vector OutputFunction 8) :
    Coherent { m with
      functionHandles := m.functionHandles.setIfInBounds c (params.find (names.getD c []))
      functions } names params := by
  refine ⟨h.functionParamNames, fun i => ?_, h.failName, h.failAction⟩
  show (m.functionHandles.setIfInBounds c _).getD i none = none ∨ _
  rw [getD_setIfInBounds]
  by_cases hi : c = i ∧ c < 8
  · rw [if_pos hi, hi.1]
    exact Or.inr rfl
  · rw [if_neg hi]
    exact h.handles i

/-- The channel loop keeps the handles coherent, succeeds when every channel has a function, and stores
the functions. -/
theorem updateParamsImpl_spec {m : MixingOutput} {names : List CString} {params : ParamTable}
    (h : m.Coherent names params) (hmax : m.maxOutputs ≤ 8) :
    (updateParamsImpl params m).2.Coherent names params ∧
      ((updateParamsImpl params m).1 = true ↔
        ∀ c < m.maxOutputs, (selected params (names.getD c [])).isSome = true) ∧
      ∀ c < m.maxOutputs, (updateParamsImpl params m).2.functions.getD c .Disabled =
        (selected params (names.getD c [])).getD .Disabled := by
  refine forRange_invariant (fun i (s : Bool × MixingOutput) => s.2.Coherent names params ∧
    (s.1 = true ↔ ∀ c < i, (selected params (names.getD c [])).isSome = true) ∧
    ∀ c < i, s.2.functions.getD c .Disabled = (selected params (names.getD c [])).getD .Disabled)
    ?_ ?_
  · refine ⟨h, ?_, fun c hc => absurd hc (Nat.not_lt_zero c)⟩
    rw [h.functionParamNames]
    simp
  · rintro i ⟨valid, n⟩ hi ⟨hn, hvalid, hstored⟩
    dsimp only at hn hvalid hstored
    rw [refreshChannel_eq hn]
    refine ⟨hn.refreshed i _, ?_, fun c hc => ?_⟩
    · rw [Bool.and_eq_true, hvalid]
      constructor
      · rintro ⟨hbefore, hown⟩ c hc
        by_cases hci : c = i
        · rw [hci]
          exact hown
        · exact hbefore c (by omega)
      · intro hall
        exact ⟨fun c hc => hall c (by omega), hall i (by omega)⟩
    · show (n.functions.setIfInBounds i _).getD c .Disabled = _
      rw [getD_setIfInBounds]
      by_cases hci : i = c
      · rw [if_pos ⟨hci, by omega⟩, hci]
      · rw [if_neg fun hboth => hci hboth.1]
        exact hstored c (by omega)

/-- A reload of the mixing stage also reads the failure action. -/
theorem updateParams_spec {m : MixingOutput} {names : List CString} {params : ParamTable}
    (h : m.Coherent names params) (hmax : m.maxOutputs ≤ 8) :
    (m.updateParams params).2.Coherent names params ∧
      ((m.updateParams params).1 = true ↔
        (params.lookupInt (cstr "OUT_FAIL_ACT")).isSome = true ∧
          ∀ c < m.maxOutputs, (selected params (names.getD c [])).isSome = true) ∧
      ∀ c < m.maxOutputs, (m.updateParams params).2.functions.getD c .Disabled =
        (selected params (names.getD c [])).getD .Disabled := by
  have hcoherent : Coherent { m with paramFailAction := (m.paramFailAction.update params).2 } names
      params :=
    ⟨h.functionParamNames, h.handles, (Param.update_name _ _).trans h.failName,
      Param.update_coherent h.failAction⟩
  have hread : (m.paramFailAction.update params).1 =
      (params.lookupInt (cstr "OUT_FAIL_ACT")).isSome := by
    have hget : ParamKind.get params (params.find (cstr "OUT_FAIL_ACT")) =
        params.lookupInt (cstr "OUT_FAIL_ACT") := rfl
    rw [Param.update, Param.ensureHandle_eq h.failAction, h.failName, hget]
    cases params.lookupInt (cstr "OUT_FAIL_ACT") with
    | none => rfl
    | some v => rfl
  obtain ⟨hnext, hvalid, hstored⟩ := updateParamsImpl_spec hcoherent hmax
  refine ⟨hnext, ?_, hstored⟩
  rw [updateParams, Bool.and_eq_true, hvalid, hread]
  exact and_comm

end MixingOutput

/-- The numbers that select a function: none, one of eight motors, one of eight servos. -/
def FunctionNumber (n : Int) : Prop := n = 0 ∨ (101 ≤ n ∧ n ≤ 108) ∨ (201 ≤ n ∧ n ≤ 208)

theorem OutputFunction.known_number {function : OutputFunction} (h : function.known = true) :
    FunctionNumber function.value.toNat := by
  simp only [known, outputFunctionIsMotor, outputFunctionIsServo, Bool.or_eq_true, Bool.and_eq_true,
    beq_iff_eq, decide_eq_true_iff, UInt16.le_iff_toNat_le] at h
  rcases h with (rfl | ⟨hlow, hhigh⟩) | ⟨hlow, hhigh⟩
  · exact Or.inl rfl
  · have hlow' : 101 ≤ function.value.toNat := hlow
    have hhigh' : function.value.toNat ≤ 108 := hhigh
    exact Or.inr (Or.inl ⟨by omega, by omega⟩)
  · have hlow' : 201 ≤ function.value.toNat := hlow
    have hhigh' : function.value.toNat ≤ 208 := hhigh
    exact Or.inr (Or.inr ⟨by omega, by omega⟩)

theorem MixingOutput.selected_eq_some {params : ParamTable} {name : CString}
    {function : OutputFunction} (h : selected params name = some function) :
    ∃ value, params.lookupInt name = some value ∧ function = .ofInt32 value ∧
      function.known = true := by
  unfold selected at h
  rw [Option.bind_eq_some_iff] at h
  obtain ⟨value, hvalue, hif⟩ := h
  split at hif
  · rename_i hknown
    obtain rfl := Option.some_inj.mp hif
    exact ⟨value, hvalue, rfl, hknown⟩
  · cases hif

namespace CanTask

open CanChannelConfig MixingOutput

/-! ## A reload of the driver and its child -/

/-- The mixing stage belongs to this driver, and its cached handles are those of the table. -/
structure Wired (params : ParamTable) (t : CanTask) : Prop where
  coherent : t.mixingOutput.Coherent CanOutput.CanFunctionParams params
  maxOutputs : t.mixingOutput.maxOutputs = CanOutput.ChannelCount

/-- What a reload tests: every parameter is there, and the channels and functions pass once their
integers are cut to sixteen bits. -/
structure AcceptedNarrowed (params : ParamTable) : Prop where
  channels : AllAccepted (ParamReader.ofTable params)
  functions : ∀ c < CanOutput.ChannelCount,
    (selected params (CanOutput.CanFunctionParams.getD c [])).isSome = true
  failAction : (params.lookupInt (cstr "OUT_FAIL_ACT")).isSome = true

theorem updateParams_iff {params : ParamTable} {t : CanTask} (h : t.Wired params) :
    (t.updateParams params).1 = true ↔ AcceptedNarrowed params := by
  have hbound : t.mixingOutput.maxOutputs ≤ 8 := by
    rw [h.maxOutputs]
    decide
  obtain ⟨-, hchild, -⟩ := updateParams_spec h.coherent hbound
  have hown : (t.driver.output.refreshParameters (.ofTable params)).1 = true ↔
      AllAccepted (ParamReader.ofTable params) := by
    rw [← loadChannels_isSome_iff, CanOutput.refreshParameters]
    cases loadChannels (ParamReader.ofTable params) with
    | none => simp
    | some channels => simp
  have hresult : (t.updateParams params).1 = ((t.mixingOutput.updateParams params).1 &&
      (t.driver.output.refreshParameters (.ofTable params)).1) := rfl
  rw [hresult, Bool.and_eq_true, hchild, hown, h.maxOutputs]
  constructor
  · rintro ⟨⟨hfail, hfunctions⟩, hchannels⟩
    exact ⟨hchannels, hfunctions, hfail⟩
  · rintro ⟨hchannels, hfunctions, hfail⟩
    exact ⟨⟨hfail, hfunctions⟩, hchannels⟩

/-- The name under which the mixing stage looks for a function. -/
theorem functionParam {type : ActuatorType} {index : Nat} (hindex : index < type.count) :
    CanOutput.CanFunctionParams.getD (type.channel index) [] = paramName type index "FUNC" := by
  have htwo : index < 2 := by cases type <;> exact hindex
  obtain rfl | rfl : index = 0 ∨ index = 1 := by omega
  · cases type <;> decide
  · cases type <;> decide

/-- One actuator after a reload that tested the integers themselves. -/
def Checked (params : ParamTable) (t : CanTask) (type : ActuatorType) (index : Nat) : Prop :=
  ∃ (id feedbackId mode function : Int32) (offset : UInt16),
    params.lookupInt (paramName type index "ID") = some id ∧
    params.lookupInt (paramName type index "FBID") = some feedbackId ∧
    params.lookupInt (paramName type index "MODE") = some mode ∧
    params.lookupInt (paramName type index "FUNC") = some function ∧
    DamiaoProtocol.modeOffset ⟨mode⟩ = some offset ∧
    (0 ≤ id.toInt ∧ id.toInt + offset.toNat ≤ 0x7ff) ∧
    (0 ≤ feedbackId.toInt ∧ feedbackId.toInt ≤ 0x7ff) ∧ FunctionNumber function.toInt ∧
    (t.driver.output.channel (type.channel index)).motorId.toNat = id.toInt ∧
    (t.driver.output.channel (type.channel index)).feedbackId.toNat = feedbackId.toInt ∧
    (t.mixingOutput.function (type.channel index)).value.toNat = function.toInt

/-- A reload that succeeds has tested the ranges and caches the values. -/
def ReloadChecks (params : ParamTable) (t : CanTask) : Prop :=
  (t.updateParams params).1 = true → ∀ (type : ActuatorType) (index : Nat), index < type.count →
    Checked params (t.updateParams params).2 type index

/-- The twelve integers that are cast before they are tested. -/
def narrowedParams : List CString :=
  [ActuatorType.Motor, .Servo].flatMap fun type => (List.range type.count).flatMap fun index =>
    ["ID", "FBID", "FUNC"].map (paramName type index)

/-- Sixteen bits hold all twelve. -/
def FitsSixteenBits (params : ParamTable) : Prop :=
  ∀ name ∈ narrowedParams, ∀ value, params.lookupInt name = some value →
    0 ≤ value.toInt ∧ value.toInt ≤ 0xffff

theorem mem_narrowedParams {name : CString} : name ∈ narrowedParams ↔
    ∃ (type : ActuatorType) (index : Nat), index < type.count ∧
      ∃ suffix ∈ ["ID", "FBID", "FUNC"], paramName type index suffix = name := by
  simp only [narrowedParams, List.mem_flatMap, List.mem_range, List.mem_map]
  constructor
  · rintro ⟨type, -, index, hindex, suffix, hsuffix, rfl⟩
    exact ⟨type, index, hindex, suffix, hsuffix, rfl⟩
  · rintro ⟨type, index, hindex, suffix, hsuffix, rfl⟩
    exact ⟨type, by cases type <;> simp, index, hindex, suffix, hsuffix, rfl⟩

/-- What an accepted reload caches, with the integers behind it. -/
theorem updateParams_caches {params : ParamTable} {t : CanTask} (h : t.Wired params)
    (htrue : (t.updateParams params).1 = true) {type : ActuatorType} {index : Nat}
    (hindex : index < type.count) :
    ∃ (id feedbackId mode function : Int32) (offset : UInt16),
      params.lookupInt (paramName type index "ID") = some id ∧
      params.lookupInt (paramName type index "FBID") = some feedbackId ∧
      params.lookupInt (paramName type index "MODE") = some mode ∧
      params.lookupInt (paramName type index "FUNC") = some function ∧
      DamiaoProtocol.modeOffset ⟨mode⟩ = some offset ∧
      id.toUInt32.toUInt16.toNat + offset.toNat ≤ 0x7ff ∧
      feedbackId.toUInt32.toUInt16.toNat ≤ 0x7ff ∧
      FunctionNumber (function.toUInt32.toUInt16.toNat : Nat) ∧
      ((t.updateParams params).2.driver.output.channel (type.channel index)).motorId =
        id.toUInt32.toUInt16 ∧
      ((t.updateParams params).2.driver.output.channel (type.channel index)).feedbackId =
        feedbackId.toUInt32.toUInt16 ∧
      ((t.updateParams params).2.mixingOutput.function (type.channel index)).value =
        function.toUInt32.toUInt16 := by
  obtain ⟨hall, hfunctions, -⟩ := (updateParams_iff h).mp htrue
  -- the driver takes the described channels
  obtain ⟨channels, hchannels⟩ := Option.isSome_iff_exists.mp ((loadChannels_isSome_iff _).mpr hall)
  have hcached : (t.updateParams params).2.driver.output.channel (type.channel index) =
      channels.getD (type.channel index) initial := by
    show (t.driver.output.refreshParameters (.ofTable params)).2.channel (type.channel index) = _
    rw [CanOutput.refreshParameters, hchannels]
    rfl
  obtain ⟨hdescribed, haccepted⟩ := loadChannels_described hchannels hindex
  obtain ⟨id, feedbackId, hid, hfeedback, hmode, hidCached, hfeedbackCached⟩ :=
    described_integers hdescribed
  obtain ⟨offset, hoffset, hidRange, hfeedbackRange⟩ := accepted_ids haccepted
  -- the child stores the selected functions
  have hchannel := ActuatorType.channel_lt hindex
  have hselected := hfunctions _ hchannel
  rw [functionParam hindex] at hselected
  obtain ⟨function, hfunction⟩ := Option.isSome_iff_exists.mp hselected
  obtain ⟨value, hvalue, rfl, hknown⟩ := selected_eq_some hfunction
  have hbound : t.mixingOutput.maxOutputs ≤ 8 := by
    rw [h.maxOutputs]
    decide
  obtain ⟨-, -, hstored⟩ := updateParams_spec h.coherent hbound
  have hlookup := hstored (type.channel index) (by rw [h.maxOutputs]; exact hchannel)
  rw [functionParam hindex, hfunction, Option.getD_some] at hlookup
  obtain ⟨failAction, handles, functions, hframe⟩ := updateParams_frame params t.mixingOutput
  have hmax : (t.mixingOutput.updateParams params).2.maxOutputs = CanOutput.ChannelCount := by
    rw [hframe]
    exact h.maxOutputs
  have hstoredFunction : (t.updateParams params).2.mixingOutput.function (type.channel index) =
      .ofInt32 value := by
    show (t.mixingOutput.updateParams params).2.function (type.channel index) = _
    rw [MixingOutput.function, hmax, if_pos hchannel, hlookup]
  refine ⟨id, feedbackId, _, value, offset, hid, hfeedback, hmode, hvalue, hoffset, ?_, ?_,
    OutputFunction.known_number hknown, ?_, ?_, ?_⟩
  · rw [← hidCached]
    exact hidRange
  · rw [← hfeedbackCached]
    exact hfeedbackRange
  · rw [hcached, hidCached]
  · rw [hcached, hfeedbackCached]
  · rw [hstoredFunction]
    rfl

/-- A reload tests its integers exactly when the table is refused anyway or no cast changes them. -/
theorem reload_checks_wired {params : ParamTable} {t : CanTask} (h : t.Wired params) :
    ReloadChecks params t ↔ (AcceptedNarrowed params → FitsSixteenBits params) := by
  constructor
  · intro hchecks haccepted name hname value hvalue
    obtain ⟨type, index, hindex, suffix, hsuffix, rfl⟩ := mem_narrowedParams.mp hname
    obtain ⟨id, feedbackId, mode, function, offset, hid, hfeedback, -, hfunction, -, hidRange,
      hfeedbackRange, hnumber, -⟩ := hchecks ((updateParams_iff h).mpr haccepted) type index hindex
    simp only [List.mem_cons, List.not_mem_nil, or_false] at hsuffix
    rcases hsuffix with rfl | rfl | rfl
    · obtain rfl := Option.some_inj.mp (hid.symm.trans hvalue)
      omega
    · obtain rfl := Option.some_inj.mp (hfeedback.symm.trans hvalue)
      omega
    · obtain rfl := Option.some_inj.mp (hfunction.symm.trans hvalue)
      rcases hnumber with hzero | hmotor | hservo
      · omega
      · omega
      · omega
  · intro hfits htrue type index hindex
    obtain ⟨id, feedbackId, mode, function, offset, hid, hfeedback, hmode, hfunction, hoffset, hidRange,
      hfeedbackRange, hnumber, hidCached, hfeedbackCached, hfunctionCached⟩ :=
      updateParams_caches h htrue hindex
    have hexact : ∀ suffix ∈ ["ID", "FBID", "FUNC"], ∀ value,
        params.lookupInt (paramName type index suffix) = some value →
        (value.toUInt32.toUInt16.toNat : Int) = value.toInt := by
      intro suffix hsuffix value hvalue
      have hfit := hfits ((updateParams_iff h).mp htrue) _
        (mem_narrowedParams.mpr ⟨type, index, hindex, suffix, hsuffix, rfl⟩) value hvalue
      exact (toNat_narrow_eq_iff value).mpr ⟨hfit.1, by omega⟩
    have hidExact := hexact "ID" (by simp) id hid
    have hfeedbackExact := hexact "FBID" (by simp) feedbackId hfeedback
    have hfunctionExact := hexact "FUNC" (by simp) function hfunction
    refine ⟨id, feedbackId, mode, function, offset, hid, hfeedback, hmode, hfunction, hoffset,
      ⟨by omega, by omega⟩, ⟨by omega, by omega⟩, ?_, ?_, ?_, ?_⟩
    · rw [← hfunctionExact]
      exact hnumber
    · rw [hidCached]
      exact hidExact
    · rw [hfeedbackCached]
      exact hfeedbackExact
    · rw [hfunctionCached]
      exact hfunctionExact

/-! ## Every task of a run -/

/-- What can happen to the object once it is constructed: a reload, the device opened, an input. -/
inductive LifeStep where
  | reload (params : ParamTable)
  | opened (canFd : Int)
  | event (e : Event)

/-- The tables that are read. -/
def LifeStep.tables : LifeStep → List ParamTable
  | .reload params => [params]
  | .opened _ => []
  | .event e =>
      match e.input with
      | .turn turn => [turn.params, turn.retryParams]
      | .update _ _ _ => []
      | .command _ => []

def lifeStep (t : CanTask) : LifeStep → CanTask
  | .reload params => t.reload params
  | .opened canFd => { t with driver := { t.driver with output := { t.driver.output with canFd } } }
  | .event e => t.next e

/-- The runs of the object while the definitions of the parameters stay the same. -/
def lives (shape : ParamTable) : Transition CanTask LifeStep where
  init t := ∃ params, shape.SameShape params ∧ t =
    { mixingOutput := .construct params (some CanOutput.CanFunctionParams) CanOutput.ChannelCount
      driver := { output := {} } }
  step t a t' := (∀ params ∈ a.tables, shape.SameShape params) ∧ t' = t.lifeStep a

/-- The start of the task is such a run. -/
theorem start_lives {shape params₀ params₁ : ParamTable} {canFd : Int} {t₀ : CanTask}
    (h : start params₀ params₁ canFd = some t₀) (h₀ : shape.SameShape params₀)
    (h₁ : shape.SameShape params₁) : (lives shape).Reachable t₀ := by
  unfold start at h
  dsimp only at h
  split at h
  · cases h
  · rw [Option.some_inj] at h
    subst h
    have hconstructed : (lives shape).Reachable (CanTask.mk (.construct params₀
        (some CanOutput.CanFunctionParams) CanOutput.ChannelCount) { output := {} }) :=
      .start ⟨params₀, h₀, rfl⟩
    generalize CanTask.mk (.construct params₀ (some CanOutput.CanFunctionParams)
      CanOutput.ChannelCount) { output := {} } = t at hconstructed ⊢
    have hreloaded : (lives shape).Reachable (t.lifeStep (.reload params₁)) :=
      .next hconstructed ⟨by simpa [LifeStep.tables] using h₁, rfl⟩
    have hopened : (lives shape).Reachable ((t.lifeStep (.reload params₁)).lifeStep (.opened canFd)) :=
      .next hreloaded ⟨by simp [LifeStep.tables], rfl⟩
    exact hopened

theorem Wired.sameShape {params params' : ParamTable} {t : CanTask} (h : t.Wired params)
    (hshape : params.SameShape params') : t.Wired params' := by
  obtain ⟨⟨hnames, hhandles, hfail, hcached⟩, hmax⟩ := h
  refine ⟨⟨hnames, fun c => ?_, hfail, hcached.congr hshape⟩, hmax⟩
  rw [← ParamTable.find_eq_of_sameShape hshape]
  exact hhandles c

/-- A new mixing stage has looked its handles up. -/
theorem constructed_wired (params : ParamTable) : Wired params
    { mixingOutput := .construct params (some CanOutput.CanFunctionParams) CanOutput.ChannelCount
      driver := { output := {} } } := by
  have hfresh : Coherent
      { functionParamNames := some CanOutput.CanFunctionParams, maxOutputs := CanOutput.ChannelCount
        paramFailAction := Param.construct params (cstr "OUT_FAIL_ACT") 2 }
      CanOutput.CanFunctionParams params :=
    ⟨rfl, fun c => Or.inl (getD_replicate 8 c none), Param.construct_name _ _ _,
      Param.construct_coherent _ _ _⟩
  obtain ⟨handles, functions, hframe⟩ := updateParamsImpl_frame params
    { functionParamNames := some CanOutput.CanFunctionParams, maxOutputs := CanOutput.ChannelCount
      paramFailAction := Param.construct params (cstr "OUT_FAIL_ACT") 2 }
  refine ⟨(updateParamsImpl_spec hfresh (show 4 ≤ 8 by decide)).1, ?_⟩
  show (updateParamsImpl params _).2.maxOutputs = _
  exact congrArg MixingOutput.maxOutputs hframe

/-- What a reload refreshes are handles, functions and the failure action. -/
theorem Wired.reload {shape params : ParamTable} {t : CanTask} (h : t.Wired shape)
    (hshape : shape.SameShape params) : (t.reload params).Wired shape := by
  obtain ⟨hcoherent, hmax⟩ := h.sameShape hshape
  have hbound : t.mixingOutput.maxOutputs ≤ 8 := by
    rw [hmax]
    decide
  obtain ⟨hnext, -, -⟩ := updateParams_spec hcoherent hbound
  have hmixing : (t.reload params).mixingOutput = (t.mixingOutput.updateParams params).2 := rfl
  obtain ⟨failAction, handles, functions, hframe⟩ := updateParams_frame params t.mixingOutput
  have hwired : (t.reload params).Wired params := by
    refine ⟨?_, ?_⟩
    · rw [hmixing]
      exact hnext
    · rw [hmixing, hframe]
      exact hmax
  exact hwired.sameShape hshape.symm

theorem Wired.update {shape : ParamTable} {t : CanTask} (h : t.Wired shape) (clock arg : UInt64)
    (bus : Topics) : (t.update clock arg bus).Wired shape := by
  obtain ⟨since, stopped, lastOutput, hframe⟩ :=
    (MixingOutput.update_effect clock arg bus t.mixingOutput t.driver).frame
  replace hframe : (t.update clock arg bus).mixingOutput = _ := hframe
  refine ⟨?_, ?_⟩
  · rw [hframe]
    exact ⟨h.coherent.functionParamNames, h.coherent.handles, h.coherent.failName,
      h.coherent.failAction⟩
  · rw [hframe]
    exact h.maxOutputs

theorem Wired.congr {shape : ParamTable} {t t' : CanTask} (h : t.Wired shape)
    (hmixing : t'.mixingOutput = t.mixingOutput) : t'.Wired shape := by
  refine ⟨?_, ?_⟩
  · rw [hmixing]
    exact h.coherent
  · rw [hmixing]
    exact h.maxOutputs

theorem Wired.pollParameters {shape : ParamTable} {t : CanTask} (h : t.Wired shape) {turn : Turn}
    (hshape : shape.SameShape turn.params) : (t.pollParameters turn).Wired shape := by
  unfold CanTask.pollParameters
  dsimp only
  split
  · split
    · exact Wired.reload (h.congr rfl) hshape
    · exact h.congr rfl
  · exact h.congr rfl

theorem Wired.retryReload {shape : ParamTable} {t : CanTask} (h : t.Wired shape) {turn : Turn}
    (hshape : shape.SameShape turn.retryParams) : (t.retryReload turn).Wired shape := by
  unfold CanTask.retryReload
  dsimp only
  split
  · exact h
  · split
    · exact Wired.congr (Wired.reload (h.congr rfl) hshape) rfl
    · exact h.congr rfl

theorem Wired.lifeStep {shape : ParamTable} {t : CanTask} (h : t.Wired shape) {a : LifeStep}
    (hshape : ∀ params ∈ a.tables, shape.SameShape params) : (t.lifeStep a).Wired shape := by
  cases a with
  | reload params => exact h.reload (hshape params (by simp [LifeStep.tables]))
  | opened canFd => exact h.congr rfl
  | event e =>
      have hset : Wired shape { t with
          driver := { t.driver with writes := e.writes, commands := e.commands } } := h.congr rfl
      show (t.next e).Wired shape
      unfold CanTask.next
      dsimp only
      split
      · exact hset.update _ _ _
      · rename_i turn hturn
        have hpolled := hset.pollParameters (hshape turn.params (by simp [LifeStep.tables, hturn]))
        have hretried := hpolled.retryReload (hshape turn.retryParams (by simp [LifeStep.tables, hturn]))
        exact hretried.update _ _ _
      · exact hset.congr rfl

/-- The run lemma. -/
theorem reachable_wired {shape : ParamTable} {t : CanTask} (h : (lives shape).Reachable t) :
    t.Wired shape := by
  refine h.invariant (fun t => t.Wired shape) ?_ ?_
  · rintro t ⟨params, hshape, rfl⟩
    exact (constructed_wired params).sameShape hshape.symm
  · rintro t a t' - hwired ⟨htables, rfl⟩
    exact hwired.lifeStep htables

/-- At every point of every run a reload tests the ids and functions as integers exactly when its table
is refused anyway or sixteen bits hold all twelve of them. -/
theorem reload_checks_iff {shape params : ParamTable} {t : CanTask}
    (h : (lives shape).Reachable t) (hshape : shape.SameShape params) :
    ReloadChecks params t ↔ (AcceptedNarrowed params → FitsSixteenBits params) :=
  reload_checks_wired ((reachable_wired h).sameShape hshape)

/-! The parameters as shipped, and the same table with one other value. -/

instance (params : ParamTable) : Decidable (FitsSixteenBits params) :=
  decidable_of_iff (∀ name ∈ narrowedParams, (params.lookupInt name).all (fun value =>
    decide (0 ≤ value.toInt ∧ value.toInt ≤ 0xffff)) = true)
    (by simp only [FitsSixteenBits, Option.all_eq_true, decide_eq_true_iff])

theorem shippedTask_lives : (lives shippedParams).Reachable shippedTask :=
  start_lives (Option.some_get start_shipped_isSome).symm (.refl _) (.refl _)

theorem reload_checks_shipped : ReloadChecks shippedParams shippedTask := by
  have hfits : FitsSixteenBits shippedParams := by decide +kernel
  exact (reload_checks_iff shippedTask_lives (.refl _)).mpr fun _ => hfits

/-- The shipped table after an integer parameter was set. -/
def shippedWith (handle : UInt16) (value : Int32) : ParamTable :=
  (({ table := shippedParams } : ParamManager).setInt handle value 1000).1.table

/-- `CAN_M0_ID`, parameter 4, is set to 65537 and accepted. -/
theorem wrapped_id_accepted : ∃ t, (lives shippedParams).Reachable t ∧
    ¬ ReloadChecks (shippedWith 4 65537) t := by
  refine ⟨shippedTask, shippedTask_lives, fun hchecks => ?_⟩
  have haccepted : (shippedTask.updateParams (shippedWith 4 65537)).1 = true := by
    decide +kernel
  have hwrapped : (shippedWith 4 65537).lookupInt (paramName .Motor 0 "ID") =
      some 65537 := by
    decide +kernel
  obtain ⟨id, _, _, _, offset, hid, -, -, -, -, ⟨-, hrange⟩, -⟩ := hchecks haccepted .Motor 0 (by decide)
  obtain rfl := Option.some_inj.mp (hid.symm.trans hwrapped)
  have hid : (65537 : Int32).toInt = 65537 := by decide
  omega

end CanTask

end DualMagneticWheel
