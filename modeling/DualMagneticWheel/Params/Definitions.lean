/-
# DualMagneticWheel.Params.Definitions — the parameters of the firmware

The table that `buildParamDefinitions` registers, and the manager as constructed. The table is
well-formed: it fits, its names are distinct, and every name fits into a stored record.
-/
import DualMagneticWheel.Params.Manager

namespace DualMagneticWheel

namespace ParamManager

/-- `snprintf(name, sizeof(name), "<front>%u<suffix>", number)`. -/
def numbered (front : String) (number : Nat) (suffix : String) : CString :=
  cstr front ++ decimal number ++ cstr suffix

/-- The calibration parameters of receiver channel `channel`. -/
def addCalibration (m : ParamManager) (channel : Nat) : ParamManager :=
  let m := m.addFloat (numbered "RC" channel "_MIN") 1000
  let m := m.addFloat (numbered "RC" channel "_MAX") 2000
  let m := m.addFloat (numbered "RC" channel "_TRIM") 1500
  let m := m.addFloat (numbered "RC" channel "_DZ") 20
  m.addFloat (numbered "RC" channel "_REV") 1

/-- The parameters of drive motor `index`. -/
def addMotor (m : ParamManager) (index : Nat) : ParamManager :=
  let m := m.addInt (numbered "CAN_M" index "_FUNC") (Int32.ofNat (101 + index))
  let m := m.addInt (numbered "CAN_M" index "_PROTO") 1
  let m := m.addInt (numbered "CAN_M" index "_TYPE") 2
  let m := m.addInt (numbered "CAN_M" index "_ID") (Int32.ofNat (index + 1))
  let m := m.addInt (numbered "CAN_M" index "_FBID") 0
  let m := m.addInt (numbered "CAN_M" index "_MODE") 3
  let m := m.addFloat (numbered "CAN_M" index "_REV") 1
  let m := m.addFloat (numbered "CAN_M" index "_PMAX") 12.5
  let m := m.addFloat (numbered "CAN_M" index "_VMAX") 30
  m.addFloat (numbered "CAN_M" index "_TMAX") 10

/-- The parameters of steering motor `index`. -/
def addSteering (m : ParamManager) (index : Nat) : ParamManager :=
  let m := m.addInt (numbered "CAN_S" index "_FUNC") (Int32.ofNat (201 + index))
  let m := m.addInt (numbered "CAN_S" index "_PROTO") 1
  let m := m.addInt (numbered "CAN_S" index "_TYPE") 1
  let m := m.addInt (numbered "CAN_S" index "_ID") (Int32.ofNat (index + 3))
  let m := m.addInt (numbered "CAN_S" index "_FBID") 0
  let m := m.addInt (numbered "CAN_S" index "_MODE") 2
  let m := m.addFloat (numbered "CAN_S" index "_REV") 1
  let m := m.addFloat (numbered "CAN_S" index "_PMIN") (-1)
  let m := m.addFloat (numbered "CAN_S" index "_PMAX") 1
  let m := m.addFloat (numbered "CAN_S" index "_PFBMAX") 12.5
  let m := m.addFloat (numbered "CAN_S" index "_VMAX") 5
  m.addFloat (numbered "CAN_S" index "_TMAX") 10

/-- `buildParamDefinitions`. -/
def buildParamDefinitions (m : ParamManager) : ParamManager :=
  let m := (List.range 16).foldl (fun m channel => m.addCalibration (channel + 1)) m
  let m := m.addInt (cstr "RC_MAP_THROTTLE") 3
  let m := m.addInt (cstr "RC_MAP_ROLL") 1
  let m := m.addInt (cstr "RC_MAP_PITCH") 2
  let m := m.addInt (cstr "RC_MAP_YAW") 4
  let m := (List.range 12).foldl
    (fun m index => m.addInt (numbered "RC_MAP_SW" (index + 1) "") (Int32.ofNat (index + 1 + 4))) m
  let m := m.addInt (cstr "RC_CHAN_CNT") 16
  let m := m.addInt (cstr "SYS_AUTOSTART") 1
  let m := m.addInt (cstr "CA_AIRFRAME") 1
  let m := m.addFloat (cstr "CA_THR_F") 1
  let m := m.addFloat (cstr "CA_THR_R") 1
  let m := m.addFloat (cstr "CA_YAW_F") 1
  let m := m.addFloat (cstr "CA_YAW_R") 0
  let m := m.addInt (cstr "CA_ARM_SW") 1
  let m := m.addFloat (cstr "FS_RC_TMO") 0.5
  let m := m.addInt (cstr "FS_MOT_ACT") 1
  let m := m.addFloat (cstr "FS_MOT_VAL") 0
  let m := m.addInt (cstr "FS_STR_ACT") 0
  let m := m.addFloat (cstr "FS_STR_VAL") 0
  let m := m.addInt (cstr "OUT_FAIL_ACT") 2
  let m := (List.range 2).foldl addMotor m
  (List.range 2).foldl addSteering m

/-- The constructor. -/
def construct : ParamManager := buildParamDefinitions {}

/-- A manager that only holds its definitions. -/
structure Fresh (m : ParamManager) : Prop where
  table : WellFormed m.table
  values : defaults m.table = m.table
  initialized : m.initialized = false
  clean : m.dirty = false

/-- A name as a number, which is quicker to compare. -/
def code (name : CString) : Nat := name.foldl (fun n byte => 256 * n + byte.toNat) 0

theorem defaults_eq {table : ParamTable} (h : ∀ entry ∈ table, entry.value = entry.defaultValue) :
    defaults table = table := by
  calc defaults table = table.map id := by
        apply List.map_congr_left
        intro entry hmem
        obtain ⟨name, type, defaultValue, value⟩ := entry
        obtain rfl : value = defaultValue := h _ hmem
        rfl
    _ = table := List.map_id table

theorem construct_fresh : construct.Fresh where
  table :=
    { short := by decide +kernel
      names := by
        have hcodes : ((construct.table.map ParamEntry.name).map code).Nodup := by decide +kernel
        exact hcodes.of_map
      fits := by decide +kernel }
  values := defaults_eq (by decide +kernel)
  initialized := by decide +kernel
  clean := by decide +kernel

end ParamManager

end DualMagneticWheel
