/-
# DualMagneticWheel.Runtime.Initialization — who decides that the robot has started

The loop of `RobotRuntime` and any number of shells running `robot ready` look at the seven required
modules one after another and then write two flags, `_initializationComplete` and
`_initializationFailed`, without a lock; `robot status` loads one after the other. Every access to shared
data is a step of its own, a thread being a program counter (`Pc`); the modules start and stop whenever
they like.

What the threads do is in a log, and what may be written there is a discipline (`Permits`): a thread only
completes the initialization after it saw every module running, only fails it after it saw one missing,
and the texts go with what happened. `Consistent` carries it through every interleaving.
-/
import DualMagneticWheel.Foundation.EventLog
import DualMagneticWheel.Foundation.Transition

namespace DualMagneticWheel

open Foundation

/-! ## The required modules -/

/-- The modules of the start-up chain. -/
inductive RequiredModule where
  | RcUpdate
  | SbusInput
  | Failsafe
  | RobotControl
  | ControlAllocator
  | CanOutput
  | Command
  deriving DecidableEq, Repr

namespace RequiredModule

/-- The order of the checks in `requiredModulesRunning`. -/
def checks : List RequiredModule :=
  [.RcUpdate, .SbusInput, .Failsafe, .RobotControl, .ControlAllocator, .CanOutput, .Command]

theorem mem_checks (m : RequiredModule) : m ∈ checks := by cases m <;> decide

end RequiredModule

/-- What `print_status` says about the initialization. -/
inductive InitializationStatus where
  | complete
  | failed
  | inProgress
  deriving DecidableEq

/-- The choice from the two values loaded. -/
def InitializationStatus.ofLoads (complete failed : Bool) : InitializationStatus :=
  if complete then .complete else if failed then .failed else .inProgress

/-- What is printed: a missing module, the advice after a failed `robot ready`, the completion, the two
notices of the loop, and the status. -/
inductive Notice where
  | missing (m : RequiredModule)
  | startMissing
  | complete
  | failed
  | starting
  | initialization (status : InitializationStatus)
  deriving DecidableEq

/-! ## Threads -/

/-- The loop of the runtime task and the shells that run `robot ready` and `robot status`. -/
inductive Caller where
  | loop
  | shell (index : Nat)
  deriving DecidableEq

/-- The next access to shared data of a thread. -/
inductive Pc where
  /-- Asleep, or at the prompt. -/
  | idle
  /-- `requiredModulesRunning`, with the modules that are left and the value of `ready`. -/
  | checking (report : Bool) (left : List RequiredModule) (ready : Bool)
  /-- `markInitializationComplete`: the store, the exchange, the text. -/
  | clearing
  | exchanging
  | announcing
  /-- `markInitializationFailed`: the two stores. -/
  | lowering
  | raising
  /-- The text after a failed `robot ready`. -/
  | advising
  /-- The loop: the first load, the second condition, the last two conditions. -/
  | loading
  | judging
  | noticing
  | wording
  /-- `print_status`: the first load, and the second with the value of the first. -/
  | reporting
  | reported (complete : Bool)
  deriving DecidableEq

/-- What is written down. -/
inductive RuntimeEvent where
  | turned (now : UInt64)
  | began (who : Caller)
  | saw (who : Caller) (m : RequiredModule) (running : Bool)
  | cleared (who : Caller)
  | completed (who : Caller) (rose : Bool)
  | lowered (who : Caller)
  | raised (who : Caller)
  | printed (who : Caller) (notice : Notice)
  | loaded (who : Caller) (complete : Bool)
  | noticed (now : UInt64)
  deriving DecidableEq

/-- The fields of class `RobotRuntime`, the modules, the threads, the local `now` of the loop, and the log
(newest first). -/
structure RuntimeState where
  initializationComplete : Bool := false
  initializationFailed : Bool := false
  lastInitializationNotice : UInt64 := 0
  initializationStartedAt : UInt64 := 0
  running : RequiredModule → Bool := fun _ => false
  pc : Caller → Pc := fun _ => .idle
  now : UInt64 := 0
  log : List RuntimeEvent := []

namespace RuntimeState

def InitializationNoticeIntervalUs : UInt64 := 2000000
def InitializationFailureTimeoutUs : UInt64 := 5000000

/-- A thread goes on with its next access. -/
def goto (who : Caller) (pc : Pc) (s : RuntimeState) : RuntimeState :=
  { s with pc := fun other => if other = who then pc else s.pc other }

def record (e : RuntimeEvent) (s : RuntimeState) : RuntimeState := { s with log := e :: s.log }

/-- `requiredModulesRunning` is called. -/
def startCheck (who : Caller) (report : Bool) (s : RuntimeState) : RuntimeState :=
  (s.record (.began who)).goto who (.checking report RequiredModule.checks true)

/-- What follows the check, in the loop and in `custom_command`. -/
def afterCheck : Caller → Bool → Bool → Pc
  | .loop, false, true => .clearing
  | .loop, false, false => .judging
  | .loop, true, _ => .lowering
  | .shell _, _, true => .clearing
  | .shell _, _, false => .lowering

/-- What follows the mark functions. -/
def afterComplete : Caller → Pc
  | .loop => .noticing
  | .shell _ => .idle

def afterFailed : Caller → Pc
  | .loop => .noticing
  | .shell _ => .advising

/-- One module is looked at. -/
def look (who : Caller) (report : Bool) (m : RequiredModule) (left : List RequiredModule) (ready : Bool)
    (s : RuntimeState) : RuntimeState :=
  if s.running m then (s.record (.saw who m true)).goto who (.checking report left ready)
  else
    let s := s.record (.saw who m false)
    let s := if report then s.record (.printed who (.missing m)) else s
    s.goto who (.checking report left false)

/-- The next access of a thread. -/
def advance (who : Caller) (s : RuntimeState) : RuntimeState :=
  match s.pc who with
  | .idle => s
  | .checking report (m :: left) ready => s.look who report m left ready
  | .checking report [] ready => s.goto who (afterCheck who report ready)
  | .clearing =>
      ({ s with initializationFailed := false }.record (.cleared who)).goto who .exchanging
  | .exchanging =>
      let wasComplete := s.initializationComplete
      let s := { s with initializationComplete := true }.record (.completed who !wasComplete)
      s.goto who (if wasComplete then afterComplete who else .announcing)
  | .announcing => (s.record (.printed who .complete)).goto who (afterComplete who)
  | .lowering =>
      ({ s with initializationComplete := false }.record (.lowered who)).goto who .raising
  | .raising =>
      ({ s with initializationFailed := true }.record (.raised who)).goto who (afterFailed who)
  | .advising => (s.record (.printed who .startMissing)).goto who .idle
  | .loading =>
      if s.initializationComplete then s.goto who .noticing else s.startCheck who false
  | .judging =>
      if !s.initializationFailed &&
          decide (InitializationFailureTimeoutUs ≤ s.now - s.initializationStartedAt) then
        s.startCheck who true
      else s.goto who .noticing
  | .noticing =>
      if !s.initializationComplete && (s.lastInitializationNotice == 0 ||
          decide (InitializationNoticeIntervalUs ≤ s.now - s.lastInitializationNotice)) then
        s.goto who .wording
      else s.goto who .idle
  | .wording =>
      let s := s.record (.printed who (if s.initializationFailed then .failed else .starting))
      ({ s with lastInitializationNotice := s.now }.record (.noticed s.now)).goto who .idle
  | .reporting =>
      (s.record (.loaded who s.initializationComplete)).goto who (.reported s.initializationComplete)
  | .reported complete =>
      (s.record (.printed who (.initialization (.ofLoads complete s.initializationFailed)))).goto who .idle

/-- What can happen next. -/
inductive Step where
  /-- A module starts or stops. -/
  | world (m : RequiredModule) (running : Bool)
  /-- The loop wakes up. -/
  | turn (now : UInt64)
  /-- A shell enters `robot ready`. -/
  | ready (index : Nat)
  /-- A shell enters `robot status`. -/
  | status (index : Nat)
  | advance (who : Caller)

/-- The loop and a shell do one thing at a time. -/
def Enabled (s : RuntimeState) : Step → Prop
  | .world _ _ => True
  | .turn _ => s.pc .loop = .idle
  | .ready index => s.pc (.shell index) = .idle
  | .status index => s.pc (.shell index) = .idle
  | .advance who => s.pc who ≠ .idle

def next (s : RuntimeState) : Step → RuntimeState
  | .world m running => { s with running := fun other => if other = m then running else s.running other }
  | .turn now =>
      let initializationStartedAt := if s.initializationStartedAt = 0 then now else s.initializationStartedAt
      ({ s with now, initializationStartedAt }.record (.turned now)).goto .loop .loading
  | .ready index => s.startCheck (.shell index) true
  | .status index => s.goto (.shell index) .reporting
  | .advance who => s.advance who

/-- All interleavings. -/
def system : Transition RuntimeState Step :=
  (Transition.ofFun (fun s => ∃ running, s = { running }) next).restrict Enabled

end RuntimeState

end DualMagneticWheel
