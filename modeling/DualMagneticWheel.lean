import DualMagneticWheel.Common.Lifecycle
import DualMagneticWheel.Common.ModuleBase
import DualMagneticWheel.Control.Allocation
import DualMagneticWheel.Control.AllocationContract
import DualMagneticWheel.Control.ArmSafety
import DualMagneticWheel.Foundation.Binary32
import DualMagneticWheel.Foundation.Bits
import DualMagneticWheel.Foundation.Bytes
import DualMagneticWheel.Foundation.EventLog
import DualMagneticWheel.Foundation.Forest
import DualMagneticWheel.Foundation.Framing
import DualMagneticWheel.Foundation.IntrusiveList
import DualMagneticWheel.Foundation.Keyed
import DualMagneticWheel.Foundation.Loop
import DualMagneticWheel.Foundation.Numeral
import DualMagneticWheel.Foundation.Ramp
import DualMagneticWheel.Foundation.Scalar
import DualMagneticWheel.Foundation.Scanner
import DualMagneticWheel.Foundation.Script
import DualMagneticWheel.Foundation.Stamp
import DualMagneticWheel.Foundation.Transition
import DualMagneticWheel.Foundation.UnitScale
import DualMagneticWheel.Modules.ArmingInterlock
import DualMagneticWheel.Modules.Command
import DualMagneticWheel.Modules.ControlAllocator
import DualMagneticWheel.Modules.Failsafe
import DualMagneticWheel.Modules.RobotControl
import DualMagneticWheel.Msg
import DualMagneticWheel.Orb.CallbackTable
import DualMagneticWheel.Orb.Topic
import DualMagneticWheel.Orb.TopicHistory
import DualMagneticWheel.Output.CanOutput
import DualMagneticWheel.Output.CanPasses
import DualMagneticWheel.Output.CanReports
import DualMagneticWheel.Output.CanRuns
import DualMagneticWheel.Output.CanStatus
import DualMagneticWheel.Output.CooperativeStop
import DualMagneticWheel.Output.Drivable
import DualMagneticWheel.Output.FaultEscalation
import DualMagneticWheel.Output.MixingOutput
import DualMagneticWheel.Output.MotorDiscipline
import DualMagneticWheel.Output.NarrowedParams
import DualMagneticWheel.Output.SafetyGate
import DualMagneticWheel.Output.SetPoints
import DualMagneticWheel.Params.BootScript
import DualMagneticWheel.Params.Caches
import DualMagneticWheel.Params.Definitions
import DualMagneticWheel.Params.Flash
import DualMagneticWheel.Params.FlashSafety
import DualMagneticWheel.Params.Manager
import DualMagneticWheel.Params.Migration
import DualMagneticWheel.Params.ModuleParams
import DualMagneticWheel.Params.Notifications
import DualMagneticWheel.Params.ParamCommand
import DualMagneticWheel.Params.ParamSessions
import DualMagneticWheel.Params.Persistence
import DualMagneticWheel.Params.Profile
import DualMagneticWheel.Params.Startup
import DualMagneticWheel.Params.Table
import DualMagneticWheel.Params.UpdateParams
import DualMagneticWheel.Protocol.ControlFrames
import DualMagneticWheel.Protocol.Damiao
import DualMagneticWheel.Protocol.Feedback
import DualMagneticWheel.Rc.BackedSticks
import DualMagneticWheel.Rc.Conversions
import DualMagneticWheel.Rc.Normalisation
import DualMagneticWheel.Rc.RcConfig
import DualMagneticWheel.Rc.RcUpdate
import DualMagneticWheel.Rc.Sbus
import DualMagneticWheel.Rc.SbusCodec
import DualMagneticWheel.Rc.SbusInput
import DualMagneticWheel.Rc.SbusScan
import DualMagneticWheel.Rc.SbusSync
import DualMagneticWheel.Rc.ThreeFrames
import DualMagneticWheel.Runtime.Announcements
import DualMagneticWheel.Runtime.CallbackLock
import DualMagneticWheel.Runtime.Delivery
import DualMagneticWheel.Runtime.Generations
import DualMagneticWheel.Runtime.Initialization
import DualMagneticWheel.Runtime.ObjectLifetime
import DualMagneticWheel.Runtime.QueuedModules
import DualMagneticWheel.Runtime.RobotModules
import DualMagneticWheel.Runtime.SignOff
import DualMagneticWheel.Runtime.StartupLoop
import DualMagneticWheel.Runtime.StepFrames
import DualMagneticWheel.System.LinkFlicker
import DualMagneticWheel.System.Pipeline
import DualMagneticWheel.System.Release
import DualMagneticWheel.System.RemoteControl
import DualMagneticWheel.WorkQueue.ExecutionSafety
import DualMagneticWheel.WorkQueue.NoStarvation
import DualMagneticWheel.WorkQueue.Queue
import DualMagneticWheel.WorkQueue.QueueSystem
import DualMagneticWheel.WorkQueue.Shutdown
import DualMagneticWheel.WorkQueue.TimingContract
