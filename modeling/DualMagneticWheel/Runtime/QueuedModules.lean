/-
# DualMagneticWheel.Runtime.QueuedModules — modules on shared work queues, their topics and their shells

A module on a work queue has no task of its own: a publication requests its work item, the worker of its
queue calls `Run`, and shells start and stop it. Four kinds of locks are involved, the module mutex of
`ModuleBase`, the mutex of a queue, and for each topic the data lock and the lock of the callback slots.
No step holds all of them, so one step here is one critical section, and the stages in between are part
of the state.

A publisher is a thread outside of the queued modules, the worker of a queue inside `Run`, or the shell
that stops a module. Which module uses which topics and queue is the `Wiring`; what a `Run` computes is
left open, since only the order of its accesses to the topics matters here.
-/
import DualMagneticWheel.Foundation.Transition
import DualMagneticWheel.Orb.CallbackTable
import DualMagneticWheel.Orb.Topic
import DualMagneticWheel.WorkQueue.QueueSystem

namespace DualMagneticWheel

open Foundation

/-! ## What the modules bring along -/

/-- One access of `Run` to a topic. -/
inductive RunOp (TopicId : Type) where
  | update (topic : TopicId)
  | publish (topic : TopicId)
  deriving DecidableEq

/-- What the modules hand to `WorkQueueModuleBase`, with the discipline that only the owner of a topic
publishes on it. -/
structure Wiring (Node QueueId : Type) {TopicId : Type} (Message : TopicId → Type) where
  queue : Node → QueueId
  periodUs : Node → UInt64
  /-- The topics in the order of `initWorkQueue` and of `unregisterCallbacks`. -/
  callbacks : Node → List TopicId
  run : Node → List (RunOp TopicId)
  /-- The messages of `onWorkQueueStopped` with its clock reading. -/
  onWorkQueueStopped : Node → UInt64 → List (Sigma Message)
  /-- The module that publishes on a topic; `none` for the threads outside. -/
  owner : TopicId → Option Node
  /-- The value-initialised message. -/
  blank : (τ : TopicId) → Message τ
  callbacks_nodup : ∀ m, (callbacks m).Nodup
  update_callbacks : ∀ m, ∀ τ ∈ callbacks m, RunOp.update τ ∈ run m
  publish_owner : ∀ m τ, RunOp.publish τ ∈ run m → owner τ = some m
  stopped_owner : ∀ m now, ∀ p ∈ onWorkQueueStopped m now, owner p.1 = some m
  stopped_nodup : ∀ m now, ((onWorkQueueStopped m now).map Sigma.fst).Nodup
  stopped_covers : ∀ m now τ, owner τ = some m → τ ∈ (onWorkQueueStopped m now).map Sigma.fst

/-! ## The state -/

/-- The objects of a module are numbered in the order of their construction. -/
structure ModuleObject (Node : Type) where
  node : Node
  serial : Nat
  deriving DecidableEq

/-- Who publishes: a thread outside, the worker of a queue, or the shell that stops a module. -/
inductive Publisher (Node QueueId Thread : Type) where
  | thread (thread : Thread)
  | worker (q : QueueId)
  | shell (m : Node)
  deriving DecidableEq

/-- Where a publisher stands in `Topic::publish`. From `looping` on it holds the lock of the slots;
`calling` has read the pointer in a slot and goes to call it. -/
inductive PublishStage (Node TopicId : Type) where
  | idle
  | stored (topic : TopicId)
  | looping (topic : TopicId) (slot : Nat)
  | calling (topic : TopicId) (slot : Nat) (target : ModuleObject Node)
  deriving DecidableEq

/-- A topic with its callback slots. `published` counts the publications since the program began, which
the code does not. -/
structure Channel (Node QueueId Thread Message : Type) where
  topic : Topic Message
  published : Nat := 0
  callbacks : CallbackTable (ModuleObject Node) := CallbackTable.empty
  /-- The holder of `_callbackMutex`. -/
  lock : Option (Publisher Node QueueId Thread) := none

/-- Where the life of a module stands between its critical sections. The flag of a teardown is set when
it belongs to a start that failed. -/
inductive QueuedStage (TopicId : Type) where
  | absent
  | constructed
  | queueStarted
  | registering (rest : List TopicId)
  | published
  | activated
  | running
  | unregistering (starting : Bool) (rest : List TopicId)
  | waiting (starting : Bool) (deadline : UInt64)
  | silent
  | signingOff (now : UInt64) (index : Nat)
  | retained
  deriving DecidableEq

namespace QueuedStage

variable {TopicId : Type}

/-- A start is in progress; it keeps the module mutex all the time. -/
def isStarting : QueuedStage TopicId → Bool
  | .constructed | .queueStarted | .registering _ | .published | .activated | .unregistering true _
  | .waiting true _ => true
  | _ => false

/-- `_stopInProgress`. -/
def stopInProgress : QueuedStage TopicId → Bool
  | .unregistering false _ | .waiting false _ | .silent | .signingOff _ _ => true
  | _ => false

/-- `ModuleBase::is_running`. -/
def isRunning : QueuedStage TopicId → Bool
  | .published | .activated | .running | .retained => true
  | stage => stage.stopInProgress

end QueuedStage

/-- The static members of a module and its current object, with the message it has taken last from each
topic. `seen` is the count of publications at the last read of a topic, which the code does not keep.
`stopReturned` is set when a stop returns 0, until the next object is constructed, `stopped` when a stop
has deleted an object. -/
structure QueuedModule {TopicId : Type} (Message : TopicId → Type) where
  stage : QueuedStage TopicId := .absent
  serial : Nat := 0
  registered : TopicId → Bool := fun _ => false
  subscription : TopicId → Subscription := fun _ => {}
  received : (τ : TopicId) → Message τ
  seen : TopicId → Nat := fun _ => 0
  stopReturned : Bool := false
  stopped : Bool := false

/-- All topics, publishers, queues and modules. `remaining` is what the worker of a queue has still to do
in the `Run` it executes. -/
structure Runtime (Node QueueId Thread : Type) {TopicId : Type} (Message : TopicId → Type) where
  channel : (τ : TopicId) → Channel Node QueueId Thread (Message τ)
  publisher : Publisher Node QueueId Thread → PublishStage Node TopicId := fun _ => .idle
  queue : QueueId → WorkQueue (ModuleObject Node) := fun _ => {}
  remaining : QueueId → List (RunOp TopicId) := fun _ => []
  life : Node → QueuedModule Message

/-- The critical sections, with the clock readings made in them. A label names the values it works on;
`initQueue` is one call of `robot_wq::Initialize`. -/
inductive RuntimeAction (Node QueueId Thread : Type) {TopicId : Type} (Message : TopicId → Type) where
  | publish (thread : Thread) (τ : TopicId) (message : Message τ)
  | lockCallbacks (p : Publisher Node QueueId Thread) (τ : TopicId)
  | visit (p : Publisher Node QueueId Thread) (τ : TopicId) (slot : Nat)
  | call (p : Publisher Node QueueId Thread) (τ : TopicId) (slot : Nat) (o : ModuleObject Node)
      (now : UInt64)
  | unlockCallbacks (p : Publisher Node QueueId Thread) (τ : TopicId) (slot : Nat)
  | initQueue (q : QueueId) (spawned : Bool)
  | scan (q : QueueId) (now : UInt64)
  | wake (q : QueueId)
  | update (q : QueueId) (o : ModuleObject Node) (τ : TopicId) (rest : List (RunOp TopicId))
  | runPublish (q : QueueId) (o : ModuleObject Node) (τ : TopicId) (rest : List (RunOp TopicId))
      (message : Message τ)
  | skip (q : QueueId) (o : ModuleObject Node) (τ : TopicId) (rest : List (RunOp TopicId))
  | finish (q : QueueId) (o : ModuleObject Node)
  | start (m : Node) (instantiated : Bool)
  | startQueue (m : Node) (spawned : Bool)
  | attach (m : Node)
  | register (m : Node) (τ : TopicId) (rest : List TopicId)
  | publishObject (m : Node)
  | scheduleOnInterval (m : Node) (now : UInt64)
  | scheduleNow (m : Node) (now : UInt64)
  | stop (m : Node)
  | unregister (m : Node) (starting : Bool) (τ : TopicId) (rest : List TopicId)
  | detach (m : Node) (starting : Bool) (now now' : UInt64)
  | test (m : Node) (starting : Bool) (deadline now : UInt64)
  | halt (m : Node) (now : UInt64)
  | signOff (m : Node) (now : UInt64) (index : Nat)
  | delete (m : Node) (now : UInt64) (index : Nat)

namespace Runtime

variable {Node QueueId Thread TopicId : Type} {Message : TopicId → Type}
variable [DecidableEq Node] [DecidableEq QueueId] [DecidableEq Thread] [DecidableEq TopicId]

/-! ## Writing one component -/

def modifyChannel (τ : TopicId)
    (f : Channel Node QueueId Thread (Message τ) → Channel Node QueueId Thread (Message τ))
    (s : Runtime Node QueueId Thread Message) : Runtime Node QueueId Thread Message :=
  { s with channel := Function.update s.channel τ (f (s.channel τ)) }

def setPublisher (p : Publisher Node QueueId Thread) (stage : PublishStage Node TopicId)
    (s : Runtime Node QueueId Thread Message) : Runtime Node QueueId Thread Message :=
  { s with publisher := Function.update s.publisher p stage }

def modifyQueue (q : QueueId)
    (f : WorkQueue (ModuleObject Node) → WorkQueue (ModuleObject Node))
    (s : Runtime Node QueueId Thread Message) : Runtime Node QueueId Thread Message :=
  { s with queue := Function.update s.queue q (f (s.queue q)) }

def setRemaining (q : QueueId) (ops : List (RunOp TopicId))
    (s : Runtime Node QueueId Thread Message) : Runtime Node QueueId Thread Message :=
  { s with remaining := Function.update s.remaining q ops }

def modifyLife (m : Node) (f : QueuedModule Message → QueuedModule Message)
    (s : Runtime Node QueueId Thread Message) : Runtime Node QueueId Thread Message :=
  { s with life := Function.update s.life m (f (s.life m)) }

def setStage (m : Node) (stage : QueuedStage TopicId) (s : Runtime Node QueueId Thread Message) :
    Runtime Node QueueId Thread Message :=
  s.modifyLife m ({ · with stage })

section Components

variable (s : Runtime Node QueueId Thread Message)

omit [DecidableEq Node] [DecidableEq QueueId] [DecidableEq Thread] in
@[simp] theorem modifyChannel_self (τ : TopicId)
    (f : Channel Node QueueId Thread (Message τ) → Channel Node QueueId Thread (Message τ)) :
    (s.modifyChannel τ f).channel τ = f (s.channel τ) := Function.update_self ..

omit [DecidableEq Node] [DecidableEq QueueId] [DecidableEq Thread] in
theorem modifyChannel_of_ne {τ τ' : TopicId} (h : τ' ≠ τ)
    (f : Channel Node QueueId Thread (Message τ) → Channel Node QueueId Thread (Message τ)) :
    (s.modifyChannel τ f).channel τ' = s.channel τ' := Function.update_of_ne h ..

omit [DecidableEq TopicId] in
@[simp] theorem setPublisher_self (p : Publisher Node QueueId Thread)
    (stage : PublishStage Node TopicId) : (s.setPublisher p stage).publisher p = stage :=
  Function.update_self ..

omit [DecidableEq TopicId] in
theorem setPublisher_of_ne {p p' : Publisher Node QueueId Thread} (h : p' ≠ p)
    (stage : PublishStage Node TopicId) : (s.setPublisher p stage).publisher p' = s.publisher p' :=
  Function.update_of_ne h ..

omit [DecidableEq Node] [DecidableEq Thread] [DecidableEq TopicId] in
@[simp] theorem modifyQueue_self (q : QueueId)
    (f : WorkQueue (ModuleObject Node) → WorkQueue (ModuleObject Node)) :
    (s.modifyQueue q f).queue q = f (s.queue q) := Function.update_self ..

omit [DecidableEq Node] [DecidableEq Thread] [DecidableEq TopicId] in
theorem modifyQueue_of_ne {q q' : QueueId} (h : q' ≠ q)
    (f : WorkQueue (ModuleObject Node) → WorkQueue (ModuleObject Node)) :
    (s.modifyQueue q f).queue q' = s.queue q' := Function.update_of_ne h ..

omit [DecidableEq QueueId] [DecidableEq Thread] [DecidableEq TopicId] in
@[simp] theorem modifyLife_self (m : Node) (f : QueuedModule Message → QueuedModule Message) :
    (s.modifyLife m f).life m = f (s.life m) := Function.update_self ..

omit [DecidableEq QueueId] [DecidableEq Thread] [DecidableEq TopicId] in
theorem modifyLife_of_ne {m m' : Node} (h : m' ≠ m)
    (f : QueuedModule Message → QueuedModule Message) :
    (s.modifyLife m f).life m' = s.life m' := Function.update_of_ne h ..

end Components

/-- The current object of a module. -/
def object (s : Runtime Node QueueId Thread Message) (m : Node) : ModuleObject Node :=
  ⟨m, (s.life m).serial⟩

/-! ## `Topic::publish` -/

/-- Up to the release of the data lock. -/
def store (p : Publisher Node QueueId Thread) (τ : TopicId) (message : Message τ)
    (s : Runtime Node QueueId Thread Message) : Runtime Node QueueId Thread Message :=
  (s.modifyChannel τ fun c =>
    { c with topic := c.topic.publish message, published := c.published + 1 }).setPublisher p
      (.stored τ)

theorem store_self (p : Publisher Node QueueId Thread) (τ : TopicId) (message : Message τ)
    (s : Runtime Node QueueId Thread Message) :
    (s.store p τ message).channel τ =
      { s.channel τ with
        topic := (s.channel τ).topic.publish message, published := (s.channel τ).published + 1 } :=
  Function.update_self ..

theorem store_of_ne (p : Publisher Node QueueId Thread) {τ τ' : TopicId} (h : τ' ≠ τ)
    (message : Message τ) (s : Runtime Node QueueId Thread Message) :
    (s.store p τ message).channel τ' = s.channel τ' := Function.update_of_ne h ..

def lockCallbacks (p : Publisher Node QueueId Thread) (τ : TopicId)
    (s : Runtime Node QueueId Thread Message) : Runtime Node QueueId Thread Message :=
  (s.modifyChannel τ ({ · with lock := some p })).setPublisher p (.looping τ 0)

/-- The loop reads one slot. -/
def visit (p : Publisher Node QueueId Thread) (τ : TopicId) (slot : Nat)
    (s : Runtime Node QueueId Thread Message) : Runtime Node QueueId Thread Message :=
  s.setPublisher p <|
    match (s.channel τ).callbacks.toList[slot]? with
    | some (some o) => .calling τ slot o
    | _ => .looping τ (slot + 1)

/-- `SubscriptionCallbackWorkItem::onTopicUpdate`. -/
def call (w : Wiring Node QueueId Message) (p : Publisher Node QueueId Thread) (τ : TopicId)
    (slot : Nat) (o : ModuleObject Node) (now : UInt64)
    (s : Runtime Node QueueId Thread Message) : Runtime Node QueueId Thread Message :=
  (s.modifyQueue (w.queue o.node) (·.schedule o now 0)).setPublisher p (.looping τ (slot + 1))

def unlockCallbacks (p : Publisher Node QueueId Thread) (τ : TopicId)
    (s : Runtime Node QueueId Thread Message) : Runtime Node QueueId Thread Message :=
  (s.modifyChannel τ ({ · with lock := none })).setPublisher p .idle

/-! ## The worker of a queue -/

/-- One round of `WorkQueue::Loop`; a `Run` that starts has everything still to do. -/
def scan (w : Wiring Node QueueId Message) (q : QueueId) (now : UInt64)
    (s : Runtime Node QueueId Thread Message) : Runtime Node QueueId Thread Message :=
  match ((s.queue q).select now).selected with
  | some o => (s.modifyQueue q (·.scan now)).setRemaining q (w.run o.node)
  | none => s.modifyQueue q (·.scan now)

/-- `Subscription::update` on one subscription of a module. -/
def read (τ : TopicId) (c : Channel Node QueueId Thread (Message τ)) (life : QueuedModule Message) :
    QueuedModule Message :=
  let reading := (life.subscription τ).update c.topic (life.received τ)
  { life with
    subscription := Function.update life.subscription τ reading.subscription
    received := Function.update life.received τ reading.message
    seen := Function.update life.seen τ c.published }

/-- A read in a `Run`. -/
def update (q : QueueId) (o : ModuleObject Node) (τ : TopicId) (rest : List (RunOp TopicId))
    (s : Runtime Node QueueId Thread Message) : Runtime Node QueueId Thread Message :=
  (s.modifyLife o.node (read τ (s.channel τ))).setRemaining q rest

omit [DecidableEq Thread] in
theorem update_life_self (q : QueueId) (o : ModuleObject Node) (τ : TopicId)
    (rest : List (RunOp TopicId)) (s : Runtime Node QueueId Thread Message) :
    (s.update q o τ rest).life o.node = read τ (s.channel τ) (s.life o.node) :=
  Function.update_self ..

omit [DecidableEq Thread] in
theorem update_life_of_ne {m : Node} (q : QueueId) {o : ModuleObject Node} (h : m ≠ o.node)
    (τ : TopicId) (rest : List (RunOp TopicId)) (s : Runtime Node QueueId Thread Message) :
    (s.update q o τ rest).life m = s.life m := Function.update_of_ne h ..

/-- The end of a `Run`. -/
def finish (q : QueueId) (o : ModuleObject Node) (s : Runtime Node QueueId Thread Message) :
    Runtime Node QueueId Thread Message := s.modifyQueue q (·.finish o)

/-! ## `ModuleBase::start_command_base` and `WorkQueueModuleBase::task_spawn` -/

/-- The constructor of the module; `instantiated` is whether `T::instantiate` gives an object. -/
def start (w : Wiring Node QueueId Message) (m : Node) (instantiated : Bool)
    (s : Runtime Node QueueId Thread Message) : Runtime Node QueueId Thread Message :=
  if (s.life m).stage.isRunning || (s.life m).stage.stopInProgress || !instantiated then s
  else
    s.modifyLife m fun life =>
      { stage := .constructed, serial := life.serial + 1, received := w.blank
        stopped := life.stopped }

/-- `WorkQueue::Start` at the head of `Attach`. -/
def startQueue (w : Wiring Node QueueId Message) (m : Node) (spawned : Bool)
    (s : Runtime Node QueueId Thread Message) : Runtime Node QueueId Thread Message :=
  (s.modifyQueue (w.queue m) fun q => (q.start spawned).2).setStage m
    (if ((s.queue (w.queue m)).start spawned).1 then .queueStarted else .absent)

/-- `InitSchedule`; the object is deleted if it fails. -/
def attach (w : Wiring Node QueueId Message) (m : Node) (s : Runtime Node QueueId Thread Message) :
    Runtime Node QueueId Thread Message :=
  (s.modifyQueue (w.queue m) fun q => (q.attach (s.object m) (w.periodUs m)).2).setStage m
    (if ((s.queue (w.queue m)).attach (s.object m) (w.periodUs m)).1 then
      .registering (w.callbacks m) else .absent)

/-- `SubscriptionCallbackWorkItem::registerCallback`: its result, the slots and the flag. -/
def registerCallback (o : ModuleObject Node) (registered : Bool)
    (callbacks : CallbackTable (ModuleObject Node)) : Bool × CallbackTable (ModuleObject Node) :=
  if registered then (true, callbacks) else callbacks.register o

/-- One conjunct of `initWorkQueue`. -/
def register (w : Wiring Node QueueId Message) (m : Node) (τ : TopicId) (rest : List TopicId)
    (s : Runtime Node QueueId Thread Message) : Runtime Node QueueId Thread Message :=
  let result := registerCallback (s.object m) ((s.life m).registered τ) (s.channel τ).callbacks
  (s.modifyChannel τ ({ · with callbacks := result.2 })).modifyLife m fun life =>
    { life with
      registered := Function.update life.registered τ result.1
      stage := if result.1 then .registering rest else .unregistering true (w.callbacks m) }

/-- The stores to `_object` and `_taskId`. -/
def publishObject (m : Node) (s : Runtime Node QueueId Thread Message) :
    Runtime Node QueueId Thread Message := s.setStage m .published

/-- `ScheduleOnInterval`, which activates the item. -/
def scheduleOnInterval (w : Wiring Node QueueId Message) (m : Node) (now : UInt64)
    (s : Runtime Node QueueId Thread Message) : Runtime Node QueueId Thread Message :=
  (s.modifyQueue (w.queue m) (·.setInterval (s.object m) now (w.periodUs m))).setStage m .activated

/-- `ScheduleNow`, with which the start returns 0. -/
def scheduleNow (w : Wiring Node QueueId Message) (m : Node) (now : UInt64)
    (s : Runtime Node QueueId Thread Message) : Runtime Node QueueId Thread Message :=
  (s.modifyQueue (w.queue m) (·.schedule (s.object m) now 0)).setStage m .running

/-! ## `ModuleBase::stop_command` and `WorkQueueModuleBase::stop_work_queue` -/

/-- Up to the release of the module mutex. -/
def stop (w : Wiring Node QueueId Message) (m : Node) (s : Runtime Node QueueId Thread Message) :
    Runtime Node QueueId Thread Message :=
  if (s.life m).stage.stopInProgress then s
  else if (s.life m).stage.isRunning then s.setStage m (.unregistering false (w.callbacks m))
  else s.modifyLife m ({ · with stopReturned := true })

/-- One call of `unregisterCallbacks`. -/
def unregister (m : Node) (starting : Bool) (τ : TopicId) (rest : List TopicId)
    (s : Runtime Node QueueId Thread Message) : Runtime Node QueueId Thread Message :=
  (s.modifyChannel τ fun c =>
    if (s.life m).registered τ then { c with callbacks := c.callbacks.unregister (s.object m) }
    else c).modifyLife m fun life =>
      { life with
        registered := Function.update life.registered τ false
        stage := .unregistering starting rest }

/-- What follows the return of `StopAndWait`: a start that failed deletes the object in any case, a stop
keeps it when the wait has timed out. -/
def stopAndWaitReturned (m : Node) (starting ok : Bool) (s : Runtime Node QueueId Thread Message) :
    Runtime Node QueueId Thread Message :=
  s.setStage m (if starting then .absent else if ok then .silent else .retained)

/-- One test of the running flag in `WorkQueue::Detach`. -/
def test (w : Wiring Node QueueId Message) (m : Node) (starting : Bool) (deadline now : UInt64)
    (s : Runtime Node QueueId Thread Message) : Runtime Node QueueId Thread Message :=
  if ((s.queue (w.queue m)).item (s.object m)).running then
    if now ≥ deadline then s.stopAndWaitReturned m starting false
    else s.setStage m (.waiting starting deadline)
  else (s.modifyQueue (w.queue m) (·.unlink (s.object m))).stopAndWaitReturned m starting true

/-- `WorkQueue::Detach` with the default timeout up to its first wait. -/
def detach (w : Wiring Node QueueId Message) (m : Node) (starting : Bool) (now now' : UInt64)
    (s : Runtime Node QueueId Thread Message) : Runtime Node QueueId Thread Message :=
  if ((s.queue (w.queue m)).item (s.object m)).attached then
    (s.modifyQueue (w.queue m) (·.disable (s.object m))).test w m starting (now + 5000 * 1000) now'
  else s.stopAndWaitReturned m starting true

/-- One publication of `onWorkQueueStopped`. -/
def signOff (w : Wiring Node QueueId Message) (m : Node) (now : UInt64) (index : Nat)
    (s : Runtime Node QueueId Thread Message) : Runtime Node QueueId Thread Message :=
  match (w.onWorkQueueStopped m now)[index]? with
  | some ⟨τ, message⟩ => (s.store (.shell m) τ message).setStage m (.signingOff now (index + 1))
  | none => s

/-- The second critical section of `stop_command`, which deletes the object; the stop returns 0. -/
def delete (m : Node) (s : Runtime Node QueueId Thread Message) :
    Runtime Node QueueId Thread Message :=
  s.modifyLife m ({ · with stage := .absent, stopReturned := true, stopped := true })

/-! ## The steps -/

/-- The steps that the locks and the position of each party permit. -/
def Enabled (w : Wiring Node QueueId Message) (s : Runtime Node QueueId Thread Message) :
    RuntimeAction Node QueueId Thread Message → Prop
  | .publish thread τ _ => w.owner τ = none ∧ s.publisher (.thread thread) = .idle
  | .lockCallbacks p τ => s.publisher p = .stored τ ∧ (s.channel τ).lock = none
  | .visit p τ slot => s.publisher p = .looping τ slot ∧ slot < 8
  | .call p τ slot o _ => s.publisher p = .calling τ slot o
  | .unlockCallbacks p τ slot => s.publisher p = .looping τ slot ∧ 8 ≤ slot
  | .initQueue _ _ => True
  | .scan q _ => (s.queue q).started = true ∧ (s.queue q).exit = false ∧
      (s.queue q).worker = .scanning
  | .wake q => (s.queue q).worker.blocked = true
  | .update q o τ rest => (s.queue q).worker = .running o ∧ s.remaining q = .update τ :: rest ∧
      s.publisher (.worker q) = .idle
  | .runPublish q o τ rest _ | .skip q o τ rest => (s.queue q).worker = .running o ∧
      s.remaining q = .publish τ :: rest ∧ s.publisher (.worker q) = .idle
  | .finish q o => (s.queue q).worker = .running o ∧ s.remaining q = [] ∧
      s.publisher (.worker q) = .idle
  | .start m _ | .stop m => (s.life m).stage.isStarting = false
  | .startQueue m _ => (s.life m).stage = .constructed
  | .attach m => (s.life m).stage = .queueStarted
  | .register m τ rest => (s.life m).stage = .registering (τ :: rest) ∧ (s.channel τ).lock = none
  | .publishObject m => (s.life m).stage = .registering []
  | .scheduleOnInterval m _ => (s.life m).stage = .published
  | .scheduleNow m _ => (s.life m).stage = .activated
  | .unregister m starting τ rest => (s.life m).stage = .unregistering starting (τ :: rest) ∧
      ((s.life m).registered τ = true → (s.channel τ).lock = none)
  | .detach m starting _ _ => (s.life m).stage = .unregistering starting []
  | .test m starting deadline _ => (s.life m).stage = .waiting starting deadline
  | .halt m _ => (s.life m).stage = .silent
  | .signOff m now index => (s.life m).stage = .signingOff now index ∧
      index < (w.onWorkQueueStopped m now).length ∧ s.publisher (.shell m) = .idle
  | .delete m now index => (s.life m).stage = .signingOff now index ∧
      (w.onWorkQueueStopped m now).length ≤ index ∧ s.publisher (.shell m) = .idle

instance (w : Wiring Node QueueId Message) (s : Runtime Node QueueId Thread Message) :
    (a : RuntimeAction Node QueueId Thread Message) → Decidable (s.Enabled w a)
  | .publish _ _ _ | .lockCallbacks _ _ | .visit _ _ _ | .unlockCallbacks _ _ _ | .scan _ _
  | .update _ _ _ _ | .runPublish _ _ _ _ _ | .skip _ _ _ _ | .finish _ _ | .register _ _ _
  | .unregister _ _ _ _ | .signOff _ _ _ | .delete _ _ _ => inferInstanceAs (Decidable (_ ∧ _))
  | .call p τ slot o _ => inferInstanceAs (Decidable (s.publisher p = .calling τ slot o))
  | .initQueue _ _ => inferInstanceAs (Decidable True)
  | .wake q => inferInstanceAs (Decidable ((s.queue q).worker.blocked = true))
  | .start m _ | .stop m => inferInstanceAs (Decidable ((s.life m).stage.isStarting = false))
  | .startQueue m _ | .attach m | .publishObject m | .scheduleOnInterval m _ | .scheduleNow m _
  | .halt m _ | .detach m _ _ _ | .test m _ _ _ =>
      inferInstanceAs (Decidable ((s.life m).stage = _))

/-- The effect of a step. -/
def next (w : Wiring Node QueueId Message) (s : Runtime Node QueueId Thread Message) :
    RuntimeAction Node QueueId Thread Message → Runtime Node QueueId Thread Message
  | .publish thread τ message => s.store (.thread thread) τ message
  | .lockCallbacks p τ => s.lockCallbacks p τ
  | .visit p τ slot => s.visit p τ slot
  | .call p τ slot o now => s.call w p τ slot o now
  | .unlockCallbacks p τ _ => s.unlockCallbacks p τ
  | .initQueue q spawned => s.modifyQueue q fun queue => (queue.start spawned).2
  | .scan q now => s.scan w q now
  | .wake q => s.modifyQueue q (·.wake)
  | .update q o τ rest => s.update q o τ rest
  | .runPublish q _ τ rest message => (s.store (.worker q) τ message).setRemaining q rest
  | .skip q _ _ rest => s.setRemaining q rest
  | .finish q o => s.finish q o
  | .start m instantiated => s.start w m instantiated
  | .startQueue m spawned => s.startQueue w m spawned
  | .attach m => s.attach w m
  | .register m τ rest => s.register w m τ rest
  | .publishObject m => s.publishObject m
  | .scheduleOnInterval m now => s.scheduleOnInterval w m now
  | .scheduleNow m now => s.scheduleNow w m now
  | .stop m => s.stop w m
  | .unregister m starting τ rest => s.unregister m starting τ rest
  | .detach m starting now now' => s.detach w m starting now now'
  | .test m starting deadline now => s.test w m starting deadline now
  | .halt m now => s.setStage m (.signingOff now 0)
  | .signOff m now index => s.signOff w m now index
  | .delete m _ _ => s.delete m

/-- The state before the first command. -/
def initial (w : Wiring Node QueueId Message) : Runtime Node QueueId Thread Message where
  channel τ := { topic := ⟨w.blank τ, 0, false⟩ }
  life _ := { received := w.blank }

/-- All interleavings of the publishers, the workers and the shells. -/
def system (Thread : Type) [DecidableEq Thread] (w : Wiring Node QueueId Message) :
    Transition (Runtime Node QueueId Thread Message)
      (RuntimeAction Node QueueId Thread Message) :=
  (Transition.ofFun (· = initial w) (next w)).restrict (Enabled w)

end Runtime

end DualMagneticWheel
