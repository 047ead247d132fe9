import Handoff.Fault
/-!
# The event log

Every step of a hand-over that an operator may want to see is an event. An event has a level, a
message and the facts that belong to it.

* `Event.level`, `Event.message`, `Event.facts`: how an event is shown.
-/

namespace Handoff

open Json

/-- How the hand-over of one task ended, faults apart. -/
inductive Outcome where
  | dispatched
  | rejected
  | skipped
  deriving DecidableEq

/-- The name of an outcome. -/
def Outcome.name : Outcome → String
  | dispatched => "Dispatched"
  | rejected => "Rejected"
  | skipped => "Skipped"

/-- How much an event matters. -/
inductive Level where
  | debug
  | info
  | warn
  | error
  deriving DecidableEq

/-- The name of a level. -/
def Level.name : Level → String
  | debug => "DEBUG"
  | info => "INFO"
  | warn => "WARN"
  | error => "ERROR"

/-- What happened. -/
inductive Event where
  | started
  | stopping
  | dequeued (task : TaskId)
  | resolved (type : TaskType) (tenant queue workerGroup : String)
  | tenantMissing (process : ProcessId) (task : TaskId)
  | resourcesDropped (missing : List ResourceId)
  | dispatched (task : TaskId) (workerGroup : String) (serial : UInt64)
  | declined (task : TaskId) (workerGroup : String) (serial : UInt64)
  | finished (task : TaskId) (outcome : Outcome)
  | failed (task : TaskId) (fault : Fault)
  | panicked (task : TaskId) (reason : String)
  | queueClosed
  | takeFailed (fault : QueueFault)
  | crashed
  deriving DecidableEq

namespace Event

/-- The level of an event. -/
def level : Event → Level
  | started | stopping | dispatched _ _ _ => .info
  | dequeued _ | resolved _ _ _ _ | finished _ _ => .debug
  | resourcesDropped _ | declined _ _ _ | queueClosed => .warn
  | tenantMissing _ _ | failed _ _ | panicked _ _ | takeFailed _ | crashed => .error

/-- The message of an event. -/
def message : Event → String
  | started => "dispatch consumer started"
  | stopping => "dispatch consumer stopping"
  | dequeued _ => "task dequeued"
  | resolved _ _ _ _ => "execution context resolved"
  | tenantMissing _ _ => "tenant not found, marking task failed"
  | resourcesDropped _ => "dropping unresolved resources"
  | dispatched _ _ _ => "task dispatched"
  | declined _ _ _ => "dispatcher declined task"
  | finished _ _ => "iteration finished"
  | failed _ _ => "dispatch iteration failed"
  | panicked _ _ => "dispatch iteration panicked"
  | queueClosed => "task queue closed, waiting for stop"
  | takeFailed _ => "failed to take from task queue"
  | crashed => "dispatch consumer panicked"

/-- The facts of an event, by name. -/
def facts : Event → List (String × Document)
  | started | stopping | queueClosed => []
  | dequeued task => [("task_instance_id", .text task.text)]
  | resolved type tenant queue workerGroup =>
    [("task_type", .text type.tag), ("tenant", .text tenant), ("queue", .text queue),
      ("worker_group", .text workerGroup)]
  | tenantMissing process task =>
    [("process_instance_id", .text process.text), ("task_instance_id", .text task.text)]
  | resourcesDropped missing => [("missing", .list Id.document missing)]
  | dispatched task workerGroup serial | declined task workerGroup serial =>
    [("task_instance_id", .text task.text), ("worker_group", .text workerGroup),
      ("opaque", .int serial.toNat)]
  | finished task outcome =>
    [("task_instance_id", .text task.text), ("outcome", .text outcome.name)]
  | failed task fault =>
    [("task_instance_id", .text task.text), ("kind", .text fault.kind.name),
      ("error", .text fault.message)]
  | panicked task reason =>
    [("task_instance_id", .text task.text), ("panic", .text reason)]
  | takeFailed fault => [("error", .text fault.message)]
  | crashed => [("error", .text "panicked")]

/-- An event in JSON. -/
def document (e : Event) : Document :=
  .record (("level", .text e.level.name) :: ("message", .text e.message) :: e.facts)

end Event

end Handoff
