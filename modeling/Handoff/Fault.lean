import Handoff.Ident
import Handoff.Record.Kinds
/-!
# Faults

What can go wrong between a reference taken from the queue and its request handed to a worker
group, with the words in which it is reported and the class that says whose fault it is.

* `Fault.message`: the words; a fault in JSON text is not described further, and resources that are
  missing are listed apart from the words.
* `Fault.kind`: the class.
-/

namespace Handoff

open Text

/-- The questions and orders that a record service answers. -/
inductive ServiceMethod where
  | taskDetail
  | tenantForProcess
  | userQueue
  | changeTaskState
  | findDataSource
  | udfsByIds
  | resourcesByIds
  deriving DecidableEq

namespace ServiceMethod

/-- The name of a method. -/
def name : ServiceMethod → String
  | taskDetail => "task_instance_detail"
  | tenantForProcess => "tenant_for_process"
  | userQueue => "user_queue_by_process_instance"
  | changeTaskState => "change_task_state"
  | findDataSource => "find_data_source"
  | udfsByIds => "udf_funcs_by_ids"
  | resourcesByIds => "resources_by_ids"

/-- Every method once. -/
def all : List ServiceMethod :=
  [taskDetail, tenantForProcess, userQueue, changeTaskState, findDataSource, udfsByIds,
    resourcesByIds]

end ServiceMethod

/-- Why the record service gave no answer. -/
inductive ServiceFault where
  | unavailable (reason : String)
  | rejected (method : ServiceMethod) (reason : String)
  deriving DecidableEq

/-- The words for a fault of the record service. -/
def ServiceFault.message : ServiceFault → String
  | unavailable reason => "service unavailable: " ++ reason
  | rejected method reason => "service rejected " ++ method.name ++ ": " ++ reason

/-- Why a request could not be handed over. -/
inductive DispatchFault where
  | unknownGroup (group : String)
  | unsupportedExecutor (executor : ExecutorType)
  | transport (reason : String)
  deriving DecidableEq

/-- The words for a fault of a dispatcher. -/
def DispatchFault.message : DispatchFault → String
  | unknownGroup group => "no workers registered for group '" ++ group ++ "'"
  | unsupportedExecutor executor => "executor type " ++ executor.name ++ " is not supported"
  | transport reason => "transport failed: " ++ reason

/-- Why a queue gave or took no reference. -/
inductive QueueFault where
  | closed
  | backend (reason : String)
  | malformed (raw : String)
  deriving DecidableEq

/-- The words for a fault of a queue. -/
def QueueFault.message : QueueFault → String
  | closed => "queue closed"
  | backend reason => "queue backend failed: " ++ reason
  | malformed raw => "malformed queue entry '" ++ raw ++ "'"

/-- The classes of fault: a record that a task needs does not exist, the hand-over to a worker
failed, stored data cannot be read, or the service or the program itself misbehaved. -/
inductive FaultKind where
  | dependency
  | transport
  | malformed
  | infrastructure
  deriving DecidableEq

/-- The name of a class of fault. -/
def FaultKind.name : FaultKind → String
  | dependency => "Dependency"
  | transport => "Transport"
  | malformed => "Malformed"
  | infrastructure => "Infrastructure"

/-- What can go wrong in handing over a task. -/
inductive Fault where
  | taskNotFound (task : TaskId)
  | noProcess (task : TaskId)
  | noDefinition (process : ProcessId)
  | dataSourceNotFound (source : DataSourceId)
  | missingResources (ids : List ResourceId)
  | unknownTaskType (tag : String)
  | invalidTaskNode (task : TaskId)
  | invalidParameters (type : TaskType)
  | invalidUdfId (raw : String) (cause : IntegerFault)
  | invalidReference (raw : String)
  | relationMismatch (expected actual : TaskType)
  | incompleteContext (part : String)
  | duplicateRelation (type : TaskType)
  | settings (reason : String)
  | encoding
  | service (cause : ServiceFault)
  | dispatch (cause : DispatchFault)
  | queue (cause : QueueFault)
  deriving DecidableEq

namespace Fault

/-- The words for a fault. -/
def message : Fault → String
  | taskNotFound task => "task instance " ++ task.text ++ " not found"
  | noProcess task => "task instance " ++ task.text ++ " has no process instance"
  | noDefinition process => "process instance " ++ process.text ++ " has no process definition"
  | dataSourceNotFound source => "data source " ++ source.text ++ " not found"
  | missingResources _ => "unresolved resources"
  | unknownTaskType tag => "unknown task type '" ++ tag ++ "'"
  | invalidTaskNode task => "invalid task json for " ++ task.text
  | invalidParameters type => "invalid " ++ type.tag ++ " parameters"
  | invalidUdfId raw cause => "invalid udf id '" ++ raw ++ "': " ++ cause.message
  | invalidReference raw => "invalid task reference '" ++ raw ++ "'"
  | relationMismatch expected actual =>
    expected.tag ++ " relation builder got " ++ actual.tag ++ " parameters"
  | incompleteContext part => "execution context is missing its " ++ part
  | duplicateRelation type => "duplicate relation builder for task_type=" ++ type.tag
  | settings reason => "config: " ++ reason
  | encoding => "command encoding failed"
  | service cause => cause.message
  | dispatch cause => cause.message
  | queue cause => cause.message

/-- The class of a fault. -/
def kind : Fault → FaultKind
  | taskNotFound _ | noProcess _ | noDefinition _ | dataSourceNotFound _ | missingResources _ =>
    .dependency
  | unknownTaskType _ | invalidTaskNode _ | invalidParameters _ | invalidUdfId _ _
  | invalidReference _ | relationMismatch _ _ => .malformed
  | dispatch _ => .transport
  | incompleteContext _ | duplicateRelation _ | settings _ | encoding | service _ | queue _ =>
    .infrastructure

end Fault

end Handoff
