import Handoff.Record.Process
/-!
# Tasks and changes of their state

A task belongs to a process and its definition; a look-up of its details attaches both to it.
-/

namespace Handoff

open Json

/-- One task to run. -/
structure Task where
  id : TaskId
  name : String
  /-- The tag of the task's type, as the record shows it. -/
  typeTag : String
  /-- The text of the task's node: type, parameters and worker group. -/
  nodeText : String
  processId : ProcessId
  definitionId : DefinitionId
  status : TaskStatus
  priority : Priority
  host : Option String
  startTime : Option Instant
  submitTime : Option Instant
  workerGroup : Option String
  logPath : Option String
  process : Option ProcessRun
  definition : Option Definition
  deriving DecidableEq

namespace Task

/-- The fields of a task, in order. -/
def fieldNames : List String :=
  ["id", "name", "taskType", "taskJson", "processInstanceId", "processDefinitionId", "state",
    "priority", "host", "startTime", "submitTime", "workerGroup", "logPath", "processInstance",
    "processDefinition"]

/-- Reads a task. -/
def read (source : Source) (d : Document) : Option Task := do
  let f ← Fields.read? fieldNames d
  return {
    id := ← f.required "id" Id.read
    name := ← f.required "name" asString
    typeTag := ← f.required "taskType" asString
    nodeText := ← f.required "taskJson" asString
    processId := ← f.required "processInstanceId" Id.read
    definitionId := ← f.required "processDefinitionId" Id.read
    status := ← f.required "state" (Choice.read source)
    priority := ← f.defaulted "priority" (Choice.read source) Priority.standard
    host := ← f.optional "host" asString
    startTime := ← f.optional "startTime" Instant.read
    submitTime := ← f.optional "submitTime" Instant.read
    workerGroup := ← f.optional "workerGroup" asString
    logPath := ← f.optional "logPath" asString
    process := ← f.optional "processInstance" (ProcessRun.read source)
    definition := ← f.optional "processDefinition" Definition.read }

/-- A member for a field that is left out when it is absent. -/
def attached {α : Type} (name : String) (f : α → Document) : Option α → List (String × Document)
  | none => []
  | some a => [(name, f a)]

/-- A task in JSON; without a process or definition attached, those members are left out. -/
def document (t : Task) : Document :=
  .record ([
    ("id", t.id.document),
    ("name", .text t.name),
    ("taskType", .text t.typeTag),
    ("taskJson", .text t.nodeText),
    ("processInstanceId", t.processId.document),
    ("processDefinitionId", t.definitionId.document),
    ("state", Choice.document t.status),
    ("priority", Choice.document t.priority),
    ("host", .option .text t.host),
    ("startTime", .option Instant.document t.startTime),
    ("submitTime", .option Instant.document t.submitTime),
    ("workerGroup", .option .text t.workerGroup),
    ("logPath", .option .text t.logPath)] ++
    attached "processInstance" ProcessRun.document t.process ++
    attached "processDefinition" Definition.document t.definition)

end Task

/-- A wish to change the state of a task. -/
structure StateChange where
  taskId : TaskId
  status : TaskStatus
  startTime : Option Instant
  host : Option String
  executePath : Option String
  logPath : Option String
  deriving DecidableEq

namespace StateChange

/-- The task has failed; its start time and host stay as they are. -/
def failure (t : Task) : StateChange :=
  ⟨t.id, .failure, t.startTime, t.host, none, none⟩

/-- The fields of a change, in order. -/
def fieldNames : List String :=
  ["taskInstanceId", "status", "startTime", "host", "executePath", "logPath"]

/-- Reads a change. -/
def read (d : Document) : Option StateChange := do
  let f ← Fields.read? fieldNames d
  return {
    taskId := ← f.required "taskInstanceId" Id.read
    status := ← f.required "status" (Choice.read .direct)
    startTime := ← f.nullable "startTime" Instant.read
    host := ← f.nullable "host" asString
    executePath := ← f.nullable "executePath" asString
    logPath := ← f.nullable "logPath" asString }

/-- A change in JSON. -/
def document (c : StateChange) : Document :=
  .record [
    ("taskInstanceId", c.taskId.document),
    ("status", Choice.document c.status),
    ("startTime", .option Instant.document c.startTime),
    ("host", .option .text c.host),
    ("executePath", .option .text c.executePath),
    ("logPath", .option .text c.logPath)]

end StateChange

end Handoff
