import Handoff.Fault
import Handoff.Record.Assets
import Handoff.Record.Task
/-!
# Execution contexts

An execution context holds everything that a worker needs to run one task. It is assembled from
the records of the task, its process and its definition, from the routing that was decided for it,
from the names of its resources, and from the relation that tasks of its type have to other
records.

* `Assembly.build`: the context from its parts, or the first required part that is missing.
* `Context.document`, `Context.read`: a context in JSON.
-/

namespace Handoff

open Json

/-! ## Resources -/

/-- The names of a task's resources. A task that refers to none is told apart from one whose
resources are all unknown. -/
inductive ResourceNames where
  | none
  | names (names : List String)
  deriving DecidableEq

namespace ResourceNames

/-- The names, if the task refers to any resource. -/
def toOption : ResourceNames → Option (List String)
  | none => Option.none
  | names ns => some ns

/-- `null` or an array of strings. -/
def document : ResourceNames → Document
  | none => .null
  | names ns => .list .text ns

/-- Reads `null` or an array of strings. -/
def read : Document → Option ResourceNames
  | .null => some none
  | d => (asList asString d).map names

end ResourceNames

/-! ## Relations -/

/-- What a SQL task needs. -/
structure SqlRelation where
  connectionParams : String
  udfs : List Udf
  deriving DecidableEq

/-- What a transfer needs: both ends. -/
structure TransferRelation where
  sourceId : DataSourceId
  sourceType : Int32
  sourceParams : String
  targetId : DataSourceId
  targetType : Int32
  targetParams : String
  deriving DecidableEq

/-- What a stored procedure needs. -/
structure ProcedureRelation where
  connectionParams : String
  deriving DecidableEq

namespace SqlRelation

/-- The fields of a SQL relation, in order. -/
def fieldNames : List String :=
  ["connectionParams", "udfFuncList"]

/-- Reads a SQL relation. -/
def read (source : Source) (d : Document) : Option SqlRelation := do
  let f ← Fields.read? fieldNames d
  return {
    connectionParams := ← f.required "connectionParams" asString
    udfs := ← f.required "udfFuncList" (asList (Udf.read source)) }

/-- The members of a SQL relation in JSON. -/
def members (r : SqlRelation) : List (String × Document) :=
  [("connectionParams", .text r.connectionParams), ("udfFuncList", .list Udf.document r.udfs)]

end SqlRelation

namespace TransferRelation

/-- The fields of a transfer relation, in order. -/
def fieldNames : List String :=
  ["dataSourceId", "sourceType", "sourceConnectionParams", "dataTargetId", "targetType",
    "targetConnectionParams"]

/-- Reads a transfer relation. -/
def read (d : Document) : Option TransferRelation := do
  let f ← Fields.read? fieldNames d
  return {
    sourceId := ← f.required "dataSourceId" Id.read
    sourceType := ← f.required "sourceType" asInt32
    sourceParams := ← f.required "sourceConnectionParams" asString
    targetId := ← f.required "dataTargetId" Id.read
    targetType := ← f.required "targetType" asInt32
    targetParams := ← f.required "targetConnectionParams" asString }

/-- The members of a transfer relation in JSON. -/
def members (r : TransferRelation) : List (String × Document) :=
  [("dataSourceId", r.sourceId.document),
    ("sourceType", .int r.sourceType.toInt),
    ("sourceConnectionParams", .text r.sourceParams),
    ("dataTargetId", r.targetId.document),
    ("targetType", .int r.targetType.toInt),
    ("targetConnectionParams", .text r.targetParams)]

end TransferRelation

namespace ProcedureRelation

/-- The fields of a procedure relation, in order. -/
def fieldNames : List String :=
  ["connectionParams"]

/-- Reads a procedure relation. -/
def read (d : Document) : Option ProcedureRelation := do
  let f ← Fields.read? fieldNames d
  return { connectionParams := ← f.required "connectionParams" asString }

/-- The members of a procedure relation in JSON. -/
def members (r : ProcedureRelation) : List (String × Document) :=
  [("connectionParams", .text r.connectionParams)]

end ProcedureRelation

/-- The part of a context that depends on the task's type. -/
inductive Relation where
  | none
  | sql (r : SqlRelation)
  | datax (r : TransferRelation)
  | procedure (r : ProcedureRelation)
  deriving DecidableEq

/-- The kinds of relation, by which a relation in JSON is known. -/
inductive RelationKind where
  | none
  | sql
  | datax
  | procedure
  deriving DecidableEq

namespace RelationKind

/-- The name of a kind. -/
def name : RelationKind → String
  | none => "none"
  | sql => "sql"
  | datax => "datax"
  | procedure => "procedure"

instance : Choice RelationKind := ⟨[none, sql, datax, procedure], name⟩

end RelationKind

namespace Relation

/-- The kind of a relation. -/
def kind : Relation → RelationKind
  | none => .none
  | sql _ => .sql
  | datax _ => .datax
  | procedure _ => .procedure

/-- The members of a relation, its kind apart. -/
def members : Relation → List (String × Document)
  | none => []
  | sql r => r.members
  | datax r => r.members
  | procedure r => r.members

/-- A relation in JSON: the kind comes first. -/
def document (r : Relation) : Document :=
  .record (("kind", .text r.kind.name) :: r.members)

/-- The members but for those with a name, and the values of the latter. -/
def extract (name : String) :
    List (Option String × Document) → List Document × List (Option String × Document)
  | [] => ([], [])
  | m :: ms =>
    let r := extract name ms
    if m.1 = some name then (m.2 :: r.1, r.2) else (r.1, m :: r.2)

/-- The kind and the rest of a relation: the member `kind` of an object, wherever it stands, or the
first item of an array. -/
def split? : Document → Option (Document × Document)
  | .object members =>
    match extract "kind" members with
    | ([kind], rest) => some (kind, .object rest)
    | _ => Option.none
  | .array (kind :: rest) => some (kind, .array rest)
  | _ => Option.none

/-- Reads the rest of a relation of a kind. A relation of no content passes over the members of an
object, but takes no items of an array. -/
def ofKind? : RelationKind → Document → Option Relation
  | .none, .array (_ :: _) => Option.none
  | .none, _ => some none
  | .sql, d => (SqlRelation.read .buffered d).map sql
  | .datax, d => (TransferRelation.read d).map datax
  | .procedure, d => (ProcedureRelation.read d).map procedure

/-- Reads a relation that stands inside `levels` arrays and objects. It is gathered whole before
its kind is known, so all of it has to be admissible. -/
def read (levels : Nat) (d : Document) : Option Relation := do
  let (kind, rest) ← if d.admissible levels then split? d else Option.none
  let name ← asString kind
  let kind ← Choice.ofName? name
  ofKind? kind rest

/-- The relation of a SQL task, if it is one. -/
def sql? : Relation → Option SqlRelation
  | sql r => some r
  | _ => Option.none

/-- The relation of a transfer, if it is one. -/
def datax? : Relation → Option TransferRelation
  | datax r => some r
  | _ => Option.none

/-- The relation of a procedure, if it is one. -/
def procedure? : Relation → Option ProcedureRelation
  | procedure r => some r
  | _ => Option.none

end Relation

/-! ## Contexts -/

/-- Everything that a worker needs to run one task. -/
structure Context where
  taskId : TaskId
  taskName : String
  taskType : TaskType
  nodeText : String
  startTime : Option Instant
  host : Option String
  logPath : Option String
  executePath : String
  workerGroup : String
  resources : ResourceNames
  processId : ProcessId
  tenantCode : String
  queue : String
  executorId : UserId
  commandType : Option String
  scheduleTime : Option Instant
  globalParams : Option String
  definitionId : DefinitionId
  projectId : ProjectId
  relation : Relation
  deriving DecidableEq

namespace Context

/-- The fields of a context, in order. -/
def fieldNames : List String :=
  ["taskInstanceId", "taskName", "taskType", "taskJson", "startTime", "host", "logPath",
    "executePath", "workerGroup", "resources", "processInstanceId", "tenantCode", "queue",
    "executorId", "commandType", "scheduleTime", "globalParams", "processDefineId", "projectId",
    "relation"]

/-- Reads a context. -/
def read (d : Document) : Option Context := do
  let f ← Fields.read? fieldNames d
  return {
    taskId := ← f.required "taskInstanceId" Id.read
    taskName := ← f.required "taskName" asString
    taskType := ← f.required "taskType" (Choice.read .direct)
    nodeText := ← f.required "taskJson" asString
    startTime := ← f.nullable "startTime" Instant.read
    host := ← f.nullable "host" asString
    logPath := ← f.nullable "logPath" asString
    executePath := ← f.required "executePath" asString
    workerGroup := ← f.required "workerGroup" asString
    resources := ← f.required "resources" ResourceNames.read
    processId := ← f.required "processInstanceId" Id.read
    tenantCode := ← f.required "tenantCode" asString
    queue := ← f.required "queue" asString
    executorId := ← f.required "executorId" Id.read
    commandType := ← f.nullable "commandType" asString
    scheduleTime := ← f.nullable "scheduleTime" Instant.read
    globalParams := ← f.nullable "globalParams" asString
    definitionId := ← f.required "processDefineId" Id.read
    projectId := ← f.required "projectId" Id.read
    relation := ← f.required "relation" (Relation.read 1) }

/-- A context in JSON. -/
def document (c : Context) : Document :=
  .record [
    ("taskInstanceId", c.taskId.document),
    ("taskName", .text c.taskName),
    ("taskType", Choice.document c.taskType),
    ("taskJson", .text c.nodeText),
    ("startTime", .option Instant.document c.startTime),
    ("host", .option .text c.host),
    ("logPath", .option .text c.logPath),
    ("executePath", .text c.executePath),
    ("workerGroup", .text c.workerGroup),
    ("resources", c.resources.document),
    ("processInstanceId", c.processId.document),
    ("tenantCode", .text c.tenantCode),
    ("queue", .text c.queue),
    ("executorId", c.executorId.document),
    ("commandType", .option .text c.commandType),
    ("scheduleTime", .option Instant.document c.scheduleTime),
    ("globalParams", .option .text c.globalParams),
    ("processDefineId", c.definitionId.document),
    ("projectId", c.projectId.document),
    ("relation", c.relation.document)]

end Context

/-! ## Assembly -/

/-- What was decided about where a task runs. -/
structure Routing where
  tenantCode : String
  queue : String
  executePath : String
  workerGroup : String
  deriving DecidableEq

/-- The parts of a context that have been gathered so far. -/
structure Assembly where
  task : Option (Task × TaskType)
  process : Option ProcessRun
  definition : Option Definition
  routing : Option Routing
  resources : Option ResourceNames
  relation : Relation

namespace Assembly

/-- No part yet, and no relation. -/
def empty : Assembly :=
  ⟨none, none, none, none, none, .none⟩

/-- The context from its parts, or the first required part that is missing. Parameters of the
process win over those of the definition. -/
def build (a : Assembly) : Except Fault Context :=
  match a.task, a.process, a.definition, a.routing, a.resources with
  | none, _, _, _, _ => .error (.incompleteContext "task instance")
  | _, none, _, _, _ => .error (.incompleteContext "process instance")
  | _, _, none, _, _ => .error (.incompleteContext "process definition")
  | _, _, _, none, _ => .error (.incompleteContext "routing")
  | _, _, _, _, none => .error (.incompleteContext "resources")
  | some (task, type), some process, some definition, some routing, some resources =>
    .ok {
      taskId := task.id
      taskName := task.name
      taskType := type
      nodeText := task.nodeText
      startTime := task.startTime
      host := task.host
      logPath := task.logPath
      executePath := routing.executePath
      workerGroup := routing.workerGroup
      resources := resources
      processId := process.id
      tenantCode := routing.tenantCode
      queue := routing.queue
      executorId := process.executorId
      commandType := process.commandType
      scheduleTime := process.scheduleTime
      globalParams := process.globalParams.or definition.globalParams
      definitionId := definition.id
      projectId := definition.projectId
      relation := a.relation }

end Assembly

end Handoff
