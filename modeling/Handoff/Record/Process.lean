import Handoff.Ident
import Handoff.Instant.Text
import Handoff.Record.Kinds
/-!
# Processes and their definitions

A process is one run of a workflow, a definition the workflow itself.
-/

namespace Handoff

open Json

namespace Instant

/-- Reads an instant in JSON. -/
def read (d : Document) : Option Instant :=
  (asString d).bind read?

/-- An instant in JSON. -/
def document (t : Instant) : Document :=
  .text t.text

end Instant

/-- A workflow. -/
structure Definition where
  id : DefinitionId
  projectId : ProjectId
  /-- The owner, whose tenant counts where a process has none of its own. -/
  userId : UserId
  name : String
  globalParams : Option String
  deriving DecidableEq

namespace Definition

/-- The fields of a definition, in order. -/
def fieldNames : List String :=
  ["id", "projectId", "userId", "name", "globalParams"]

/-- Reads a definition. -/
def read (d : Document) : Option Definition := do
  let f ← Fields.read? fieldNames d
  return {
    id := ← f.required "id" Id.read
    projectId := ← f.required "projectId" Id.read
    userId := ← f.required "userId" Id.read
    name := ← f.defaulted "name" asString ""
    globalParams := ← f.optional "globalParams" asString }

/-- A definition in JSON. -/
def document (d : Definition) : Document :=
  .record [
    ("id", d.id.document),
    ("projectId", d.projectId.document),
    ("userId", d.userId.document),
    ("name", .text d.name),
    ("globalParams", .option .text d.globalParams)]

end Definition

/-- A run of a workflow. -/
structure ProcessRun where
  id : ProcessId
  definitionId : DefinitionId
  /-- A negative number says that the tenant of the owning user counts. -/
  tenantId : TenantId
  executorId : UserId
  priority : Priority
  commandType : Option String
  scheduleTime : Option Instant
  globalParams : Option String
  deriving DecidableEq

namespace ProcessRun

/-- The tenant of a process that names none. -/
def noTenant : TenantId := ⟨-1⟩

/-- The fields of a process, in order. -/
def fieldNames : List String :=
  ["id", "processDefinitionId", "tenantId", "executorId", "priority", "commandType",
    "scheduleTime", "globalParams"]

/-- Reads a process. -/
def read (source : Source) (d : Document) : Option ProcessRun := do
  let f ← Fields.read? fieldNames d
  return {
    id := ← f.required "id" Id.read
    definitionId := ← f.required "processDefinitionId" Id.read
    tenantId := ← f.defaulted "tenantId" Id.read noTenant
    executorId := ← f.required "executorId" Id.read
    priority := ← f.defaulted "priority" (Choice.read source) Priority.standard
    commandType := ← f.optional "commandType" asString
    scheduleTime := ← f.optional "scheduleTime" Instant.read
    globalParams := ← f.optional "globalParams" asString }

/-- A process in JSON. -/
def document (p : ProcessRun) : Document :=
  .record [
    ("id", p.id.document),
    ("processDefinitionId", p.definitionId.document),
    ("tenantId", p.tenantId.document),
    ("executorId", p.executorId.document),
    ("priority", Choice.document p.priority),
    ("commandType", .option .text p.commandType),
    ("scheduleTime", .option Instant.document p.scheduleTime),
    ("globalParams", .option .text p.globalParams)]

end ProcessRun

end Handoff
