import Handoff.Fault
import Handoff.Record.Snapshot
/-!
# The record store

A store is filled from a snapshot and answers look-ups from it. The only thing that can be written
is the state of a task; every change that was accepted is kept in a log. Of records listed with the
same id the last one counts; user-defined functions and resources are kept all, in order.

* `Store.ofSnapshot`, `Store.change`: the two ways to make a store.
* `Store.detail?`, `tenantFor?`, `userQueue?`, `dataSource?`, `udfsOf`, `resourcesOf`: the look-ups.
-/

namespace Handoff

/-- The elements that no later element shares its key with. -/
def latest {α κ : Type} [DecidableEq κ] (key : α → κ) : List α → List α
  | [] => []
  | a :: as => if (as.any fun b => key b = key a) then latest key as else a :: latest key as

/-- The records that can be looked up, and the changes accepted so far, oldest first. -/
structure Store where
  tasks : List Task
  processes : List ProcessRun
  definitions : List Definition
  tenants : List Tenant
  users : List User
  dataSources : List DataSource
  udfs : List Udf
  resources : List Resource
  changes : List StateChange
  deriving DecidableEq

namespace Store

/-- The store that holds the records of a snapshot. -/
def ofSnapshot (s : Snapshot) : Store where
  tasks := latest (·.id) s.tasks
  processes := latest (·.id) s.processes
  definitions := latest (·.id) s.definitions
  tenants := latest (·.id) s.tenants
  users := latest (·.id) s.users
  dataSources := latest (·.id) s.dataSources
  udfs := s.udfs
  resources := s.resources
  changes := []

/-- A store without records. -/
def empty : Store := ofSnapshot .empty

/-- A task as it is stored. -/
def task? (s : Store) (id : TaskId) : Option Task :=
  s.tasks.find? fun t => t.id = id

/-- The process with an id. -/
def process? (s : Store) (id : ProcessId) : Option ProcessRun :=
  s.processes.find? fun p => p.id = id

/-- The definition with an id. -/
def definition? (s : Store) (id : DefinitionId) : Option Definition :=
  s.definitions.find? fun d => d.id = id

/-- The tenant with an id. -/
def tenant? (s : Store) (id : TenantId) : Option Tenant :=
  s.tenants.find? fun t => t.id = id

/-- The user with an id. -/
def user? (s : Store) (id : UserId) : Option User :=
  s.users.find? fun u => u.id = id

/-- The data source with an id. -/
def dataSource? (s : Store) (id : DataSourceId) : Option DataSource :=
  s.dataSources.find? fun d => d.id = id

/-- A task with the process and the definition that it names; what was attached to the stored task
does not count. -/
def detail? (s : Store) (id : TaskId) : Option Task :=
  (s.task? id).map fun t =>
    { t with process := s.process? t.processId, definition := s.definition? t.definitionId }

/-- The tenant with an id, or for a negative id the tenant of a user. -/
def tenantFor? (s : Store) (tenant : TenantId) (owner : UserId) : Option Tenant :=
  if 0 ≤ tenant.toInt then s.tenant? tenant
  else (s.user? owner).bind fun u => s.tenant? u.tenantId

/-- The queue that the executor of a process has chosen. -/
def userQueue? (s : Store) (id : ProcessId) : Option String :=
  (s.process? id).bind fun p => (s.user? p.executorId).bind (·.queue)

/-- The functions with these ids, in the order of the store. -/
def udfsOf (s : Store) (ids : List UdfId) : List Udf :=
  s.udfs.filter fun u => ids.contains u.id

/-- The resources with these ids, in the order of the store. -/
def resourcesOf (s : Store) (ids : List ResourceId) : List Resource :=
  s.resources.filter fun r => ids.contains r.id

/-- A task after a change: paths are not part of what a change may set. -/
def applied (c : StateChange) (t : Task) : Task :=
  { t with status := c.status, startTime := c.startTime, host := c.host }

/-- Applies a change to the task it names; a change for a task that is not stored is rejected. -/
def change (s : Store) (c : StateChange) : Except ServiceFault Store :=
  if s.tasks.any fun t => t.id = c.taskId then
    .ok { s with
      tasks := s.tasks.map fun t => if t.id = c.taskId then applied c t else t
      changes := s.changes ++ [c] }
  else .error (.rejected .changeTaskState ("unknown task instance " ++ c.taskId.text))

end Store

end Handoff
