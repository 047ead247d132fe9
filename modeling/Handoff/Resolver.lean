import Handoff.Reference
import Handoff.Relation.Registry
import Handoff.Request
import Handoff.ResourceLookup
import Handoff.TaskNode
/-!
# Resolving references

Resolving turns the reference to a ready task into the context in which a worker can run it:

1. the details of the task, with its process and definition;
2. the tenant; a task without one is marked as failed, and has no context;
3. queue, directory and worker group;
4. the names of its resources;
5. the relation of its type.

Only the missing tenant writes to the store. Every other failure is a fault and leaves the task as
it was.

* `Resolver.resolve`: the context of a reference, if its task has a tenant.
-/

namespace Handoff

/-- What the resolution of all references goes by. -/
structure Resolver where
  registry : Registry
  settings : Settings

namespace Resolver

/-- Something that has to be there. -/
def need {α : Type} (fault : Fault) : Option α → Resolving α
  | some a => return a
  | none => throw fault

/-- The owner of a task: of its definition, or nobody. -/
def ownerOf (t : Task) : UserId :=
  match t.definition with
  | some definition => definition.userId
  | none => ⟨0⟩

/-- A queue that the user has chosen wins over the tenant's. -/
def chooseQueue (user : Option String) (tenant : Tenant) : String :=
  match user with
  | some queue => if queue ≠ "" then queue else tenant.queue
  | none => tenant.queue

/-- The worker group that the task declares, or else its node; an empty one counts as the default
group. -/
def chooseWorkerGroup (task node : Option String) (default : String) : String :=
  match task.or node with
  | some group => if group ≠ "" then group else default
  | none => default

/-- The parameters of a node under a task type. -/
def parametersOf (type : TaskType) (node : TaskNode) : Resolving Parameters := do
  let value ← need (.invalidParameters type) node.paramsValue?
  need (.invalidParameters type) (Parameters.ofValue? type value)

/-- The context of a task that has a tenant. -/
def contextOf (r : Resolver) (task : Task) (type : TaskType) (node : TaskNode)
    (process : ProcessRun) (tenant : Tenant) : Resolving Context := do
  let definition ← need (.noDefinition process.id) task.definition
  let userQueue ← Resolving.ask (.userQueue process.id) fun s => s.userQueue? process.id
  let routing : Routing := {
    tenantCode := tenant.code
    queue := chooseQueue userQueue tenant
    executePath := r.settings.executePath definition.projectId definition.id process.id task.id
    workerGroup :=
      chooseWorkerGroup task.workerGroup node.workerGroup r.settings.defaultWorkerGroup }
  let params ← parametersOf type node
  let resources ← findResources r.settings.resourcePolicy params
  let relation ← r.registry.build params
  Resolving.log (.resolved type routing.tenantCode routing.queue routing.workerGroup)
  Resolving.ofExcept
    (Assembly.build ⟨some (task, type), some process, some definition, some routing,
      some resources, relation⟩)

/-- The context of a reference; none if the task has no tenant and was marked as failed. -/
def resolve (r : Resolver) (reference : Reference) : Resolving (Option Context) := do
  let id := reference.taskId
  let detail ← Resolving.ask (.taskDetail id) fun s => s.detail? id
  let task ← need (.taskNotFound id) detail
  let type ← need (.unknownTaskType task.typeTag) (TaskType.ofTag? task.typeTag)
  let node ← need (.invalidTaskNode task.id) (TaskNode.ofText? task.nodeText)
  let process ← need (.noProcess task.id) task.process
  let tenant ← Resolving.ask (.tenantForProcess process.tenantId (ownerOf task)) fun s =>
    s.tenantFor? process.tenantId (ownerOf task)
  match tenant with
  | none =>
    Resolving.log (.tenantMissing process.id task.id)
    Resolving.order (.failure task)
    return none
  | some tenant => some <$> r.contextOf task type node process tenant

end Resolver

end Handoff
