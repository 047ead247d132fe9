import Handoff.Proofs.Resolution.Isolation
/-!
# What contexts are made of

A context is put together from the records of six kinds that a reference leads to, and from the
resources and the relation of the parameters.

* `Ingredients`: all that goes into the context of a reference, as a store holds it;
  `Ingredients.context`: the context made of it.
* `Resolver.ingredients_of_exec`, `Resolver.exec_of_ingredients`: a resolution that comes to a context
  has found all of it; and where all of it is there, only resources and relation are left to find.
* `Resolver.resolve_eq_context_iff`: **a resolution comes to a context just if everything is there that
  goes into it, and to this one.**
* `Resolver.workerGroup_eq_firstNamed_iff`: **the worker group is the first one that is named, unless
  the task names the empty group and so hides the one that its node names.**
-/

namespace Handoff

open Resolving

/-- All that goes into the context of a reference, apart from resources and relation, as it is found
in a store. The process has the tenant that it names, or for a negative id that of the definition's
owner. -/
structure Ingredients (store : Store) (reference : Reference) where
  task : Task
  type : TaskType
  node : TaskNode
  process : ProcessRun
  definition : Definition
  tenant : Tenant
  parameters : Parameters
  isTask : store.task? reference.taskId = some task
  isType : TaskType.ofTag? task.typeTag = some type
  isNode : TaskNode.ofText? task.nodeText = some node
  isProcess : store.process? task.processId = some process
  isDefinition : store.definition? task.definitionId = some definition
  isTenant : (if 0 ≤ process.tenantId.toInt then store.tenant? process.tenantId
    else (store.user? definition.userId).bind fun owner => store.tenant? owner.tenantId) = some tenant
  isParameters : node.paramsValue?.bind (Parameters.ofValue? type) = some parameters

namespace Ingredients

variable {store : Store} {reference : Reference}

/-- The queue that the executor of the process has chosen, unless there is none or it is empty; then
that of the tenant. -/
def queue (i : Ingredients store reference) : String :=
  (((store.user? i.process.executorId).bind (·.queue)).filter (· ≠ "")).getD i.tenant.queue

/-- The context made of the ingredients with resources and a relation. -/
def context (i : Ingredients store reference) (settings : Settings) (resources : ResourceNames)
    (relation : Relation) : Context where
  taskId := i.task.id
  taskName := i.task.name
  taskType := i.type
  nodeText := i.task.nodeText
  startTime := i.task.startTime
  host := i.task.host
  logPath := i.task.logPath
  executePath := settings.executePath i.definition.projectId i.definition.id i.process.id i.task.id
  workerGroup :=
    Resolver.chooseWorkerGroup i.task.workerGroup i.node.workerGroup settings.defaultWorkerGroup
  resources := resources
  processId := i.process.id
  tenantCode := i.tenant.code
  queue := i.queue
  executorId := i.process.executorId
  commandType := i.process.commandType
  scheduleTime := i.process.scheduleTime
  globalParams := i.process.globalParams.or i.definition.globalParams
  definitionId := i.definition.id
  projectId := i.definition.projectId
  relation := relation

/-- The task as its details show it. -/
def detail (i : Ingredients store reference) : Task :=
  { i.task with process := some i.process, definition := some i.definition }

/-- What is left of a resolution when the ingredients are found. -/
def complete (i : Ingredients store reference) (r : Resolver) : Resolving Context := do
  let resources ← findResources r.settings.resourcePolicy i.parameters
  let relation ← r.registry.build i.parameters
  let c := i.context r.settings resources relation
  Resolving.log (.resolved c.taskType c.tenantCode c.queue c.workerGroup)
  return c

/-- The queue is the one that the resolver chooses. -/
theorem chooseQueue_eq (i : Ingredients store reference) :
    Resolver.chooseQueue (store.userQueue? i.process.id) i.tenant = i.queue := by
  have hid : i.process.id = i.task.processId := by simpa using List.find?_some i.isProcess
  have hqueue : store.userQueue? i.process.id =
      (store.user? i.process.executorId).bind (·.queue) := by
    rw [Store.userQueue?, hid, i.isProcess]
    rfl
  unfold Resolver.chooseQueue queue
  rw [hqueue]
  cases (store.user? i.process.executorId).bind (·.queue) with
  | none => rfl
  | some queue => by_cases hempty : queue = "" <;> simp [Option.filter_some, hempty]

end Ingredients

namespace Resolver

variable {r : Resolver} {reference : Reference} {s s' : Session} {c : Context}

/-- A resolution that comes to a context has found all that goes into it. -/
theorem ingredients_of_exec (h : (r.resolve reference).exec s = (.ok (some c), s')) :
    Nonempty (Ingredients s.store reference) ∧ s.outages .taskDetail = none ∧
      s.outages .tenantForProcess = none ∧ s.outages .userQueue = none := by
  obtain ⟨hdetail, htenant, t, type, node, process, hstored, htype, hnode, hprocess, s₁, hstore,
    hout, h⟩ := passed_of_exec h
  cases hfound : s.store.tenantFor? process.tenantId (s.store.ownerOf t) with
  | none =>
    -- without a tenant there is no context
    rw [hfound] at h
    obtain ⟨_, s₂, hlog, h⟩ := exec_bind_ok h
    cases hlog
    obtain ⟨-, store, -, h⟩ := exec_order_bind_ok h
    cases h
  | some tenant =>
    rw [hfound] at h
    obtain ⟨context, s₂, hcontext, -⟩ := exec_bind_ok h
    obtain ⟨definition, hdefinition, h⟩ := exec_need_bind_ok hcontext
    have hdefinition : s.store.definition? t.definitionId = some definition := hdefinition
    obtain ⟨hqueue, h⟩ := exec_ask_bind_ok h
    rw [parametersOf_eq] at h
    obtain ⟨params, hparams, -⟩ := exec_need_bind_ok h
    have howner : s.store.ownerOf t = definition.userId := by
      rw [Store.ownerOf, hdefinition]
      rfl
    rw [howner] at hfound
    exact ⟨⟨t, type, node, process, definition, tenant, params, hstored, htype, hnode, hprocess,
      hdefinition, hfound, hparams⟩, hdetail, htenant, hout ▸ hqueue⟩

/-- The context of a task whose ingredients are found takes its resources and its relation. -/
theorem exec_contextOf {store : Store} (i : Ingredients store reference) (r : Resolver)
    (hstore : s.store = store) (hqueue : s.outages .userQueue = none) :
    (r.contextOf i.detail i.type i.node i.process i.tenant).exec s =
      (i.complete r).exec { s with calls := s.calls ++ [.userQueue i.process.id] } := by
  subst hstore
  have hdefinition : i.detail.definition = some i.definition := rfl
  rw [contextOf, exec_need_bind _ hdefinition, exec_ask_bind _ hqueue, i.chooseQueue_eq,
    parametersOf_eq, exec_need_bind _ i.isParameters]
  rfl

/-- Where all ingredients are found, only resources and relation are left to find. -/
theorem exec_of_ingredients (i : Ingredients s.store reference) (r : Resolver)
    (hdetail : s.outages .taskDetail = none) (htenant : s.outages .tenantForProcess = none)
    (hqueue : s.outages .userQueue = none) :
    ∃ s₁ : Session, s₁.store = s.store ∧ s₁.outages = s.outages ∧
      (r.resolve reference).exec s = (some <$> i.complete r).exec s₁ := by
  obtain ⟨s₁, hstore, hout, hrun⟩ :=
    exec_passed (r := r) hdetail htenant i.isTask i.isType i.isNode i.isProcess
  have hfound : s.store.tenantFor? i.process.tenantId (s.store.ownerOf i.task) = some i.tenant := by
    rw [Store.ownerOf, i.isDefinition]
    exact i.isTenant
  rw [hrun, hfound, i.isDefinition]
  refine ⟨{ s₁ with calls := s₁.calls ++ [.userQueue i.process.id] }, hstore, hout, ?_⟩
  show (r.contextOf i.detail i.type i.node i.process i.tenant >>= fun c => pure (some c)).exec s₁ =
    (i.complete r >>= fun c => pure (some c)).exec _
  rw [exec_bind, exec_bind, exec_contextOf i r hstore (hout ▸ hqueue)]

/-- A context is made of what a store holds, with the resources and the relation that were found. -/
theorem context_of_exec (h : (r.resolve reference).exec s = (.ok (some c), s')) :
    ∃ (i : Ingredients s.store reference) (resources : ResourceNames) (relation : Relation)
      (s₁ s₂ s₃ : Session), s₁.store = s.store ∧ s₁.outages = s.outages ∧
        (findResources r.settings.resourcePolicy i.parameters).exec s₁ = (.ok resources, s₂) ∧
        (r.registry.build i.parameters).exec s₂ = (.ok relation, s₃) ∧
        c = i.context r.settings resources relation := by
  obtain ⟨⟨i⟩, hdetail, htenant, hqueue⟩ := ingredients_of_exec h
  obtain ⟨s₁, hstore, hout, hrun⟩ := exec_of_ingredients i r hdetail htenant hqueue
  rw [hrun] at h
  obtain ⟨context, s₄, hcontext, h⟩ := exec_bind_ok h
  cases h
  obtain ⟨resources, s₂, hresources, h⟩ := exec_bind_ok hcontext
  obtain ⟨relation, s₃, hrelation, h⟩ := exec_bind_ok h
  cases h
  exact ⟨i, resources, relation, s₁, s₂, s₃, hstore, hout, hresources, hrelation, rfl⟩

/-- The first group that is named, or the default group; the empty group counts as none. -/
def firstNamed (default : String) (groups : List (Option String)) : String :=
  ((groups.filterMap id).find? (· ≠ "")).getD default

section firstNamed

variable {default group : String} {groups : List (Option String)}

@[simp]
theorem firstNamed_nil : firstNamed default [] = default :=
  rfl

@[simp]
theorem firstNamed_none : firstNamed default (none :: groups) = firstNamed default groups :=
  rfl

@[simp]
theorem firstNamed_empty : firstNamed default (some "" :: groups) = firstNamed default groups := by
  simp [firstNamed]

theorem firstNamed_some (h : group ≠ "") :
    firstNamed default (some group :: groups) = group := by
  simp [firstNamed, h]

/-- A single group gives way to the default group just if it is not named. -/
theorem firstNamed_singleton_eq_iff {node : Option String} :
    firstNamed default [node] = default ↔ ∀ group ∈ node, group ≠ "" → group = default := by
  cases node with
  | none => simp
  | some group =>
    by_cases hempty : group = ""
    · simp [hempty]
    · simp [firstNamed_some hempty, hempty]

end firstNamed

/-- The empty group of a task hides the group of its node. -/
theorem chooseWorkerGroup_eq (task node : Option String) (default : String) :
    chooseWorkerGroup task node default =
      if task = some "" then default else firstNamed default [task, node] := by
  cases task with
  | some group => by_cases hempty : group = "" <;> simp [chooseWorkerGroup, firstNamed_some, hempty]
  | none =>
    cases node with
    | none => rfl
    | some group =>
      by_cases hempty : group = "" <;> simp [chooseWorkerGroup, firstNamed_some, hempty]

/-- **The worker group is the first one that is named by the task, by its node or by the settings,
unless the task names the empty group while its node names another one**: then the group of the node
is hidden, and the default group takes its place. -/
theorem workerGroup_eq_firstNamed_iff (h : ((r.resolve reference).exec s).1 = .ok (some c)) :
    ∃ t node, s.store.task? reference.taskId = some t ∧ TaskNode.ofText? t.nodeText = some node ∧
      (c.workerGroup = firstNamed r.settings.defaultWorkerGroup [t.workerGroup, node.workerGroup] ↔
        ¬(t.workerGroup = some "" ∧ ∃ group, node.workerGroup = some group ∧ group ≠ "" ∧
          group ≠ r.settings.defaultWorkerGroup)) ∧
      (t.workerGroup = some "" → c.workerGroup = r.settings.defaultWorkerGroup) := by
  obtain ⟨i, resources, relation, -, -, -, -, -, -, -, rfl⟩ := context_of_exec (Prod.ext h rfl)
  have hgroup : (i.context r.settings resources relation).workerGroup = _ :=
    chooseWorkerGroup_eq i.task.workerGroup i.node.workerGroup r.settings.defaultWorkerGroup
  refine ⟨i.task, i.node, i.isTask, i.isNode, ?_⟩
  rw [hgroup]
  by_cases hempty : i.task.workerGroup = some ""
  · rw [if_pos hempty, hempty, firstNamed_empty]
    refine ⟨?_, fun _ => rfl⟩
    rw [eq_comm, firstNamed_singleton_eq_iff]
    simp
  · rw [if_neg hempty]
    exact ⟨⟨fun _ hhidden => hempty hhidden.1, fun _ => rfl⟩, fun heq => absurd heq hempty⟩

/-- A task that names the empty group, while its node names another one. -/
def hiddenTask : Task :=
  { shellTask with
    nodeText := "\x7b\"type\":\"SHELL\",\"workerGroup\":\"spark\"\x7d"
    workerGroup := some "" }

/-- The task with what it needs. -/
def hiddenRecords : Snapshot :=
  { untenanted with
    tasks := [hiddenTask]
    definitions := [⟨⟨1⟩, ⟨1⟩, ⟨6⟩, "report", none⟩]
    tenants := [⟨⟨4⟩, "ops", "default"⟩] }

theorem exists_context_hiddenTask : ∃ c,
    (((⟨.standard, .standard⟩ : Resolver).resolve shellReference).exec
      (.fresh (.ofSnapshot hiddenRecords) fun _ => none)).1 = .ok (some c) ∧
        c.workerGroup = "default" := by
  have hgroup : (((⟨.standard, .standard⟩ : Resolver).resolve shellReference).exec
      (.fresh (.ofSnapshot hiddenRecords) fun _ => none)).1.toOption.join.map (·.workerGroup) =
        some "default" := by decide +kernel
  generalize (((⟨.standard, .standard⟩ : Resolver).resolve shellReference).exec
    (.fresh (.ofSnapshot hiddenRecords) fun _ => none)).1 = result at hgroup ⊢
  rcases result with fault | _ | c
  · cases hgroup
  · cases hgroup
  · exact ⟨c, rfl, Option.some.inj hgroup⟩

theorem workerGroup_of_hiddenTask {node : TaskNode}
    (hnode : TaskNode.ofText? hiddenTask.nodeText = some node) : node.workerGroup = some "spark" := by
  have hgroup : (TaskNode.ofText? hiddenTask.nodeText).map (·.workerGroup) = some (some "spark") := by
    decide +kernel
  rw [hnode] at hgroup
  exact Option.some.inj hgroup

/-- The default group takes the place of the one that the node names. -/
theorem workerGroup_eq_firstNamed_hidden : ∃ c,
    (((⟨.standard, .standard⟩ : Resolver).resolve shellReference).exec
      (.fresh (.ofSnapshot hiddenRecords) fun _ => none)).1 = .ok (some c) ∧
        ∃ t node, hiddenRecords.task? ⟨7⟩ = some t ∧ TaskNode.ofText? t.nodeText = some node ∧
          c.workerGroup = "default" ∧
          firstNamed "default" [t.workerGroup, node.workerGroup] = "spark" := by
  obtain ⟨c, hresult, -⟩ := exists_context_hiddenTask
  obtain ⟨t, node, ht, hnode, -, hdefault⟩ := workerGroup_eq_firstNamed_iff hresult
  obtain rfl : hiddenTask = t := Option.some.inj ht
  refine ⟨c, hresult, hiddenTask, node, rfl, hnode, hdefault rfl, ?_⟩
  rw [workerGroup_of_hiddenTask hnode]
  decide

/-- **The worker group is not always the first one that is named**: an empty declaration does not
count like an absent one. -/
theorem empty_group_hides_node : ¬ ∀ (r : Resolver) (records : Snapshot) (reference : Reference)
    (c : Context) (t : Task) (node : TaskNode),
    ((r.resolve reference).exec (.fresh (.ofSnapshot records) fun _ => none)).1 = .ok (some c) →
    records.task? reference.taskId = some t → TaskNode.ofText? t.nodeText = some node →
    c.workerGroup =
      firstNamed r.settings.defaultWorkerGroup [t.workerGroup, node.workerGroup] := by
  intro h
  obtain ⟨c, hresult, hdefault⟩ := exists_context_hiddenTask
  obtain ⟨node, hnode⟩ := Option.isSome_iff_exists.1
    (by decide +kernel : (TaskNode.ofText? hiddenTask.nodeText).isSome)
  have hfirst := h _ hiddenRecords shellReference c hiddenTask node hresult rfl hnode
  rw [hdefault, workerGroup_of_hiddenTask hnode] at hfirst
  revert hfirst
  decide

end Resolver

end Handoff
