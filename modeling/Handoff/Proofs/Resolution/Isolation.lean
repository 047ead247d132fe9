import Handoff.Proofs.Resolution.Atomic
import Handoff.Proofs.Session.Twins
import Handoff.Proofs.Store.Records
/-!
# Tasks are isolated from each other's records

What a resolution comes to depends on a few records only: the task, its process and definition, the
users and the tenant they lead to, and what the parameters of the task name. All other records, those
of other tasks and tenants among them, make no difference.

* `Parameters.dataSourceIds`, `Parameters.udfIds`: what parameters name.
* `Snapshot.AgreeFor`: two snapshots agree on the records that a reference leads to.
* `Resolver.resolve_isolated`: **a resolution comes to the same in both**, provided that nobody's
  user is the same in both where nobody owns the task.
* `Resolver.nobody_decides`: where nobody owns the task, nobody's user decides.
-/

namespace Handoff

/-! ## What a task refers to -/

/-- The data sources that parameters name. -/
def Parameters.dataSourceIds : Parameters → List DataSourceId
  | .sql p => [p.dataSource]
  | .procedure p => [p.dataSource]
  | .datax p => [p.source, p.target]
  | _ => []

/-- The functions that parameters list. -/
def Parameters.udfIds : Parameters → List UdfId
  | .sql p =>
    match udfListOf p with
    | some list => (readUdfIds list).toOption.getD []
    | none => []
  | _ => []

/-- The parameters of a task, if its type is known and they can be read. -/
def Task.parameters? (t : Task) : Option Parameters := do
  let type ← TaskType.ofTag? t.typeTag
  let node ← TaskNode.ofText? t.nodeText
  let value ← node.paramsValue?
  Parameters.ofValue? type value

namespace Snapshot

/-- The owner of a task: of the definition that it names, or nobody. -/
def ownerOf (s : Snapshot) (t : Task) : UserId :=
  ((s.definition? t.definitionId).map (·.userId)).getD ⟨0⟩

/-- The tenant that is selected for a process: its own, or for a negative id that of the owner. -/
def selectedTenant? (s : Snapshot) (process : ProcessRun) (owner : UserId) : Option TenantId :=
  if 0 ≤ process.tenantId.toInt then some process.tenantId
  else (s.user? owner).map (·.tenantId)

/-- The records that a task leads to are the same in both snapshots. -/
@[mk_iff]
structure AgreeOn (t : Task) (s s' : Snapshot) : Prop where
  process : s.process? t.processId = s'.process? t.processId
  definition : s.definition? t.definitionId = s'.definition? t.definitionId
  owner : ∀ definition ∈ s.definition? t.definitionId,
    s.user? definition.userId = s'.user? definition.userId
  executor : ∀ process ∈ s.process? t.processId,
    s.user? process.executorId = s'.user? process.executorId
  tenant : ∀ process ∈ s.process? t.processId,
    ∀ tenant ∈ s.selectedTenant? process (s.ownerOf t), s.tenant? tenant = s'.tenant? tenant
  dataSources : ∀ p ∈ t.parameters?, ∀ id ∈ p.dataSourceIds, s.dataSource? id = s'.dataSource? id
  udfs : ∀ p ∈ t.parameters?, s.udfs.filter (fun u => p.udfIds.contains u.id) =
    s'.udfs.filter fun u => p.udfIds.contains u.id
  resources : ∀ p ∈ t.parameters?, s.resources.filter (fun r => p.resourceIds.contains r.id) =
    s'.resources.filter fun r => p.resourceIds.contains r.id

/-- The records that a reference leads to are the same in both snapshots. -/
@[mk_iff]
structure AgreeFor (reference : Reference) (s s' : Snapshot) : Prop where
  task : s.task? reference.taskId = s'.task? reference.taskId
  rest : ∀ t ∈ s.task? reference.taskId, AgreeOn t s s'

instance (t : Task) (s s' : Snapshot) : Decidable (AgreeOn t s s') :=
  decidable_of_iff' _ (agreeOn_iff t s s')

instance (reference : Reference) (s s' : Snapshot) : Decidable (AgreeFor reference s s') :=
  decidable_of_iff' _ (agreeFor_iff reference s s')

/-- Where nobody owns the task of a reference, and its process has no tenant of its own, nobody's user
is the same in both snapshots. -/
def AgreeOnNobody (reference : Reference) (s s' : Snapshot) : Prop :=
  ∀ t ∈ s.task? reference.taskId, ∀ process ∈ s.process? t.processId,
    s.definition? t.definitionId = none → process.tenantId.toInt < 0 → s.user? ⟨0⟩ = s'.user? ⟨0⟩

instance (reference : Reference) (s s' : Snapshot) : Decidable (AgreeOnNobody reference s s') :=
  inferInstanceAs (Decidable (∀ _ ∈ _, ∀ _ ∈ _, _ → _ → _))

end Snapshot

open Resolving

variable {a b : Store} {s s' : Snapshot} {t : Task}

/-! ## Resources and relations -/

theorem mem_insertId {kind : IdKind} {id x : Id kind} {ids : List (Id kind)} :
    x ∈ insertId id ids ↔ x = id ∨ x ∈ ids := by
  induction ids with
  | nil => simp [insertId]
  | cons y ys ih =>
    unfold insertId
    split
    · rename_i heq
      simp [heq]
    · split
      · simp
      · simp [ih, or_left_comm]

/-- Putting ids in order loses none. -/
theorem mem_ascending {kind : IdKind} {x : Id kind} {ids : List (Id kind)} :
    x ∈ ascending ids ↔ x ∈ ids := by
  induction ids with
  | nil => rfl
  | cons y ys ih => rw [ascending, mem_insertId, ih, List.mem_cons]

theorem twins_findResources (policy : ResourcePolicy) {p : Parameters}
    (h : a.resources.filter (fun r => p.resourceIds.contains r.id) =
      b.resources.filter fun r => p.resourceIds.contains r.id) :
    Twins a b (findResources policy p) := by
  have hfound : a.resourcesOf (ascending p.resourceIds) =
      b.resourcesOf (ascending p.resourceIds) := by
    have hcontains : ∀ id, (ascending p.resourceIds).contains id = p.resourceIds.contains id := by
      intro id
      rw [Bool.eq_iff_iff, List.contains_iff_mem, List.contains_iff_mem, mem_ascending]
    simp only [Store.resourcesOf, hcontains]
    exact h
  unfold findResources
  simp only
  split
  · exact twins_pure _
  · refine twins_ask_bind hfound ?_
    split
    · cases policy with
      | strict => exact twins_throw _
      | lenient => exact twins_bind (R := Eq) (.log _) (twins_log _) fun _ => twins_pure _
    · exact twins_pure _

theorem twins_needDataSource {id : DataSourceId} (h : a.dataSource? id = b.dataSource? id) :
    Twins a b (needDataSource id) := by
  refine twins_ask_bind h ?_
  cases a.dataSource? id with
  | none => exact twins_throw _
  | some source => exact twins_pure _

theorem twins_findUdfs {p : SqlParameters}
    (h : a.udfs.filter (fun u => (Parameters.sql p).udfIds.contains u.id) =
      b.udfs.filter fun u => (Parameters.sql p).udfIds.contains u.id) :
    Twins a b (findUdfs p) := by
  simp only [Parameters.udfIds] at h
  unfold findUdfs
  cases hlist : udfListOf p with
  | none => exact twins_pure _
  | some list =>
    rw [hlist] at h
    dsimp only at h ⊢
    cases hids : readUdfIds list with
    | error fault => exact twins_throw fault
    | ok ids =>
      rw [hids] at h
      show Twins a b (ask (.udfsByIds ids) fun s => s.udfsOf ids)
      exact twins_ask _ h

theorem twins_build {p : Parameters}
    (hsources : ∀ id ∈ p.dataSourceIds, a.dataSource? id = b.dataSource? id)
    (hudfs : a.udfs.filter (fun u => p.udfIds.contains u.id) =
      b.udfs.filter fun u => p.udfIds.contains u.id) :
    Twins a b (Registry.standard.build p) := by
  cases p with
  | sql p =>
    show Twins a b (buildSql (.sql p))
    have hsource := twins_needDataSource (hsources p.dataSource (List.mem_singleton_self _))
    refine twins_bind (reads_needDataSource _) hsource fun source => ?_
    exact twins_bind (reads_findUdfs _) (twins_findUdfs hudfs) fun udfs => twins_pure _
  | datax p =>
    show Twins a b (buildTransfer (.datax p))
    have hsource := twins_needDataSource (hsources p.source (by simp [Parameters.dataSourceIds]))
    have htarget := twins_needDataSource (hsources p.target (by simp [Parameters.dataSourceIds]))
    refine twins_bind (reads_needDataSource _) hsource fun source => ?_
    exact twins_bind (reads_needDataSource _) htarget fun target => twins_pure _
  | procedure p =>
    show Twins a b (buildProcedure (.procedure p))
    have hsource := twins_needDataSource (hsources p.dataSource (List.mem_singleton_self _))
    exact twins_bind (reads_needDataSource _) hsource fun source => twins_pure _
  | plain type value =>
    cases type <;> exact twins_pure _
  | shell | python | spark | flink | mapReduce => exact twins_pure _

/-! ## Look-ups in stores that agree -/

namespace Store

theorem detail?_ofSnapshot (s : Snapshot) (id : TaskId) :
    (ofSnapshot s).detail? id = (s.task? id).map fun t =>
      { t with process := s.process? t.processId, definition := s.definition? t.definitionId } := by
  unfold detail?
  simp only [task?_ofSnapshot, process?_ofSnapshot, definition?_ofSnapshot]

theorem tenantFor?_ofSnapshot (s : Snapshot) (process : ProcessRun) (owner : UserId) :
    (ofSnapshot s).tenantFor? process.tenantId owner =
      (s.selectedTenant? process owner).bind s.tenant? := by
  unfold tenantFor? Snapshot.selectedTenant?
  simp only [tenant?_ofSnapshot, user?_ofSnapshot]
  split
  · rfl
  · cases s.user? owner <;> rfl

theorem userQueue?_ofSnapshot (s : Snapshot) (id : ProcessId) :
    (ofSnapshot s).userQueue? id =
      (s.process? id).bind fun p => (s.user? p.executorId).bind (·.queue) := by
  unfold userQueue?
  simp only [process?_ofSnapshot, user?_ofSnapshot]

theorem any_ofSnapshot (s : Snapshot) (id : TaskId) :
    ((ofSnapshot s).tasks.any fun t => t.id = id) = (s.task? id).isSome := by
  rw [← List.isSome_find?]
  exact congrArg Option.isSome (task?_ofSnapshot s id)

end Store

namespace Resolver

theorem parametersOf_eq (type : TaskType) (node : TaskNode) :
    parametersOf type node =
      need (.invalidParameters type) (node.paramsValue?.bind (Parameters.ofValue? type)) := by
  unfold parametersOf
  cases node.paramsValue? <;> rfl

variable {settings : Settings} {reference : Reference}

/-- The context of a task that has a tenant is the same in both. -/
theorem twins_contextOf {task : Task} (h : s.AgreeOn t s') {type : TaskType} {node : TaskNode}
    {process : ProcessRun} (htype : TaskType.ofTag? t.typeTag = some type)
    (hnode : TaskNode.ofText? t.nodeText = some node)
    (hprocess : s.process? t.processId = some process) (tenant : Tenant) :
    Twins (.ofSnapshot s) (.ofSnapshot s')
      ((⟨.standard, settings⟩ : Resolver).contextOf task type node process tenant) := by
  have hid : process.id = t.processId := key_of_last? hprocess
  -- the queue is that of the executor, whom the process names
  have hqueue : (Store.ofSnapshot s).userQueue? process.id =
      (Store.ofSnapshot s').userQueue? process.id := by
    rw [Store.userQueue?_ofSnapshot, Store.userQueue?_ofSnapshot, hid, ← h.process, hprocess]
    show (s.user? process.executorId).bind _ = (s'.user? process.executorId).bind _
    rw [h.executor process hprocess]
  refine twins_need_bind fun definition _ => ?_
  refine twins_ask_bind hqueue ?_
  rw [parametersOf_eq]
  refine twins_need_bind fun p hp => ?_
  -- from here on the parameters tell what is looked up
  have hparameters : t.parameters? = some p := by
    rw [Task.parameters?, htype, hnode]
    exact hp
  have hsources : ∀ id ∈ p.dataSourceIds,
      (Store.ofSnapshot s).dataSource? id = (Store.ofSnapshot s').dataSource? id := by
    intro id hmem
    rw [Store.dataSource?_ofSnapshot, Store.dataSource?_ofSnapshot]
    exact h.dataSources p hparameters id hmem
  refine twins_bind (reads_findResources _ _) (twins_findResources _ (h.resources p hparameters))
    fun resources => ?_
  refine twins_bind (reads_build builtIn_standard _) (twins_build hsources (h.udfs p hparameters))
    fun relation => ?_
  exact twins_bind (R := Eq) (.log _) (twins_log _) fun _ => twins_ofExcept _

/-- The same tenant is found in both. -/
theorem tenantFor?_eq (h : s.AgreeOn t s') {process : ProcessRun}
    (hprocess : s.process? t.processId = some process)
    (hnobody : s.definition? t.definitionId = none → process.tenantId.toInt < 0 →
      s.user? ⟨0⟩ = s'.user? ⟨0⟩) :
    (Store.ofSnapshot s).tenantFor? process.tenantId (s.ownerOf t) =
      (Store.ofSnapshot s').tenantFor? process.tenantId (s.ownerOf t) := by
  have howner : process.tenantId.toInt < 0 →
      s.user? (s.ownerOf t) = s'.user? (s.ownerOf t) := by
    intro hnegative
    unfold Snapshot.ownerOf
    cases hdefinition : s.definition? t.definitionId with
    | none => exact hnobody hdefinition hnegative
    | some definition => exact h.owner definition hdefinition
  have hselected : s.selectedTenant? process (s.ownerOf t) =
      s'.selectedTenant? process (s.ownerOf t) := by
    unfold Snapshot.selectedTenant?
    by_cases hown : 0 ≤ process.tenantId.toInt
    · rw [if_pos hown, if_pos hown]
    · rw [if_neg hown, if_neg hown, howner (by omega)]
  rw [Store.tenantFor?_ofSnapshot, Store.tenantFor?_ofSnapshot, ← hselected]
  cases htenant : s.selectedTenant? process (s.ownerOf t) with
  | none => rfl
  | some tenant => exact h.tenant process hprocess tenant htenant

theorem twins_resolve (h : s.AgreeFor reference s')
    (hnobody : s.AgreeOnNobody reference s') :
    Twins (.ofSnapshot s) (.ofSnapshot s')
      ((⟨.standard, settings⟩ : Resolver).resolve reference) := by
  have hdetail : (Store.ofSnapshot s).detail? reference.taskId =
      (Store.ofSnapshot s').detail? reference.taskId := by
    rw [Store.detail?_ofSnapshot, Store.detail?_ofSnapshot, ← h.task]
    cases ht : s.task? reference.taskId with
    | none => rfl
    | some t =>
      have hrest := h.rest t ht
      rw [Option.map_some, Option.map_some, hrest.process, hrest.definition]
  rw [resolve_eq]
  refine twins_ask_bind hdetail ?_
  rw [Store.detail?_ofSnapshot]
  refine twins_need_bind fun task htask => ?_
  obtain ⟨t, ht, rfl⟩ := Option.map_eq_some_iff.1 htask
  have hrest := h.rest t ht
  refine twins_need_bind fun type htype => ?_
  refine twins_need_bind fun node hnode => ?_
  refine twins_need_bind fun process hprocess => ?_
  -- the owner is found in the details of the task, which come from both stores alike
  have howner : ownerOf { t with
      process := s.process? t.processId, definition := s.definition? t.definitionId } =
        s.ownerOf t := by
    unfold ownerOf Snapshot.ownerOf
    cases s.definition? t.definitionId <;> rfl
  rw [howner]
  refine twins_ask_bind (tenantFor?_eq hrest hprocess (hnobody t ht process hprocess)) ?_
  split
  · -- no tenant: the task is marked as failed in both
    have hid : t.id = reference.taskId := key_of_last? ht
    refine twins_bind (R := Eq) (.log _) (twins_log _) fun _ => twins_order _ _ ?_
    show ((Store.ofSnapshot s).tasks.any fun u => u.id = t.id) =
      (Store.ofSnapshot s').tasks.any fun u => u.id = t.id
    rw [Store.any_ofSnapshot, Store.any_ofSnapshot, hid, h.task]
  · exact twins_bind (reads_contextOf builtIn_standard _ _ _ _ _)
      (twins_contextOf hrest htype hnode hprocess _) fun _ => twins_pure _

/-- **A resolution comes to the same from snapshots that agree on the records that its reference
leads to**: to the same result, by the same calls, and with the same changes of states. Where nobody
owns the task and its process has no tenant of its own, nobody's user has to be the same, too. -/
theorem resolve_isolated (settings : Settings) (reference : Reference) (outages : Outages)
    (h : s.AgreeFor reference s')
    (hnobody : s.AgreeOnNobody reference s') :
    let run := fun records : Snapshot =>
      ((⟨.standard, settings⟩ : Resolver).resolve reference).exec
        (.fresh (.ofSnapshot records) outages)
    (run s).1 = (run s').1 ∧ (run s).2.calls = (run s').2.calls ∧
      (run s).2.store.changes = (run s').2.store.changes := by
  intro run
  have htwins : Twins (.ofSnapshot s) (.ofSnapshot s')
      ((⟨.standard, settings⟩ : Resolver).resolve reference) := twins_resolve h hnobody
  have hfresh : ∀ records : Snapshot,
      (Session.fresh (.ofSnapshot records) outages).store = .ofSnapshot records := fun _ => rfl
  obtain ⟨hresult, hcalls, changes, hs, hs'⟩ := htwins (hfresh s) (hfresh s') rfl rfl
  exact ⟨hresult, hcalls, hs.trans hs'.symm⟩

/-- A SQL task that names a data source and a function. -/
def sqlTask : Task :=
  { shellTask with
    typeTag := "SQL"
    nodeText := "\x7b\"type\":\"SQL\",\"params\":\x7b\"type\":\"HIVE\",\"datasource\":3,\"udfs\":\"2\"\x7d\x7d" }

/-- The task with what it needs. -/
def sqlRecords : Snapshot :=
  { Snapshot.empty with
    tasks := [sqlTask]
    processes := [⟨⟨1⟩, ⟨1⟩, ⟨-1⟩, ⟨5⟩, .standard, none, none, none⟩]
    definitions := [⟨⟨1⟩, ⟨1⟩, ⟨6⟩, "report", none⟩]
    tenants := [⟨⟨4⟩, "ops", "default"⟩]
    users := [⟨⟨6⟩, "owner", ⟨4⟩, none⟩]
    dataSources := [⟨⟨3⟩, "facts", .hive, "jdbc:hive2://facts"⟩]
    udfs := [⟨⟨2⟩, "norm", "Norm", .hive, none⟩] }

/-- The same among records of others. -/
def crowdedRecords : Snapshot :=
  { sqlRecords with
    tasks := [shellTask, sqlTask, { shellTask with id := ⟨8⟩ }]
    tenants := [⟨⟨5⟩, "dev", "slow"⟩, ⟨⟨4⟩, "ops", "default"⟩]
    users := [⟨⟨6⟩, "owner", ⟨4⟩, none⟩, ⟨⟨0⟩, "nobody", ⟨5⟩, none⟩]
    dataSources := [⟨⟨3⟩, "facts", .hive, "jdbc:hive2://facts"⟩, ⟨⟨9⟩, "drafts", .hive, ""⟩]
    udfs := [⟨⟨1⟩, "trim", "Trim", .hive, none⟩, ⟨⟨2⟩, "norm", "Norm", .hive, none⟩]
    resources := [⟨⟨5⟩, "/lib.jar", false⟩] }

/-- The records of others make no difference to the task. -/
theorem resolve_isolated_crowded :
    let run := fun records : Snapshot =>
      ((⟨.standard, .standard⟩ : Resolver).resolve shellReference).exec
        (.fresh (.ofSnapshot records) fun _ => none)
    sqlRecords.AgreeFor shellReference crowdedRecords ∧
      sqlRecords.AgreeOnNobody shellReference crowdedRecords ∧
      (run sqlRecords).1 = (run crowdedRecords).1 ∧
      (run sqlRecords).2.calls = (run crowdedRecords).2.calls ∧
      (run sqlRecords).2.store.changes = (run crowdedRecords).2.store.changes := by
  have h : sqlRecords.AgreeFor shellReference crowdedRecords := by decide +kernel
  have hnobody : sqlRecords.AgreeOnNobody shellReference crowdedRecords := by decide +kernel
  exact ⟨h, hnobody, resolve_isolated .standard shellReference (fun _ => none) h hnobody⟩

/-- A task of a process that has no tenant of its own and whose definition does not exist. -/
def ownerless : Snapshot :=
  { Snapshot.empty with
    tasks := [shellTask]
    processes := [⟨⟨1⟩, ⟨1⟩, ⟨-1⟩, ⟨1⟩, .standard, none, none, none⟩]
    tenants := [⟨⟨4⟩, "ops", "default"⟩] }

/-- The same, and nobody's user. -/
def ownedByNobody : Snapshot :=
  { ownerless with users := [⟨⟨0⟩, "nobody", ⟨4⟩, none⟩] }

/-- Where nobody owns the task, nobody's user decides, which is none of the records that the
reference leads to. -/
theorem nobody_decides :
    let run := fun records : Snapshot =>
      ((⟨.standard, .standard⟩ : Resolver).resolve shellReference).exec
        (.fresh (.ofSnapshot records) fun _ => none)
    ownedByNobody.AgreeFor shellReference ownerless ∧
      ownerless.AgreeFor shellReference ownedByNobody ∧
      (run ownedByNobody).1 = .error (.noDefinition ⟨1⟩) ∧ (run ownerless).1 = .ok none ∧
      (run ownedByNobody).2.store.changes ≠ (run ownerless).2.store.changes := by
  decide +kernel

end Resolver

end Handoff
