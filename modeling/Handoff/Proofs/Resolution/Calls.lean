import Handoff.Proofs.Resolution.Resources
import Handoff.Proofs.Session.Trail
/-!
# The calls of a resolution

Which calls a resolution makes is settled by the records that its reference leads to. It makes them
in one order, and stops where a call fails, or where an answer leaves nothing to go on with.

* `Store.Leads`: the calls that a reference leads to, in order; `Store.exists_leads_iff`: there is one
  such order.
* `Store.Spoils`: the faults that a call has to answer for.
* `Resolver.follows_resolve`: with every method up, a resolution makes the calls in this order.
* `Resolver.resolve_calls`: **the calls of a resolution are those that its reference leads to, or the
  part of them up to the call that has failed or has to answer for the fault.** The one call that
  writes comes last.
-/

namespace Handoff

open Resolving Text

/-! ## What a reference leads to -/

namespace Parameters

/-- The look-up of resources: one call for all that parameters refer to, each once and in ascending
order, or none if they refer to nothing. -/
inductive AsksForResources (p : Parameters) : List Call → Prop where
  | nothing (hnone : ∀ id, ¬p.Refers id) : AsksForResources p []
  | all {ids : List ResourceId} (hne : ids ≠ []) (hsorted : ids.Pairwise (·.toInt < ·.toInt))
    (hids : ∀ id, id ∈ ids ↔ p.Refers id) : AsksForResources p [.resourcesByIds ids]

/-- The look-up of functions: one call for the ids that a list denotes, or none if there is no list
or it denotes no ids. -/
inductive AsksForUdfs : Parameters → List Call → Prop where
  | nothing {p : Parameters}
    (hnone : ∀ q list ids, p = .sql q → q.Lists list → ¬UdfList.Denotes list ids) :
    AsksForUdfs p []
  | all {q : SqlParameters} {list : List Char} {ids : List UdfId} (hlist : q.Lists list)
    (hids : UdfList.Denotes list ids) : AsksForUdfs (.sql q) [.udfsByIds ids]

end Parameters

/-- The look-ups for the parameters of a task: of resources, of data sources, and of functions. -/
inductive Task.LooksUp (t : Task) : List Call → Prop where
  | nothing (hparameters : t.parameters? = none) : LooksUp t []
  | all {p : Parameters} {resources udfs : List Call} (hparameters : t.parameters? = some p)
    (hresources : p.AsksForResources resources) (hudfs : p.AsksForUdfs udfs) :
    LooksUp t (resources ++ (p.dataSourceIds.map .findDataSource ++ udfs))

namespace Store

/-- The calls that a reference leads to, in order: for the details of its task, and then for the tenant
of the process. A task without a tenant is marked as failed; with one, the queue and what its
parameters name are looked up. -/
inductive Leads (s : Store) (id : TaskId) : List Call → Prop where
  | noTask (ht : s.task? id = none) : Leads s id [.taskDetail id]
  | noProcess {t : Task} (ht : s.task? id = some t) (hprocess : s.process? t.processId = none) :
    Leads s id [.taskDetail id]
  | noTenant {t : Task} {process : ProcessRun} (ht : s.task? id = some t)
    (hprocess : s.process? t.processId = some process)
    (htenant : s.tenantFor? process.tenantId (s.ownerOf t) = none) :
    Leads s id [.taskDetail id, .tenantForProcess process.tenantId (s.ownerOf t),
      .changeTaskState (.failure t)]
  | tenant {t : Task} {process : ProcessRun} {tenant : Tenant} {lookUps : List Call}
    (ht : s.task? id = some t) (hprocess : s.process? t.processId = some process)
    (htenant : s.tenantFor? process.tenantId (s.ownerOf t) = some tenant)
    (hlookUps : t.LooksUp lookUps) :
    Leads s id (.taskDetail id :: .tenantForProcess process.tenantId (s.ownerOf t) ::
      .userQueue process.id :: lookUps)

/-- The task has a tenant and these parameters. -/
def Tenanted (s : Store) (id : TaskId) (p : Parameters) : Prop :=
  ∃ t process, s.task? id = some t ∧ s.process? t.processId = some process ∧
    (s.tenantFor? process.tenantId (s.ownerOf t)).isSome ∧ t.parameters? = some p

/-- The faults that a call has to answer for: with its answer, or with what is read next, nothing is
left to go on with. -/
inductive Spoils (s : Store) (policy : ResourcePolicy) (id : TaskId) : Call → Fault → Prop where
  | noTask (ht : s.task? id = none) : Spoils s policy id (.taskDetail id) (.taskNotFound id)
  | unknownType {t : Task} (ht : s.task? id = some t) (htype : TaskType.ofTag? t.typeTag = none) :
    Spoils s policy id (.taskDetail id) (.unknownTaskType t.typeTag)
  | invalidNode {t : Task} (ht : s.task? id = some t) (hnode : TaskNode.ofText? t.nodeText = none) :
    Spoils s policy id (.taskDetail id) (.invalidTaskNode t.id)
  | noProcess {t : Task} (ht : s.task? id = some t) (hprocess : s.process? t.processId = none) :
    Spoils s policy id (.taskDetail id) (.noProcess t.id)
  | noDefinition {t : Task} {process : ProcessRun} (ht : s.task? id = some t)
    (hprocess : s.process? t.processId = some process)
    (hdefinition : s.definition? t.definitionId = none)
    (htenant : (s.tenantFor? process.tenantId (s.ownerOf t)).isSome) :
    Spoils s policy id (.tenantForProcess process.tenantId (s.ownerOf t)) (.noDefinition process.id)
  | invalidParameters {t : Task} {process : ProcessRun} {type : TaskType} (ht : s.task? id = some t)
    (hprocess : s.process? t.processId = some process)
    (htype : TaskType.ofTag? t.typeTag = some type) (hparameters : t.parameters? = none) :
    Spoils s policy id (.userQueue process.id) (.invalidParameters type)
  | missingResources {t : Task} {p : Parameters} {asked missing : List ResourceId}
    (ht : s.task? id = some t) (hparameters : t.parameters? = some p)
    (hasked : p.AsksForResources [.resourcesByIds asked])
    (hmissing : s.Finds policy p (.error (.missingResources missing))) :
    Spoils s policy id (.resourcesByIds asked) (.missingResources missing)
  | noDataSource {source : DataSourceId} (hsource : s.dataSource? source = none) :
    Spoils s policy id (.findDataSource source) (.dataSourceNotFound source)
  | invalidUdfs {t : Task} {p : SqlParameters} {list : List Char} {fault : Fault}
    (ht : s.task? id = some t) (hparameters : t.parameters? = some (.sql p))
    (hlist : p.Lists list) (hread : readUdfIds list = .error fault) :
    Spoils s policy id (.findDataSource p.dataSource) fault

end Store

/-! ## One order of calls -/

namespace Parameters

variable {p : Parameters} {call : Call} {plan plan' : List Call}

theorem asksForResources_iff {ids : List ResourceId} :
    p.AsksForResources [.resourcesByIds ids] ↔
      ids ≠ [] ∧ ids.Pairwise (·.toInt < ·.toInt) ∧ ∀ id, id ∈ ids ↔ p.Refers id := by
  constructor
  · intro h
    cases h with
    | all hne hsorted hids => exact ⟨hne, hsorted, hids⟩
  · rintro ⟨hne, hsorted, hids⟩
    exact .all hne hsorted hids

theorem asksForUdfs_iff {ids : List UdfId} :
    p.AsksForUdfs [.udfsByIds ids] ↔
      ∃ q list, p = .sql q ∧ q.Lists list ∧ UdfList.Denotes list ids := by
  constructor
  · intro h
    cases h with
    | all hlist hids => exact ⟨_, _, rfl, hlist, hids⟩
  · rintro ⟨q, list, rfl, hlist, hids⟩
    exact .all hlist hids

/-- The ids that are asked for are those that are referred to, put in order. -/
theorem ascending_of_refers {ids : List ResourceId} (hsorted : ids.Pairwise (·.toInt < ·.toInt))
    (hids : ∀ id, id ∈ ids ↔ p.Refers id) : ids = ascending p.resourceIds := by
  refine eq_of_pairwise_lt hsorted (ascending_pairwise _) fun id => ?_
  rw [hids, mem_ascending_resourceIds]

theorem AsksForResources.unique (h : p.AsksForResources plan) (h' : p.AsksForResources plan') :
    plan = plan' := by
  have hsome : ∀ {ids : List ResourceId}, ids ≠ [] → (∀ id, id ∈ ids ↔ p.Refers id) →
      ∃ id, p.Refers id := by
    intro ids hne hids
    obtain ⟨id, hid⟩ := List.exists_mem_of_ne_nil ids hne
    exact ⟨id, (hids id).1 hid⟩
  cases h with
  | nothing hnone =>
    cases h' with
    | nothing => rfl
    | all hne _ hids =>
      obtain ⟨id, hid⟩ := hsome hne hids
      exact absurd hid (hnone id)
  | all hne hsorted hids =>
    cases h' with
    | nothing hnone =>
      obtain ⟨id, hid⟩ := hsome hne hids
      exact absurd hid (hnone id)
    | all _ hsorted' hids' =>
      rw [ascending_of_refers hsorted hids, ascending_of_refers hsorted' hids']

theorem exists_asksForResources (p : Parameters) : ∃ plan, p.AsksForResources plan := by
  by_cases hnone : p.resourceIds = []
  · exact ⟨_, .nothing (resourceIds_eq_nil_iff.1 hnone)⟩
  · exact ⟨_, .all (mt ascending_eq_nil_iff.1 hnone) (ascending_pairwise _)
      fun _ => mem_ascending_resourceIds⟩

theorem AsksForResources.mem_iff (h : p.AsksForResources plan) :
    call ∈ plan ↔ ∃ ids, p.AsksForResources [.resourcesByIds ids] ∧ call = .resourcesByIds ids := by
  constructor
  · intro hcall
    cases h with
    | nothing => cases hcall
    | all hne hsorted hids => exact ⟨_, .all hne hsorted hids, List.mem_singleton.1 hcall⟩
  · rintro ⟨ids, hids, rfl⟩
    rw [h.unique hids]
    exact List.mem_singleton_self _

theorem AsksForUdfs.unique (h : p.AsksForUdfs plan) (h' : p.AsksForUdfs plan') : plan = plan' := by
  cases h with
  | nothing hnone =>
    cases h' with
    | nothing => rfl
    | all hlist hids => exact absurd hids (hnone _ _ _ rfl hlist)
  | all hlist hids =>
    cases h' with
    | nothing hnone => exact absurd hids (hnone _ _ _ rfl hlist)
    | all hlist' hids' =>
      -- there is one list, and it denotes the ids as which it is read
      have hsame := (SqlParameters.lists_iff.1 hlist).symm.trans (SqlParameters.lists_iff.1 hlist')
      obtain rfl := Option.some.inj hsame
      have hread := (UdfList.readUdfIds_eq_ok_iff.2 hids).symm.trans
        (UdfList.readUdfIds_eq_ok_iff.2 hids')
      rw [Except.ok.inj hread]

/-- Only SQL parameters ask for functions. -/
theorem AsksForUdfs.eq_nil (h : p.AsksForUdfs plan) (hp : ∀ q, p ≠ .sql q) : plan = [] := by
  cases h with
  | nothing => rfl
  | all => exact absurd rfl (hp _)

theorem exists_asksForUdfs (p : Parameters) : ∃ plan, p.AsksForUdfs plan := by
  by_cases hids : ∃ q list ids, p = .sql q ∧ q.Lists list ∧ UdfList.Denotes list ids
  · obtain ⟨q, list, ids, rfl, hlist, hids⟩ := hids
    exact ⟨_, .all hlist hids⟩
  · exact ⟨_, .nothing fun q list ids hp hlist h => hids ⟨q, list, ids, hp, hlist, h⟩⟩

theorem AsksForUdfs.mem_iff (h : p.AsksForUdfs plan) :
    call ∈ plan ↔ ∃ ids, p.AsksForUdfs [.udfsByIds ids] ∧ call = .udfsByIds ids := by
  constructor
  · intro hcall
    cases h with
    | nothing => cases hcall
    | all hlist hids => exact ⟨_, .all hlist hids, List.mem_singleton.1 hcall⟩
  · rintro ⟨ids, hids, rfl⟩
    rw [h.unique hids]
    exact List.mem_singleton_self _

end Parameters

namespace Task

variable {t : Task} {call : Call} {plan plan' : List Call}

theorem LooksUp.unique (h : t.LooksUp plan) (h' : t.LooksUp plan') : plan = plan' := by
  cases h with
  | nothing hparameters =>
    cases h' with
    | nothing => rfl
    | all hparameters' => cases hparameters.symm.trans hparameters'
  | all hparameters hresources hudfs =>
    cases h' with
    | nothing hparameters' => cases hparameters.symm.trans hparameters'
    | all hparameters' hresources' hudfs' =>
      obtain rfl := Option.some.inj (hparameters.symm.trans hparameters')
      rw [hresources.unique hresources', hudfs.unique hudfs']

theorem exists_looksUp (t : Task) : ∃ plan, t.LooksUp plan := by
  cases hparameters : t.parameters? with
  | none => exact ⟨_, .nothing hparameters⟩
  | some p =>
    obtain ⟨resources, hresources⟩ := p.exists_asksForResources
    obtain ⟨udfs, hudfs⟩ := p.exists_asksForUdfs
    exact ⟨_, .all hparameters hresources hudfs⟩

/-- The look-ups for parameters, one by one. -/
theorem LooksUp.mem_iff (h : t.LooksUp plan) : call ∈ plan ↔ ∃ p, t.parameters? = some p ∧
    ((∃ ids, p.AsksForResources [.resourcesByIds ids] ∧ call = .resourcesByIds ids) ∨
      (∃ source ∈ p.dataSourceIds, call = .findDataSource source) ∨
      ∃ ids, p.AsksForUdfs [.udfsByIds ids] ∧ call = .udfsByIds ids) := by
  cases h with
  | nothing hparameters => simp [hparameters]
  | all hparameters hresources hudfs =>
    rw [List.mem_append, List.mem_append, hresources.mem_iff, hudfs.mem_iff]
    simp [hparameters, eq_comm]

end Task

namespace Store

variable {s : Store} {id : TaskId} {call : Call} {plan plan' : List Call}

/-- A reference leads to one order of calls at most. -/
theorem Leads.unique (h : s.Leads id plan) (h' : s.Leads id plan') : plan = plan' := by
  cases h with
  | tenant ht hprocess htenant hlookUps =>
    cases h' with
    | tenant ht' hprocess' htenant' hlookUps' =>
      obtain rfl := Option.some.inj (ht.symm.trans ht')
      obtain rfl := Option.some.inj (hprocess.symm.trans hprocess')
      rw [hlookUps.unique hlookUps']
    | _ => simp_all
  | _ => cases h' <;> simp_all

/-- A reference leads to one order of calls. -/
theorem exists_leads_iff (s : Store) (id : TaskId) :
    ∃ plan, ∀ plan', s.Leads id plan' ↔ plan' = plan := by
  suffices h : ∃ plan, s.Leads id plan by
    obtain ⟨plan, hplan⟩ := h
    refine ⟨plan, fun plan' => ⟨fun hplan' => hplan'.unique hplan, ?_⟩⟩
    rintro rfl
    exact hplan
  cases ht : s.task? id with
  | none => exact ⟨_, .noTask ht⟩
  | some t =>
    cases hprocess : s.process? t.processId with
    | none => exact ⟨_, .noProcess ht hprocess⟩
    | some process =>
      cases htenant : s.tenantFor? process.tenantId (s.ownerOf t) with
      | none => exact ⟨_, .noTenant ht hprocess htenant⟩
      | some tenant =>
        obtain ⟨lookUps, hlookUps⟩ := t.exists_looksUp
        exact ⟨_, .tenant ht hprocess htenant hlookUps⟩

/-- The calls that a reference leads to, one by one. -/
theorem Leads.mem_iff (h : s.Leads id plan) : call ∈ plan ↔ call = .taskDetail id ∨
    (∃ t process, s.task? id = some t ∧ s.process? t.processId = some process ∧
      (call = .tenantForProcess process.tenantId (s.ownerOf t) ∨
        (s.tenantFor? process.tenantId (s.ownerOf t) = none ∧ call = .changeTaskState (.failure t)) ∨
        (s.tenantFor? process.tenantId (s.ownerOf t)).isSome ∧ call = .userQueue process.id)) ∨
    ∃ p, s.Tenanted id p ∧
      ((∃ ids, p.AsksForResources [.resourcesByIds ids] ∧ call = .resourcesByIds ids) ∨
        (∃ source ∈ p.dataSourceIds, call = .findDataSource source) ∨
        ∃ ids, p.AsksForUdfs [.udfsByIds ids] ∧ call = .udfsByIds ids) := by
  unfold Tenanted
  cases h with
  | noTask ht => simp [ht]
  | noProcess ht hprocess => simp [ht, hprocess]
  | noTenant ht hprocess htenant => simp [ht, hprocess, htenant]
  | tenant ht hprocess htenant hlookUps =>
    simp only [List.mem_cons, hlookUps.mem_iff]
    simp [ht, hprocess, htenant, or_assoc]

/-- A task is written to just if it has no tenant. -/
theorem Leads.changeTaskState_mem_iff (h : s.Leads id plan) {change : StateChange} :
    .changeTaskState change ∈ plan ↔
      ∃ t process, s.task? id = some t ∧ s.process? t.processId = some process ∧
        s.tenantFor? process.tenantId (s.ownerOf t) = none ∧ change = .failure t := by
  simp [h.mem_iff]

/-- Resources are looked up just if there is a tenant and parameters refer to some. -/
theorem Leads.resourcesByIds_mem_iff (h : s.Leads id plan) {ids : List ResourceId} :
    .resourcesByIds ids ∈ plan ↔ ∃ p, s.Tenanted id p ∧
      ids ≠ [] ∧ ids.Pairwise (·.toInt < ·.toInt) ∧ ∀ x, x ∈ ids ↔ p.Refers x := by
  simp [h.mem_iff, Parameters.asksForResources_iff]

theorem Leads.findDataSource_mem_iff (h : s.Leads id plan) {source : DataSourceId} :
    .findDataSource source ∈ plan ↔ ∃ p, s.Tenanted id p ∧ source ∈ p.dataSourceIds := by
  simp [h.mem_iff]

/-- Functions are looked up just if there is a tenant and SQL parameters list some. -/
theorem Leads.udfsByIds_mem_iff (h : s.Leads id plan) {ids : List UdfId} :
    .udfsByIds ids ∈ plan ↔ ∃ q list, s.Tenanted id (.sql q) ∧ q.Lists list ∧
      UdfList.Denotes list ids := by
  simp [h.mem_iff, Parameters.asksForUdfs_iff]

/-- A task is written to last of all. -/
theorem Leads.method_of_mem_dropLast (h : s.Leads id plan) (hcall : call ∈ plan.dropLast) :
    call.method ≠ .changeTaskState := by
  cases call with
  | changeTaskState change =>
    obtain ⟨t, process, ht, hprocess, htenant, -⟩ :=
      h.changeTaskState_mem_iff.1 (List.dropLast_subset _ hcall)
    -- the order is the last of three calls
    obtain rfl := h.unique (.noTenant ht hprocess htenant)
    simp at hcall
  | _ => nofun

/-- Wherever the calls break off, a task is written to last of all. -/
theorem Leads.method_of_prefix {calls : List Call} (h : s.Leads id plan) (hcalls : calls <+: plan)
    (hcall : call ∈ calls.dropLast) : call.method ≠ .changeTaskState := by
  suffices hmem : call ∈ plan.dropLast from h.method_of_mem_dropLast hmem
  obtain ⟨rest, rfl⟩ := hcalls
  by_cases hnone : rest = []
  · rwa [hnone, List.append_nil]
  · rw [List.dropLast_append_of_ne_nil hnone]
    exact List.mem_append_left _ (List.dropLast_subset _ hcall)

end Store

/-! ## Making the calls -/

variable {store : Store} {policy : ResourcePolicy} {id : TaskId} {t : Task} {last : Call}
  {plan : List Call}

theorem follows_findResources {p : Parameters} (ht : store.task? id = some t)
    (hp : t.parameters? = some p) (h : p.AsksForResources plan) :
    Follows store (store.Spoils policy id) last plan (findResources policy p) := by
  unfold findResources
  cases h with
  | nothing hnone =>
    have hnil : ascending p.resourceIds = [] :=
      ascending_eq_nil_iff.2 (Parameters.resourceIds_eq_nil_iff.2 hnone)
    simp only [hnil, if_true]
    exact follows_pure _
  | all hne hsorted hids =>
    obtain rfl := Parameters.ascending_of_refers hsorted hids
    simp only [hne, if_false]
    refine follows_ask_bind ?_
    rw [Store.resourcesOf_ascending]
    split
    · rename_i hmissing
      cases policy with
      | strict =>
        exact follows_throw <| .missingResources ht hp (.all hne hsorted hids) <|
          .missing rfl hmissing (store.pairwise_unknownIds p) fun _ => Store.mem_unknownIds
      | lenient => exact follows_log_bind (follows_pure _)
    · exact follows_pure _

theorem follows_needDataSource (source : DataSourceId) :
    Follows store (store.Spoils policy id) last [.findDataSource source] (needDataSource source) := by
  refine follows_ask_bind ?_
  cases hsource : store.dataSource? source with
  | none => exact follows_throw (.noDataSource hsource)
  | some source => exact follows_pure _

theorem follows_findUdfs {p : SqlParameters} (ht : store.task? id = some t)
    (hp : t.parameters? = some (.sql p)) (h : (Parameters.sql p).AsksForUdfs plan) :
    Follows store (store.Spoils policy id) (.findDataSource p.dataSource) plan (findUdfs p) := by
  unfold findUdfs
  cases hlist : udfListOf p with
  | none =>
    cases h with
    | nothing => exact follows_pure _
    | all hlist' => cases (SqlParameters.lists_iff.1 hlist').symm.trans hlist
  | some list =>
    have hlist := SqlParameters.lists_iff.2 hlist
    dsimp only
    cases hread : readUdfIds list with
    | error fault => exact follows_throw (.invalidUdfs ht hp hlist hread)
    | ok ids =>
      obtain rfl := h.unique (.all hlist (UdfList.readUdfIds_eq_ok_iff.1 hread))
      show Follows _ _ _ [.udfsByIds ids] (ask (.udfsByIds ids) fun s => s.udfsOf ids)
      exact follows_ask _ _

/-- The builders look up the data sources first, and then the functions. -/
theorem follows_build {p : Parameters} (ht : store.task? id = some t)
    (hp : t.parameters? = some p) (h : p.AsksForUdfs plan) :
    Follows store (store.Spoils policy id) last
      (p.dataSourceIds.map .findDataSource ++ plan) (Registry.standard.build p) := by
  cases p with
  | sql p =>
    show Follows _ _ _ ([.findDataSource p.dataSource] ++ _) (buildSql (.sql p))
    refine follows_bind (reads_needDataSource _) (follows_needDataSource _) fun source => ?_
    exact follows_bind_nil (reads_findUdfs _) (follows_findUdfs ht hp h) fun udfs => follows_pure _
  | datax p =>
    obtain rfl := h.eq_nil (by simp)
    show Follows _ _ _ ([.findDataSource p.source] ++ [.findDataSource p.target])
      (buildTransfer (.datax p))
    refine follows_bind (reads_needDataSource _) (follows_needDataSource _) fun source => ?_
    exact follows_bind_nil (reads_needDataSource _) (follows_needDataSource _)
      fun target => follows_pure _
  | procedure p =>
    obtain rfl := h.eq_nil (by simp)
    show Follows _ _ _ [.findDataSource p.dataSource] (buildProcedure (.procedure p))
    exact follows_bind_nil (reads_needDataSource _) (follows_needDataSource _)
      fun source => follows_pure _
  | plain type value =>
    obtain rfl := h.eq_nil (by simp)
    cases type <;> exact follows_pure _
  | shell | python | spark | flink | mapReduce =>
    obtain rfl := h.eq_nil (by simp)
    exact follows_pure _

namespace Resolver

variable {settings : Settings} {type : TaskType} {node : TaskNode} {process : ProcessRun}

/-- With a tenant, the queue comes first, and then what the parameters name. -/
theorem follows_contextOf {tenant : Tenant} (ht : store.task? id = some t)
    (htype : TaskType.ofTag? t.typeTag = some type) (hnode : TaskNode.ofText? t.nodeText = some node)
    (hprocess : store.process? t.processId = some process)
    (htenant : store.tenantFor? process.tenantId (store.ownerOf t) = some tenant)
    (h : t.LooksUp plan) :
    Follows store (store.Spoils settings.resourcePolicy id)
      (.tenantForProcess process.tenantId (store.ownerOf t)) (.userQueue process.id :: plan)
      ((⟨.standard, settings⟩ : Resolver).contextOf
        { t with process := some process, definition := store.definition? t.definitionId }
        type node process tenant) := by
  have hparameters : t.parameters? = node.paramsValue?.bind (Parameters.ofValue? type) := by
    rw [Task.parameters?, htype, hnode]
    rfl
  refine follows_need_bind (fun hdefinition => ?_) fun definition hdefinition => ?_
  · exact .noDefinition ht hprocess hdefinition (htenant ▸ rfl)
  refine follows_ask_bind ?_
  rw [parametersOf_eq, ← hparameters]
  refine follows_need_bind (.invalidParameters ht hprocess htype) fun p hp => ?_
  cases h with
  | nothing hnone => cases hnone.symm.trans hp
  | all hp' hresources hudfs =>
    obtain rfl := Option.some.inj (hp.symm.trans hp')
    refine follows_bind (reads_findResources _ _) (follows_findResources ht hp hresources) fun _ => ?_
    refine follows_bind_nil (reads_build builtIn_standard _) (follows_build ht hp hudfs) fun _ => ?_
    exact follows_log_bind (follows_pure _)

/-- Up to the tenant there are two calls, unless there is no task to go on with, or no process. -/
theorem follows_resolve_of_tenant {settings : Settings} {reference : Reference}
    (h : ∀ {t type node process}, store.task? reference.taskId = some t →
      TaskType.ofTag? t.typeTag = some type → TaskNode.ofText? t.nodeText = some node →
      store.process? t.processId = some process →
      Follows store (store.Spoils settings.resourcePolicy reference.taskId)
        (.taskDetail reference.taskId) plan
        (ask (.tenantForProcess process.tenantId (store.ownerOf t)) (fun s =>
            s.tenantFor? process.tenantId (store.ownerOf t)) >>=
          (⟨.standard, settings⟩ : Resolver).withTenant
            { t with process := some process, definition := store.definition? t.definitionId }
            type node process)) :
    Follows store (store.Spoils settings.resourcePolicy reference.taskId) last
      (.taskDetail reference.taskId :: plan)
      ((⟨.standard, settings⟩ : Resolver).resolve reference) := by
  rw [resolve_eq]
  refine follows_ask_bind ?_
  refine follows_need_bind (fun hnone => .noTask (Option.map_eq_none_iff.1 hnone)) fun task htask => ?_
  obtain ⟨t, ht, rfl⟩ := Option.map_eq_some_iff.1 htask
  refine follows_need_bind (.unknownType (t := t) ht) fun type htype => ?_
  refine follows_need_bind (.invalidNode (t := t) ht) fun node hnode => ?_
  refine follows_need_bind (.noProcess (t := t) ht) fun process hprocess => ?_
  have hprocess : store.process? t.processId = some process := hprocess
  have hfollows := h ht htype hnode hprocess
  rw [ownerOf_detail, hprocess]
  exact hfollows

/-- With every method up, a resolution makes the calls that its reference leads to. -/
theorem follows_resolve {reference : Reference} (settings : Settings)
    (h : store.Leads reference.taskId plan) :
    Follows store (store.Spoils settings.resourcePolicy reference.taskId) last plan
      ((⟨.standard, settings⟩ : Resolver).resolve reference) := by
  cases h with
  | noTask ht =>
    refine follows_resolve_of_tenant fun ht' _ _ _ => ?_
    cases ht.symm.trans ht'
  | noProcess ht hprocess =>
    refine follows_resolve_of_tenant fun ht' _ _ hprocess' => ?_
    obtain rfl := Option.some.inj (ht.symm.trans ht')
    cases hprocess.symm.trans hprocess'
  | noTenant ht hprocess htenant =>
    refine follows_resolve_of_tenant fun ht' htype hnode hprocess' => ?_
    obtain rfl := Option.some.inj (ht.symm.trans ht')
    obtain rfl := Option.some.inj (hprocess.symm.trans hprocess')
    refine follows_ask_bind ?_
    rw [htenant]
    -- the order is accepted, since the task is stored
    obtain ⟨store', hchange⟩ := exists_change_of_detail? (Option.map_eq_some_iff.2 ⟨_, ht, rfl⟩)
    exact follows_log_bind (follows_order hchange _)
  | tenant ht hprocess htenant hlookUps =>
    refine follows_resolve_of_tenant fun ht' htype hnode hprocess' => ?_
    obtain rfl := Option.some.inj (ht.symm.trans ht')
    obtain rfl := Option.some.inj (hprocess.symm.trans hprocess')
    refine follows_ask_bind ?_
    rw [htenant]
    exact follows_bind_nil (reads_contextOf builtIn_standard _ _ _ _ _)
      (follows_contextOf ht htype hnode hprocess htenant hlookUps) fun _ => follows_pure _

/-- A resolution makes the calls that its reference leads to, or those up to the one that has failed or
has to answer for the fault. -/
theorem calls_of_exec {reference : Reference} {s : Session} (settings : Settings)
    (h : s.store.Leads reference.taskId plan) :
    let run := ((⟨.standard, settings⟩ : Resolver).resolve reference).exec s
    ∃ calls, run.2.calls = s.calls ++ calls ∧ calls <+: plan ∧
      (∀ result, run.1 = .ok result → calls = plan ∧ s.outages.failure? calls = none) ∧
      ∀ fault, run.1 = .error fault → ∃ earlier last, calls = earlier ++ [last] ∧
        s.outages.failure? earlier = none ∧
        match s.outages last.method with
        | some cause => fault = .service cause
        | none => s.store.Spoils settings.resourcePolicy reference.taskId last fault := by
  intro run
  -- no fault could be blamed on the call that is taken for the last one before the resolution
  have hfollows : Follows s.store (s.store.Spoils settings.resourcePolicy reference.taskId)
      (.udfsByIds []) plan ((⟨.standard, settings⟩ : Resolver).resolve reference) :=
    follows_resolve settings h
  refine hfollows.exec (composed_resolve builtIn_standard reference) fun fault hblame => ?_
  cases hblame

/-- **The calls of a resolution are those that its reference leads to, or the part of them up to the
call that has failed or has to answer for the fault.** A task is written to just if it has no tenant,
and last of all. With a tenant, resources are looked up just if parameters refer to some, by distinct
ids in ascending order; so are the data sources that they name, and the functions that SQL parameters
list, by the ids that the list denotes. -/
theorem resolve_calls (settings : Settings) (reference : Reference) (s : Session) :
    let run := ((⟨.standard, settings⟩ : Resolver).resolve reference).exec s
    let id := reference.taskId
    ∃ plan, (∀ plan', s.store.Leads id plan' ↔ plan' = plan) ∧
      (∃ calls, run.2.calls = s.calls ++ calls ∧ calls <+: plan ∧
        (∀ result, run.1 = .ok result →
          calls = plan ∧ ∀ call ∈ calls, s.outages call.method = none) ∧
        (∀ fault, run.1 = .error fault → ∃ earlier last, calls = earlier ++ [last] ∧
          (∀ call ∈ earlier, s.outages call.method = none) ∧
          match s.outages last.method with
          | some cause => fault = .service cause
          | none => s.store.Spoils settings.resourcePolicy id last fault) ∧
        ∀ call ∈ calls.dropLast, call.method ≠ .changeTaskState) ∧
      (∀ change, .changeTaskState change ∈ plan ↔
        ∃ t process, s.store.task? id = some t ∧ s.store.process? t.processId = some process ∧
          s.store.tenantFor? process.tenantId (s.store.ownerOf t) = none ∧ change = .failure t) ∧
      (∀ ids, .resourcesByIds ids ∈ plan ↔ ∃ p, s.store.Tenanted id p ∧
        ids ≠ [] ∧ ids.Pairwise (·.toInt < ·.toInt) ∧ ∀ x, x ∈ ids ↔ p.Refers x) ∧
      (∀ source, .findDataSource source ∈ plan ↔
        ∃ p, s.store.Tenanted id p ∧ source ∈ p.dataSourceIds) ∧
      ∀ ids, .udfsByIds ids ∈ plan ↔ ∃ q list, s.store.Tenanted id (.sql q) ∧ q.Lists list ∧
        UdfList.Denotes list ids := by
  intro run id
  obtain ⟨plan, hplan⟩ := s.store.exists_leads_iff id
  have hleads : s.store.Leads id plan := (hplan plan).2 rfl
  obtain ⟨calls, hcalls, hprefix, hok, hfault⟩ := calls_of_exec settings hleads
  refine ⟨plan, hplan, ⟨calls, hcalls, hprefix, ?_, ?_, ?_⟩,
    fun _ => hleads.changeTaskState_mem_iff, fun _ => hleads.resourcesByIds_mem_iff,
    fun _ => hleads.findDataSource_mem_iff, fun _ => hleads.udfsByIds_mem_iff⟩
  · intro result hresult
    obtain ⟨heq, hup⟩ := hok result hresult
    exact ⟨heq, Outages.failure?_eq_none_iff.1 hup⟩
  · intro fault hresult
    obtain ⟨earlier, last, heq, hup, hlast⟩ := hfault fault hresult
    exact ⟨earlier, last, heq, Outages.failure?_eq_none_iff.1 hup, hlast⟩
  · exact fun call hcall => hleads.method_of_prefix hprefix hcall

/-- A SQL task that lists functions, one of them twice. -/
def listingTask : Task :=
  { shellTask with
    typeTag := "SQL"
    nodeText := "\x7b\"type\":\"SQL\",\"params\":" ++
      "\x7b\"type\":\"HIVE\",\"datasource\":3,\"udfs\":\" 2, 1,2, \"\x7d\x7d" }

/-- A job that refers to resources, one of them twice. -/
def referringTask : Task :=
  { shellTask with
    id := ⟨8⟩
    typeTag := "SPARK"
    nodeText := "\x7b\"type\":\"SPARK\",\"params\":" ++
      "\x7b\"mainJar\":\x7b\"id\":5\x7d," ++
      "\"resourceList\":[\x7b\"id\":3\x7d,\x7b\"id\":5\x7d]\x7d\x7d" }

/-- Both tasks with what they need, but for a resource and a function. -/
def namingRecords : Snapshot :=
  { sqlRecords with
    tasks := [listingTask, referringTask]
    resources := [⟨⟨5⟩, "/lib.jar", false⟩] }

/-- The functions are looked up as they are listed, behind the data source. -/
theorem listingTask_looksUp :
    listingTask.LooksUp [.findDataSource ⟨3⟩, .udfsByIds [⟨2⟩, ⟨1⟩, ⟨2⟩]] := by
  have hsql : listingTask.parameters?.bind Parameters.sql? =
      some ⟨"HIVE", ⟨3⟩, "", some " 2, 1,2, "⟩ := by decide +kernel
  obtain ⟨p, hp, hsql⟩ := Option.bind_eq_some_iff.1 hsql
  cases p <;> cases hsql
  have hnone : ∀ id, ¬(Parameters.sql ⟨"HIVE", ⟨3⟩, "", some " 2, 1,2, "⟩).Refers id :=
    Parameters.resourceIds_eq_nil_iff.1 rfl
  have hlist : SqlParameters.Lists ⟨"HIVE", ⟨3⟩, "", some " 2, 1,2, "⟩
      (trim " 2, 1,2, ".toList) := ⟨.inl rfl, _, rfl, by decide, rfl⟩
  have hread : readUdfIds (trim " 2, 1,2, ".toList) = .ok [⟨2⟩, ⟨1⟩, ⟨2⟩] := by decide +kernel
  exact .all hp (.nothing hnone) (.all hlist (UdfList.readUdfIds_eq_ok_iff.1 hread))

/-- The resources are looked up once each, the main jar among the others. -/
theorem referringTask_looksUp : referringTask.LooksUp [.resourcesByIds [⟨3⟩, ⟨5⟩]] := by
  have hnames : (referringTask.parameters?.map fun p =>
      (p.taskType, p.resourceIds, p.dataSourceIds)) = some (.spark, [⟨5⟩, ⟨3⟩, ⟨5⟩], []) := by
    decide +kernel
  obtain ⟨p, hp, hnames⟩ := Option.map_eq_some_iff.1 hnames
  obtain ⟨htype, hresources, hsources⟩ : p.taskType = .spark ∧
      p.resourceIds = [⟨5⟩, ⟨3⟩, ⟨5⟩] ∧ p.dataSourceIds = [] := by
    simpa using hnames
  have hids : ∀ id, id ∈ [⟨3⟩, ⟨5⟩] ↔ p.Refers id := by
    intro id
    rw [← Parameters.mem_resourceIds, hresources]
    grind
  have hudfs : p.AsksForUdfs [] := by
    refine .nothing ?_
    rintro q list ids rfl
    cases htype
  have hlooksUp := Task.LooksUp.all hp (.all (by simp) (by decide) hids) hudfs
  rwa [hsources] at hlooksUp

/-- Functions are looked up as they are listed, and resources once each and in order. -/
theorem resolve_calls_naming :
    let s := Session.fresh (.ofSnapshot namingRecords) fun _ => none
    let run := fun id => ((⟨.standard, .standard⟩ : Resolver).resolve
      { shellReference with taskId := id }).exec s
    (run ⟨7⟩).2.calls = [.taskDetail ⟨7⟩, .tenantForProcess ⟨-1⟩ ⟨6⟩, .userQueue ⟨1⟩,
      .findDataSource ⟨3⟩, .udfsByIds [⟨2⟩, ⟨1⟩, ⟨2⟩]] ∧
    (run ⟨8⟩).2.calls = [.taskDetail ⟨8⟩, .tenantForProcess ⟨-1⟩ ⟨6⟩, .userQueue ⟨1⟩,
      .resourcesByIds [⟨3⟩, ⟨5⟩]] := by
  intro s run
  have hlisting : (run ⟨7⟩).1.toOption.isSome := by decide +kernel
  have hreferring : (run ⟨8⟩).1.toOption.isSome := by decide +kernel
  have hrun : ∀ id, ((⟨.standard, .standard⟩ : Resolver).resolve
      { shellReference with taskId := id }).exec s = run id := fun _ => rfl
  -- the runs are not to be unfolded in what follows
  clear_value run
  have hall : ∀ {id plan}, (run id).1.toOption.isSome → s.store.Leads id plan →
      (run id).2.calls = plan := by
    intro id plan hsome hplan
    obtain ⟨plan', hleads, ⟨calls, hcalls, -, hok, -⟩, -⟩ :=
      resolve_calls .standard { shellReference with taskId := id } s
    rw [hrun] at hcalls hok
    obtain rfl := (hleads plan).1 hplan
    cases hresult : (run id).1 with
    | error fault =>
      rw [hresult] at hsome
      cases hsome
    | ok result =>
      obtain ⟨rfl, -⟩ := hok result hresult
      exact hcalls
  have hprocess : s.store.process? ⟨1⟩ =
      some ⟨⟨1⟩, ⟨1⟩, ⟨-1⟩, ⟨5⟩, .standard, none, none, none⟩ := rfl
  have htenant : s.store.tenantFor? ⟨-1⟩ ⟨6⟩ = some ⟨⟨4⟩, "ops", "default"⟩ := by decide
  have hsql : s.store.task? ⟨7⟩ = some listingTask := rfl
  have hjob : s.store.task? ⟨8⟩ = some referringTask := rfl
  exact ⟨hall hlisting (.tenant hsql hprocess htenant listingTask_looksUp),
    hall hreferring (.tenant hjob hprocess htenant referringTask_looksUp)⟩

end Resolver

end Handoff
