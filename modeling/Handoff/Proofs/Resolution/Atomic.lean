import Handoff.Proofs.Session.Reads
/-!
# Resolving is atomic on the store

A resolution writes to the store in one case only, and then no more than the state of its task.

* `Store.LacksTenant`: a task that can be resolved up to its tenant, but has none.
* `Resolver.lacksTenant_of_exec`, `Resolver.exec_of_lacksTenant`: only such a task gets no context,
  and it gets none if all calls are answered.
* `Resolver.spares_resolve`: a resolution that ends in any other way leaves the store as it was.
* `Resolver.resolve_atomic`: **a resolution that ends without a context has marked its task as
  failed and done nothing else; any other leaves the store as it was.**
-/

namespace Handoff

/-! ## Tasks without a tenant -/

namespace Store

/-- The owner of a task: of the definition that it names, or nobody. -/
def ownerOf (s : Store) (t : Task) : UserId :=
  ((s.definition? t.definitionId).map (·.userId)).getD ⟨0⟩

/-- The stored task of this id has a known type, a node that can be read and a stored process, but
no tenant is found for it. -/
structure LacksTenant (s : Store) (id : TaskId) (t : Task) : Prop where
  stored : s.task? id = some t
  type : (TaskType.ofTag? t.typeTag).isSome
  node : (TaskNode.ofText? t.nodeText).isSome
  tenant : ∃ process, s.process? t.processId = some process ∧
    s.tenantFor? process.tenantId (s.ownerOf t) = none

end Store

/-! ## Runs of a resolution -/

namespace Resolving

variable {α β : Type}

/-- The computation leaves the store as it was, unless it ends without a value; and it leaves the
outages as they were. -/
def Spares (x : Resolving (Option α)) : Prop :=
  ∀ s, (x.exec s).2.outages = s.outages ∧ ((x.exec s).1 ≠ .ok none → (x.exec s).2.store = s.store)

theorem Spares.of_reads {R : Store → Store → Prop} {x : Resolving (Option α)} (hx : Reads R x) :
    Spares x := by
  intro s
  obtain ⟨hstore, hout⟩ := hx.keeps s
  exact ⟨hout, fun _ => hstore⟩

theorem Spares.bind {x : Resolving β} {f : β → Resolving (Option α)} (hx : Reads Eq x)
    (hf : ∀ b, Spares (f b)) : Spares (x >>= f) := by
  intro s
  obtain ⟨hstore, hout⟩ := hx.keeps s
  rw [exec_bind]
  rcases hrun : x.exec s with ⟨fault | b, t⟩ <;> rw [hrun] at hstore hout
  · exact ⟨hout, fun _ => hstore⟩
  · obtain ⟨hout', hstore'⟩ := hf b t
    exact ⟨hout'.trans hout, fun h => (hstore' h).trans hstore⟩

/-- An order that fails has changed nothing. -/
theorem Spares.order (c : StateChange) :
    Spares (Resolving.order c >>= fun _ => pure (none : Option α)) := by
  intro s
  rw [exec_bind, exec_order]
  -- accepted, rejected, or not answered
  split <;> rename_i hrun <;> split at hrun <;> cases hrun
  · exact ⟨rfl, fun h => absurd rfl h⟩
  · exact ⟨rfl, fun _ => rfl⟩
  · exact ⟨rfl, fun _ => rfl⟩

end Resolving

open Resolving

namespace Resolver

/-- The resolution of a reference from its task on. -/
def proceed (r : Resolver) (task : Task) : Resolving (Option Context) := do
  let type ← need (.unknownTaskType task.typeTag) (TaskType.ofTag? task.typeTag)
  let node ← need (.invalidTaskNode task.id) (TaskNode.ofText? task.nodeText)
  let process ← need (.noProcess task.id) task.process
  let tenant ← Resolving.ask (.tenantForProcess process.tenantId (ownerOf task)) fun s =>
    s.tenantFor? process.tenantId (ownerOf task)
  match tenant with
  | none =>
    Resolving.log (.tenantMissing process.id task.id)
    Resolving.order (.failure task)
    return none
  | some tenant => some <$> r.contextOf task type node process tenant

variable {r : Resolver} {reference : Reference} {s s' : Session}

theorem resolve_eq (r : Resolver) (reference : Reference) :
    r.resolve reference = (do
      let detail ← Resolving.ask (.taskDetail reference.taskId) fun s => s.detail? reference.taskId
      let task ← need (.taskNotFound reference.taskId) detail
      r.proceed task) :=
  rfl

theorem proceed_failed (r : Resolver) (task : Task) : r.proceed task.failed = r.proceed task :=
  rfl

/-- Only the resolution that ends without a context writes to the store. -/
theorem spares_proceed (hr : r.registry.BuiltIn) (task : Task) : Spares (r.proceed task) := by
  refine .bind (reads_need _ _) fun type => ?_
  refine .bind (reads_need _ _) fun node => ?_
  refine .bind (reads_need _ _) fun process => ?_
  refine .bind (.ask _ _ fun _ _ h => by rw [h]) fun tenant => ?_
  cases tenant with
  | none => exact .bind (.log _) fun _ => .order _
  | some tenant => exact .of_reads (.bind (reads_contextOf hr _ _ _ _ _) fun _ => .pure _)

theorem spares_resolve (hr : r.registry.BuiltIn) (reference : Reference) :
    Spares (r.resolve reference) := by
  refine .bind (.ask _ _ fun _ _ h => by rw [h]) fun detail => ?_
  exact .bind (reads_need _ _) fun task => spares_proceed hr task

theorem ownerOf_detail (store : Store) (t : Task) (process : Option ProcessRun) :
    ownerOf { t with process := process, definition := store.definition? t.definitionId } =
      store.ownerOf t := by
  unfold ownerOf Store.ownerOf
  cases store.definition? t.definitionId <;> rfl

/-- What was attached to a task does not count when it is marked as failed. -/
theorem failure_detail (t : Task) (process : Option ProcessRun) (definition : Option Definition) :
    StateChange.failure { t with process := process, definition := definition } = .failure t :=
  rfl

/-- A task whose details were found can be marked as failed. -/
theorem exists_change_of_detail? {store : Store} {id : TaskId} {task : Task}
    (h : store.detail? id = some task) :
    ∃ store', store.change (.failure task) = .ok store' := by
  obtain ⟨t, hstored, rfl⟩ := Option.map_eq_some_iff.1 h
  have hany : (store.tasks.any fun u => u.id = t.id) = true :=
    List.any_eq_true.2 ⟨t, List.mem_of_find?_eq_some hstored, decide_eq_true rfl⟩
  rw [failure_detail]
  exact ⟨_, if_pos hany⟩

/-- What is left of a resolution once the tenant has been looked up. -/
def withTenant (r : Resolver) (task : Task) (type : TaskType) (node : TaskNode)
    (process : ProcessRun) : Option Tenant → Resolving (Option Context)
  | none => do
    Resolving.log (.tenantMissing process.id task.id)
    Resolving.order (.failure task)
    return none
  | some tenant => some <$> r.contextOf task type node process tenant

/-- A resolution without a fault has passed every step up to the tenant: calls were answered, and what
was needed was there. -/
theorem passed_of_exec {result : Option Context}
    (h : (r.resolve reference).exec s = (.ok result, s')) :
    s.outages .taskDetail = none ∧ s.outages .tenantForProcess = none ∧
    ∃ t type node process, s.store.task? reference.taskId = some t ∧
      TaskType.ofTag? t.typeTag = some type ∧ TaskNode.ofText? t.nodeText = some node ∧
      s.store.process? t.processId = some process ∧
      ∃ s₁ : Session, s₁.store = s.store ∧ s₁.outages = s.outages ∧
        (r.withTenant
            { t with process := some process, definition := s.store.definition? t.definitionId } type
            node process (s.store.tenantFor? process.tenantId (s.store.ownerOf t))).exec s₁ =
          (.ok result, s') := by
  obtain ⟨hdetail, h⟩ := exec_ask_bind_ok h
  obtain ⟨task, htask, h⟩ := exec_need_bind_ok h
  obtain ⟨t, hstored, rfl⟩ := Option.map_eq_some_iff.1 htask
  obtain ⟨type, htype, h⟩ := exec_need_bind_ok h
  obtain ⟨node, hnode, h⟩ := exec_need_bind_ok h
  obtain ⟨process, hprocess, h⟩ := exec_need_bind_ok h
  obtain ⟨htenant, h⟩ := exec_ask_bind_ok h
  have hprocess : s.store.process? t.processId = some process := hprocess
  rw [ownerOf_detail, hprocess] at h
  refine ⟨hdetail, htenant, t, type, node, process, hstored, htype, hnode, hprocess, _, ?_, ?_, h⟩
  · rfl
  · rfl

/-- A resolution that ends without a context found a task that lacks its tenant, and has marked it as
failed. -/
theorem lacksTenant_of_exec (h : (r.resolve reference).exec s = (.ok none, s')) :
    ∃ t, s.store.LacksTenant reference.taskId t ∧ s.store.change (.failure t) = .ok s'.store ∧
      s.outages .taskDetail = none ∧ s.outages .tenantForProcess = none ∧
        s.outages .changeTaskState = none := by
  obtain ⟨hdetail, htenant, t, type, node, process, hstored, htype, hnode, hprocess, s₁, hstore,
    hout, h⟩ := passed_of_exec h
  cases hfound : s.store.tenantFor? process.tenantId (s.store.ownerOf t) with
  | some tenant =>
    -- from here on a run ends with a context or with a fault
    rw [hfound] at h
    obtain ⟨context, s', -, h⟩ := exec_bind_ok h
    cases h
  | none =>
    rw [hfound] at h
    obtain ⟨_, s₂, hlog, h⟩ := exec_bind_ok h
    cases hlog
    obtain ⟨horder, store, hchange, h⟩ := exec_order_bind_ok h
    cases h
    have hup : s.outages .changeTaskState = none := hout ▸ horder
    refine ⟨t, ⟨hstored, ?_, ?_, process, hprocess, hfound⟩, hstore ▸ hchange, hdetail, htenant, hup⟩
    · rw [htype]
      rfl
    · rw [hnode]
      rfl

/-- Where calls are answered, and what is needed is there, a resolution passes every step up to the
tenant. -/
theorem exec_passed {t : Task} {type : TaskType} {node : TaskNode} {process : ProcessRun}
    (hdetail : s.outages .taskDetail = none) (htenant : s.outages .tenantForProcess = none)
    (hstored : s.store.task? reference.taskId = some t) (htype : TaskType.ofTag? t.typeTag = some type)
    (hnode : TaskNode.ofText? t.nodeText = some node)
    (hprocess : s.store.process? t.processId = some process) :
    ∃ s₁ : Session, s₁.store = s.store ∧ s₁.outages = s.outages ∧
      (r.resolve reference).exec s = (r.withTenant
          { t with process := some process, definition := s.store.definition? t.definitionId } type
          node process (s.store.tenantFor? process.tenantId (s.store.ownerOf t))).exec s₁ := by
  have hfull : s.store.detail? reference.taskId = some { t with
      process := some process, definition := s.store.definition? t.definitionId } := by
    rw [Store.detail?, hstored, ← hprocess]
    rfl
  have hattached : ({ t with
      process := some process, definition := s.store.definition? t.definitionId } : Task).process =
        some process := rfl
  rw [resolve_eq, exec_ask_bind _ hdetail, exec_need_bind _ hfull, proceed, exec_need_bind _ htype,
    exec_need_bind _ hnode, exec_need_bind _ hattached, exec_ask_bind _ htenant, ownerOf_detail]
  refine ⟨_, ?_, ?_, rfl⟩
  · rfl
  · rfl

/-- A task that lacks its tenant gets no context, if all calls are answered. -/
theorem exec_of_lacksTenant {t : Task} {store : Store}
    (ht : s.store.LacksTenant reference.taskId t) (hchange : s.store.change (.failure t) = .ok store)
    (hdetail : s.outages .taskDetail = none) (htenant : s.outages .tenantForProcess = none)
    (horder : s.outages .changeTaskState = none) :
    ((r.resolve reference).exec s).1 = .ok none := by
  obtain ⟨hstored, htype, hnode, process, hprocess, hfound⟩ := ht
  obtain ⟨type, htype⟩ := Option.isSome_iff_exists.1 htype
  obtain ⟨node, hnode⟩ := Option.isSome_iff_exists.1 hnode
  obtain ⟨s₁, hstore, hout, hrun⟩ := exec_passed (r := r) hdetail htenant hstored htype hnode hprocess
  rw [hrun, hfound, withTenant, exec_log_bind, failure_detail, exec_order_bind]
  · rfl
  · exact hout ▸ horder
  · exact hstore ▸ hchange

/-- **A resolution that ends without a context has marked its task as failed and done nothing else;
any other leaves the store as it was.** -/
theorem resolve_atomic {records : Snapshot} (hs : s.store.Reachable records)
    (hr : r.registry.BuiltIn) (reference : Reference) :
    let run := (r.resolve reference).exec s
    (run.1 ≠ .ok none → run.2.store = s.store) ∧
    (run.1 = .ok none → ∃ t, s.store.task? reference.taskId = some t ∧
      run.2.store = { s.store with
        tasks := s.store.tasks.map fun u =>
          if u.id = reference.taskId then { u with status := .failure } else u
        changes := s.store.changes ++
          [⟨reference.taskId, .failure, t.startTime, t.host, none, none⟩] } ∧
      run.2.store.task? reference.taskId = some { t with status := .failure }) ∧
    (run.1 = .ok none ↔ (∃ t, s.store.LacksTenant reference.taskId t) ∧
      s.outages .taskDetail = none ∧ s.outages .tenantForProcess = none ∧
        s.outages .changeTaskState = none) ∧
    ∀ t, s.store.detail? reference.taskId = some t →
      ∃ store, s.store.change (.failure t) = .ok store := by
  have hkeyed := hs.keyed
  have hfail : ∀ {t}, s.store.task? reference.taskId = some t →
      t.id = reference.taskId ∧ s.store.change (.failure t) = .ok (s.store.fail t) := by
    intro t ht
    have hid : t.id = reference.taskId := by simpa using List.find?_some ht
    exact ⟨hid, Store.change_failure hkeyed (List.mem_of_find?_eq_some ht)⟩
  obtain ⟨hout, hkeeps⟩ := spares_resolve hr reference s
  refine ⟨hkeeps, ?_, ⟨?_, ?_⟩, ?_⟩
  · intro hrun
    obtain ⟨t, hlack, hchange, -⟩ := lacksTenant_of_exec (Prod.ext hrun rfl)
    obtain ⟨hid, hchange'⟩ := hfail hlack.stored
    rw [Except.ok.inj (hchange.symm.trans hchange'), ← hid]
    exact ⟨t, hid ▸ hlack.stored, rfl, Store.task?_fail (hid ▸ hlack.stored)⟩
  · intro hrun
    obtain ⟨t, hlack, -, houts⟩ := lacksTenant_of_exec (Prod.ext hrun rfl)
    exact ⟨⟨t, hlack⟩, houts⟩
  · rintro ⟨⟨t, hlack⟩, hdetail, htenant, horder⟩
    exact exec_of_lacksTenant hlack (hfail hlack.stored).2 hdetail htenant horder
  · intro task htask
    obtain ⟨t, hstored, rfl⟩ := Option.map_eq_some_iff.1 htask
    exact ⟨_, (hfail hstored).2⟩

/-- A shell task. -/
def shellTask : Task :=
  ⟨⟨7⟩, "count", "SHELL", "\x7b\"type\":\"SHELL\"\x7d", ⟨1⟩, ⟨1⟩, .submittedSuccess, .standard,
    some "worker-1", none, none, none, none, none, none⟩

/-- A process of an unknown tenant, and a task of it. -/
def untenanted : Snapshot :=
  { Snapshot.empty with
    tasks := [shellTask]
    processes := [⟨⟨1⟩, ⟨1⟩, ⟨4⟩, ⟨1⟩, .standard, none, none, none⟩] }

/-- The reference to the task. -/
def shellReference : Reference :=
  ⟨.standard, ⟨1⟩, .standard, ⟨7⟩, .epoch, "default"⟩

theorem lacksTenant_shellTask : (Store.ofSnapshot untenanted).LacksTenant ⟨7⟩ shellTask :=
  ⟨by decide, by decide, by decide +kernel, _, rfl, by decide⟩

/-- Where nothing fails, the task of an unknown tenant is marked as failed. -/
theorem resolve_atomic_untenanted :
    let s := Session.fresh (.ofSnapshot untenanted) fun _ => none
    let run := (Resolver.resolve ⟨.standard, .standard⟩ shellReference).exec s
    s.store.Reachable untenanted ∧ Registry.standard.BuiltIn ∧ run.1 = .ok none ∧
      run.2.store.changes = [⟨⟨7⟩, .failure, none, some "worker-1", none, none⟩] ∧
      run.2.store.task? ⟨7⟩ = some { shellTask with status := .failure } := by
  intro s run
  have hs : s.store.Reachable untenanted := .start
  have hatomic := resolve_atomic (r := ⟨.standard, .standard⟩) hs builtIn_standard shellReference
  obtain ⟨-, hnone, hiff, -⟩ := hatomic
  have hrun : run.1 = .ok none := hiff.2 ⟨⟨_, lacksTenant_shellTask⟩, rfl, rfl, rfl⟩
  obtain ⟨t, ht, hstore, htask⟩ := hnone hrun
  obtain rfl : shellTask = t := Option.some.inj (lacksTenant_shellTask.stored.symm.trans ht)
  refine ⟨hs, builtIn_standard, hrun, ?_, htask⟩
  rw [hstore]
  rfl

end Resolver

end Handoff
