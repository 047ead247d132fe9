import Handoff.Proofs.Relation.UdfList
import Handoff.Proofs.Resolution.Contexts
import Handoff.Proofs.Resolution.Resources
/-!
# A strict and a lenient policy

The policy for missing resources decides about one thing only: whether a resolution goes on where some
are missing. A strict and a lenient resolution of the same reference are the same run up to there.

* `Avoids`: a computation never ends with a fault of some sort; `Resolver.avoids_resolve`: a lenient
  resolution never ends with missing resources.
* `Stricter`: a strict computation runs as a lenient one does, or ends where that one goes on;
  `stricter_bind`, `stricter_need_bind`, `stricter_ask_bind`: so do two one after another.
* `Resolver.stricter_resolve`: a strict and a lenient resolution do.
* `Resolver.strict_refines_lenient`: **a strict resolution is the lenient one, unless resources are
  missing; then it is the beginning of it.**
-/

namespace Handoff

/-- The fault of resources that may not be missing. -/
def Fault.OfResources : Fault → Prop
  | missingResources _ => True
  | _ => False

namespace Resolving

variable {α β : Type} {bad : Fault → Prop} {store : Store} {P : List ResourceId → Prop}
  {x y : Resolving α} {f g : α → Resolving β}

/-! ## Faults that do not occur -/

/-- Wherever it starts, the computation does not end with a bad fault. -/
def Avoids (bad : Fault → Prop) (x : Resolving α) : Prop :=
  ∀ ⦃s : Session⦄ ⦃fault : Fault⦄, (x.exec s).1 = .error fault → ¬bad fault

theorem avoids_pure (a : α) : Avoids bad (pure a) :=
  nofun

theorem avoids_throw {fault : Fault} (h : ¬bad fault) :
    Avoids bad (throw fault : Resolving α) := by
  intro s fault' hfault
  obtain rfl : fault = fault' := Except.error.inj hfault
  exact h

theorem avoids_need {fault : Fault} (h : ¬bad fault) (v : Option α) :
    Avoids bad (Resolver.need fault v) := by
  cases v with
  | none => exact avoids_throw h
  | some a => exact avoids_pure a

theorem avoids_log (e : Event) : Avoids bad (log e) :=
  nofun

theorem avoids_ofExcept {r : Except Fault α} (h : ∀ fault, r = .error fault → ¬bad fault) :
    Avoids bad (ofExcept r) := by
  cases r with
  | ok a => exact avoids_pure a
  | error fault => exact avoids_throw (h fault rfl)

/-- A look-up ends with no faults but those of the service. -/
theorem avoids_ask (h : ∀ cause, ¬bad (.service cause)) (c : Call) (answer : Store → α) :
    Avoids bad (ask c answer) := by
  intro s fault hfault
  rw [exec_ask] at hfault
  split at hfault
  · obtain rfl := Except.error.inj hfault
    exact h _
  · cases hfault

/-- And so does an order. -/
theorem avoids_order (h : ∀ cause, ¬bad (.service cause)) (c : StateChange) :
    Avoids bad (order c) := by
  intro s fault hfault
  rw [exec_order] at hfault
  split at hfault
  · cases hfault
  · obtain rfl := Except.error.inj hfault
    exact h _
  · obtain rfl := Except.error.inj hfault
    exact h _

theorem avoids_bind (hx : Avoids bad x) (hf : ∀ a, Avoids bad (f a)) : Avoids bad (x >>= f) := by
  intro s fault hfault
  cases hresult : (x.exec s).1 with
  | error fault' =>
    rw [exec_bind_of_error f hresult] at hfault
    obtain rfl : fault' = fault := Except.error.inj hfault
    exact hx hresult
  | ok a =>
    rw [exec_bind_of_ok f hresult] at hfault
    exact hf a hfault

/-! ## Runs that only add calls -/

/-- A run forgets none of the calls before it. -/
theorem Composed.calls_kept (h : Composed x) (s : Session) : s.calls <+: (x.exec s).2.calls := by
  obtain ⟨calls, hcut⟩ := h.cut s
  exact ⟨s.outages.reached calls, hcut.calls_eq.symm⟩

theorem Composed.calls_of_bind (h : ∀ a, Composed (g a)) (y : Resolving α) (s : Session) :
    (y.exec s).2.calls <+: ((y >>= g).exec s).2.calls := by
  cases hresult : (y.exec s).1 with
  | error fault =>
    refine ⟨[], ?_⟩
    rw [exec_bind_of_error g hresult, List.append_nil]
  | ok a =>
    rw [exec_bind_of_ok g hresult]
    exact (h a).calls_kept _

/-! ## Strict and lenient computations -/

/-- The strict run ends at a call for resources, with missing ones of which `P` holds, and the lenient
run goes on from there. -/
structure Halts (P : List ResourceId → Prop) (strict lenient : Resolving α) (s : Session) : Prop where
  fault : ∃ ids, (strict.exec s).1 = .error (.missingResources ids) ∧ P ids
  calls : ∃ earlier ids, (strict.exec s).2.calls = s.calls ++ earlier ++ [.resourcesByIds ids]
  goesOn : (strict.exec s).2.calls <+: (lenient.exec s).2.calls

/-- The strict computation runs as the lenient one does, or ends where that one goes on, from every
session with this store. -/
def Stricter (store : Store) (P : List ResourceId → Prop) (strict lenient : Resolving α) : Prop :=
  ∀ ⦃s : Session⦄, s.store = store → strict.exec s = lenient.exec s ∨ Halts P strict lenient s

/-- What does not depend on the policy runs the same under both. -/
theorem stricter_refl (store : Store) (P : List ResourceId → Prop) (x : Resolving α) :
    Stricter store P x x :=
  fun _ _ => .inl rfl

/-- A run that halts does so with what would come next, too. -/
theorem Halts.bind {s : Session} (h : Halts P x y s) (f : α → Resolving β)
    (hg : ∀ a, Composed (g a)) : Halts P (x >>= f) (y >>= g) s := by
  obtain ⟨⟨ids, hfault, hids⟩, hcalls, hgoes⟩ := h
  have hrun := exec_bind_of_error f hfault
  refine ⟨⟨ids, ?_, hids⟩, ?_, ?_⟩
  · rw [hrun]
  · rw [hrun]
    exact hcalls
  · rw [hrun]
    exact hgoes.trans (Composed.calls_of_bind hg y s)

/-- Runs that have come to a later session the same way are related as they are from there. -/
theorem related_of_later {x' y' : Resolving α} {s s' : Session} (hx : x.exec s = x'.exec s')
    (hy : y.exec s = y'.exec s') (hcalls : s.calls <+: s'.calls)
    (h : x'.exec s' = y'.exec s' ∨ Halts P x' y' s') : x.exec s = y.exec s ∨ Halts P x y s := by
  rcases h with heq | ⟨hfault, ⟨earlier, ids, hlast⟩, hgoes⟩
  · left
    rw [hx, hy, heq]
  · -- the calls before the later session come first
    obtain ⟨before, hbefore⟩ := hcalls
    right
    refine ⟨?_, ⟨before ++ earlier, ids, ?_⟩, ?_⟩
    · rw [hx]
      exact hfault
    · rw [hx, hlast, ← hbefore, List.append_assoc s.calls]
    · rw [hx, hy]
      exact hgoes

/-- What is read first leaves the store to what comes then. -/
theorem stricter_bind {R : Store → Store → Prop} (hreads : Reads R y)
    (hxy : Stricter store P x y) (hg : ∀ a, Composed (g a))
    (hfg : ∀ a, Stricter store P (f a) (g a)) : Stricter store P (x >>= f) (y >>= g) := by
  intro s hstore
  rcases hxy hstore with heq | hhalts
  · -- both have come to the same session
    cases hresult : (y.exec s).1 with
    | error fault =>
      left
      rw [exec_bind_of_error g hresult, exec_bind_of_error f (heq ▸ hresult), heq]
    | ok a =>
      obtain ⟨hkeep, -⟩ := hreads.keeps s
      have hrun : (x >>= f).exec s = (f a).exec (y.exec s).2 := by
        rw [exec_bind_of_ok f (heq ▸ hresult), heq]
      have hcalls := hreads.composed.calls_kept s
      exact related_of_later hrun (exec_bind_of_ok g hresult) hcalls (hfg a (hkeep.trans hstore))
  · right
    exact hhalts.bind f hg

/-- What comes after something that has to be there may count on it. -/
theorem stricter_need_bind {fault : Fault} {v : Option α}
    (hfg : ∀ a, v = some a → Stricter store P (f a) (g a)) :
    Stricter store P (Resolver.need fault v >>= f) (Resolver.need fault v >>= g) := by
  cases v with
  | none => exact stricter_refl store P (throw fault)
  | some a => exact hfg a rfl

/-- What comes after a look-up may count on its answer. -/
theorem stricter_ask_bind {c : Call} {answer : Store → α}
    (hfg : Stricter store P (f (answer store)) (g (answer store))) :
    Stricter store P (ask c answer >>= f) (ask c answer >>= g) := by
  intro s hstore
  subst hstore
  cases hdown : s.outages c.method with
  | some cause =>
    left
    rw [exec_bind, exec_bind, exec_ask, hdown]
  | none =>
    have hnext := hfg (s := { s with calls := s.calls ++ [c] }) rfl
    exact related_of_later (exec_ask_bind f hdown) (exec_ask_bind g hdown) ⟨[c], rfl⟩ hnext

end Resolving

open Resolving

/-! ## Builders -/

/-- A service that does not answer is another fault than missing resources. -/
theorem not_ofResources_service (cause : ServiceFault) : ¬(Fault.service cause).OfResources :=
  not_false

theorem avoids_needDataSource (id : DataSourceId) :
    Avoids Fault.OfResources (needDataSource id) := by
  refine avoids_bind (avoids_ask not_ofResources_service _ _) fun source => ?_
  cases source with
  | none => exact avoids_throw not_false
  | some source => exact avoids_pure source

theorem avoids_findUdfs (p : SqlParameters) : Avoids Fault.OfResources (findUdfs p) := by
  unfold findUdfs
  cases udfListOf p with
  | none => exact avoids_pure _
  | some list =>
    have hread : ∀ fault, readUdfIds list = .error fault → ¬fault.OfResources := by
      intro fault hfault
      obtain ⟨entry, -, cause, -, rfl⟩ := readUdfIds_eq_error hfault
      exact not_false
    refine avoids_bind (avoids_ofExcept hread) fun ids => ?_
    exact avoids_ask not_ofResources_service _ _

/-- No builder at hand ends with missing resources. -/
theorem avoids_builtIn {builder : Builder}
    (h : builder = buildSql ∨ builder = buildTransfer ∨ builder = buildProcedure) (p : Parameters) :
    Avoids Fault.OfResources (builder p) := by
  rcases h with rfl | rfl | rfl
  · cases p with
    | sql q =>
      refine avoids_bind (avoids_needDataSource _) fun source => ?_
      exact avoids_bind (avoids_findUdfs q) fun udfs => avoids_pure _
    | _ => exact avoids_throw not_false
  · cases p with
    | datax q =>
      refine avoids_bind (avoids_needDataSource _) fun source => ?_
      exact avoids_bind (avoids_needDataSource _) fun target => avoids_pure _
    | _ => exact avoids_throw not_false
  · cases p with
    | procedure q => exact avoids_bind (avoids_needDataSource _) fun source => avoids_pure _
    | _ => exact avoids_throw not_false

theorem avoids_build {registry : Registry} (h : registry.BuiltIn) (p : Parameters) :
    Avoids Fault.OfResources (registry.build p) := by
  unfold Registry.build
  cases hb : registry.builder? p.taskType with
  | none => exact avoids_pure _
  | some builder => exact avoids_builtIn (h _ (Registry.mem_of_builder? hb)) p

/-! ## Resolutions -/

/-- The parameters that go into a context are those of the task. -/
theorem Ingredients.parameters?_eq {store : Store} {reference : Reference}
    (i : Ingredients store reference) : i.task.parameters? = some i.parameters := by
  rw [Task.parameters?, i.isType, i.isNode]
  exact i.isParameters

/-- The stored task of this id refers to resources that are not there, and these are they. -/
def Store.Misses (store : Store) (id : TaskId) (ids : List ResourceId) : Prop :=
  ∃ t p, store.task? id = some t ∧ t.parameters? = some p ∧
    store.Finds .strict p (.error (.missingResources ids))

/-- A lenient look-up never ends with missing resources. -/
theorem avoids_findResources (p : Parameters) :
    Avoids Fault.OfResources (findResources .lenient p) := by
  unfold findResources
  simp only
  split
  · exact avoids_pure _
  · refine avoids_bind (avoids_ask not_ofResources_service _ _) fun found => ?_
    split
    · exact avoids_bind (avoids_log _) fun _ => avoids_pure _
    · exact avoids_pure _

/-- A strict look-up ends where a lenient one goes on, if resources are missing. -/
theorem stricter_findResources {store : Store} {P : List ResourceId → Prop} {p : Parameters}
    (hP : ∀ ids, store.Finds .strict p (.error (.missingResources ids)) → P ids) :
    Stricter store P (findResources .strict p) (findResources .lenient p) := by
  intro s hstore
  subst hstore
  by_cases hnone : p.resourceIds = []
  · left
    rw [exec_findResources_of_none _ hnone, exec_findResources_of_none _ hnone]
  cases hdown : s.outages .resourcesByIds with
  | some cause =>
    -- the call fails before the policy matters
    left
    rw [exec_findResources_of_down _ hnone hdown, exec_findResources_of_down _ hnone hdown]
  | none =>
    have hstrict := exec_findResources .strict hnone hdown
    have hlenient := exec_findResources .lenient hnone hdown
    by_cases hknown : s.store.unknownIds p = []
    · left
      rw [hstrict, hlenient, if_pos hknown, if_pos hknown]
    · right
      rw [if_neg hknown] at hstrict hlenient
      have hfinds : s.store.Finds .strict p ((findResources .strict p).exec s).1 :=
        finds_of_up fun _ => hdown
      rw [hstrict] at hfinds
      refine ⟨⟨_, ?_, hP _ hfinds⟩, ⟨[], ascending p.resourceIds, ?_⟩, [], ?_⟩
      · rw [hstrict]
      · rw [hstrict, List.append_nil]
      · rw [hstrict, hlenient, List.append_nil]

namespace Resolver

/-- The resolver with another policy for missing resources. -/
def under (r : Resolver) (policy : ResourcePolicy) : Resolver :=
  { r with settings := { r.settings with resourcePolicy := policy } }

variable {r : Resolver} {reference : Reference} {store : Store}

/-! ### Lenient resolutions -/

theorem avoids_contextOf (hr : r.registry.BuiltIn) (task : Task) (type : TaskType) (node : TaskNode)
    (process : ProcessRun) (tenant : Tenant) :
    Avoids Fault.OfResources ((r.under .lenient).contextOf task type node process tenant) := by
  refine avoids_bind (avoids_need not_false _) fun definition => ?_
  refine avoids_bind (avoids_ask not_ofResources_service _ _) fun queue => ?_
  rw [parametersOf_eq]
  refine avoids_bind (avoids_need not_false _) fun p => ?_
  refine avoids_bind (avoids_findResources p) fun resources => ?_
  refine avoids_bind (avoids_build hr p) fun relation => ?_
  exact avoids_bind (avoids_log _) fun _ => avoids_pure _

theorem avoids_resolve (hr : r.registry.BuiltIn) (reference : Reference) :
    Avoids Fault.OfResources ((r.under .lenient).resolve reference) := by
  refine avoids_bind (avoids_ask not_ofResources_service _ _) fun detail => ?_
  refine avoids_bind (avoids_need not_false _) fun task => ?_
  refine avoids_bind (avoids_need not_false _) fun type => ?_
  refine avoids_bind (avoids_need not_false _) fun node => ?_
  refine avoids_bind (avoids_need not_false _) fun process => ?_
  refine avoids_bind (avoids_ask not_ofResources_service _ _) fun tenant => ?_
  cases tenant with
  | none =>
    refine avoids_bind (avoids_log _) fun _ => ?_
    exact avoids_bind (avoids_order not_ofResources_service _) fun _ => avoids_pure none
  | some tenant =>
    exact avoids_bind (avoids_contextOf hr _ _ _ _ _) fun c => avoids_pure (some c)

/-! ### Strict and lenient resolutions -/

theorem stricter_contextOf (hr : r.registry.BuiltIn) {t : Task} {type : TaskType}
    {node : TaskNode} {id : TaskId} (ht : store.task? id = some t)
    (htype : TaskType.ofTag? t.typeTag = some type) (hnode : TaskNode.ofText? t.nodeText = some node)
    (task : Task) (process : ProcessRun) (tenant : Tenant) :
    Stricter store (store.Misses id) ((r.under .strict).contextOf task type node process tenant)
      ((r.under .lenient).contextOf task type node process tenant) := by
  have hparameters : t.parameters? = node.paramsValue?.bind (Parameters.ofValue? type) := by
    rw [Task.parameters?, htype, hnode]
    rfl
  refine stricter_need_bind fun definition _ => ?_
  refine stricter_ask_bind ?_
  rw [parametersOf_eq]
  refine stricter_need_bind fun p hp => ?_
  have hmisses : ∀ ids, store.Finds .strict p (.error (.missingResources ids)) →
      store.Misses id ids := by
    intro ids hfinds
    exact ⟨t, p, ht, hparameters.trans hp, hfinds⟩
  refine stricter_bind (reads_findResources _ _) (stricter_findResources hmisses) ?_ ?_
  · intro resources
    refine (Reads.bind (reads_build hr p) fun relation => ?_).composed
    exact .bind (.log _) fun _ => reads_ofExcept _
  · exact fun resources => stricter_refl store _ _

/-- A strict resolution runs as a lenient one does, or ends where that one goes on. -/
theorem stricter_resolve (hr : r.registry.BuiltIn) (reference : Reference) (store : Store) :
    Stricter store (store.Misses reference.taskId) ((r.under .strict).resolve reference)
      ((r.under .lenient).resolve reference) := by
  have hlenient : (r.under .lenient).registry.BuiltIn := hr
  rw [resolve_eq, resolve_eq]
  refine stricter_ask_bind (stricter_need_bind fun task htask => ?_)
  obtain ⟨t, ht, rfl⟩ := Option.map_eq_some_iff.1 htask
  refine stricter_need_bind fun type htype => ?_
  refine stricter_need_bind fun node hnode => ?_
  refine stricter_need_bind fun process _ => ?_
  refine stricter_ask_bind ?_
  cases store.tenantFor? process.tenantId _ with
  | none => exact stricter_refl store _ _
  | some tenant =>
    refine stricter_bind (reads_contextOf hlenient _ _ _ _ _) ?_ (fun _ => .pure _) fun c => ?_
    · exact stricter_contextOf hr ht htype hnode _ process tenant
    · exact stricter_refl store _ (pure (some c))

/-- **A strict resolution is the lenient one, unless resources are missing; then it is the beginning of
it.** It ends at the look-up of the resources, and the lenient one goes on without the missing ones.
With whichever methods down, a lenient resolution never ends for missing resources. -/
theorem strict_refines_lenient (hr : r.registry.BuiltIn) (reference : Reference) (s : Session) :
    let strict := ((r.under .strict).resolve reference).exec s
    let lenient := ((r.under .lenient).resolve reference).exec s
    ((∀ ids, strict.1 ≠ .error (.missingResources ids)) → lenient = strict) ∧
    (∀ ids, strict.1 = .error (.missingResources ids) →
      (∃ earlier asked, strict.2.calls = s.calls ++ earlier ++ [.resourcesByIds asked]) ∧
      strict.2.calls <+: lenient.2.calls ∧
      ∀ c, lenient.1 = .ok (some c) → ∃ t p, s.store.task? reference.taskId = some t ∧
        t.parameters? = some p ∧ c.resources = .names
          ((s.store.resources.filter fun r => p.Refers r.id ∧ r.id ∉ ids).map (·.fullName))) ∧
    ∀ ids, lenient.1 ≠ .error (.missingResources ids) := by
  intro strict lenient
  have hruns := stricter_resolve hr reference s.store (s := s) rfl
  have hfine : ∀ ids, lenient.1 ≠ .error (.missingResources ids) :=
    fun ids hids => avoids_resolve hr reference hids trivial
  refine ⟨fun hfound => ?_, fun ids hmissing => ?_, hfine⟩
  · rcases hruns with heq | ⟨⟨ids, hmissing, -⟩, -, -⟩
    · exact heq.symm
    · exact absurd hmissing (hfound ids)
  · rcases hruns with heq | ⟨⟨ids', hfault, t, p, ht, hp, hfinds⟩, hcalls, hgoes⟩
    · have hlenient : lenient.1 = .error (.missingResources ids) := by
        rw [← hmissing]
        exact congrArg Prod.fst heq.symm
      exact absurd hlenient (hfine ids)
    · obtain rfl : ids' = ids := by simpa using hfault.symm.trans hmissing
      refine ⟨hcalls, hgoes, fun c hc => ⟨t, p, ht, hp, ?_⟩⟩
      -- the context is made from the parameters of the same task
      obtain ⟨i, resources, relation, s₁, s₂, s₃, hstore, -, hfound, -, rfl⟩ :=
        context_of_exec (Prod.ext hc rfl)
      obtain rfl : i.task = t := Option.some.inj (i.isTask.symm.trans ht)
      obtain rfl : i.parameters = p := Option.some.inj (i.parameters?_eq.symm.trans hp)
      have hfound := finds_of_ok (congrArg Prod.fst hfound)
      rw [hstore] at hfound
      exact hfinds.names_of_missing hfound

/-- A task that refers to a jar that is stored, and to another one that is not. -/
def jarTask : Task :=
  { shellTask with
    typeTag := "SPARK"
    nodeText := "\x7b\"type\":\"SPARK\",\"params\":" ++
      "\x7b\"mainJar\":\x7b\"id\":5\x7d,\"resourceList\":[\x7b\"id\":9\x7d]\x7d\x7d" }

/-- The task with what it needs, but for that jar. -/
def jarRecords : Snapshot :=
  { untenanted with
    tasks := [jarTask]
    definitions := [⟨⟨1⟩, ⟨1⟩, ⟨6⟩, "report", none⟩]
    tenants := [⟨⟨4⟩, "ops", "default"⟩]
    resources := [⟨⟨5⟩, "/main.jar", false⟩] }

/-- The strict resolution is the beginning of the lenient one, which goes on with the stored jar. -/
theorem strict_refines_lenient_jar :
    let r : Resolver := ⟨.standard, .standard⟩
    let s := Session.fresh (.ofSnapshot jarRecords) fun _ => none
    let strict := ((r.under .strict).resolve shellReference).exec s
    let lenient := ((r.under .lenient).resolve shellReference).exec s
    r.registry.BuiltIn ∧ strict.1 = .error (.missingResources [⟨9⟩]) ∧
      strict.2.calls <+: lenient.2.calls ∧
      ∃ c, lenient.1 = .ok (some c) ∧ c.resources = .names ["/main.jar"] := by
  intro r s strict lenient
  have hmissing : strict.1 = .error (.missingResources [⟨9⟩]) := by decide +kernel
  have hcontext : ∃ c, lenient.1 = .ok (some c) := by
    have hsome : lenient.1.toOption.join.isSome := by decide +kernel
    generalize lenient.1 = result at hsome
    rcases result with fault | _ | c
    · cases hsome
    · cases hsome
    · exact ⟨c, rfl⟩
  obtain ⟨-, hends, -⟩ := strict_refines_lenient (r := r) builtIn_standard shellReference s
  obtain ⟨-, hprefix, hnames⟩ := hends [⟨9⟩] hmissing
  obtain ⟨c, hc⟩ := hcontext
  obtain ⟨t, p, ht, hp, hresources⟩ := hnames c hc
  obtain rfl : jarTask = t := Option.some.inj ht
  have hids : p.resourceIds = [⟨5⟩, ⟨9⟩] := by
    have hread : jarTask.parameters?.map (·.resourceIds) = some [⟨5⟩, ⟨9⟩] := by decide +kernel
    rw [hp] at hread
    exact Option.some.inj hread
  have hstored : s.store.resources = [⟨⟨5⟩, "/main.jar", false⟩] := rfl
  refine ⟨builtIn_standard, hmissing, hprefix, c, hc, ?_⟩
  rw [hresources, hstored]
  simp [← Parameters.mem_resourceIds, hids]

end Resolver

end Handoff
