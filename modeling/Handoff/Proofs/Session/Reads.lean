import Handoff.Proofs.Session.Run
import Handoff.Proofs.Store.States
/-!
# Computations that only read

A computation that makes no other calls than look-ups leaves the store as it found it, however it
ends. What it comes to depends on no more of the store than the answers of its look-ups do.

* `Reads`: a computation put together from look-ups, faults and events.
* `Reads.keeps`: such a computation leaves store and outages as they are.
* `Reads.agrees`: **stores that answer alike lead to the same result.**
* `reads_contextOf`: the context of a task that has a tenant is put together by reading, whatever
  the states of tasks are, if all builders are those at hand.
-/

namespace Handoff

namespace Resolving

variable {α β : Type}

/-- A computation that only reads, by look-ups that give the same answers from related stores. -/
inductive Reads (R : Store → Store → Prop) : {α : Type} → Resolving α → Prop where
  | pure {α : Type} (a : α) : Reads R (pure a)
  | throw {α : Type} (fault : Fault) : Reads R (throw fault : Resolving α)
  | log (e : Event) : Reads R (log e)
  | ask {α : Type} (c : Call) (answer : Store → α) (h : ∀ s₁ s₂, R s₁ s₂ → answer s₁ = answer s₂) :
    Reads R (ask c answer)
  | bind {α β : Type} {x : Resolving α} {f : α → Resolving β} (hx : Reads R x)
    (hf : ∀ a, Reads R (f a)) : Reads R (x >>= f)

/-! ## Results of reading -/

variable {R : Store → Store → Prop} {x : Resolving α}

/-- Reading leaves store and outages as they are. -/
theorem Reads.keeps (h : Reads R x) (s : Session) :
    (x.exec s).2.store = s.store ∧ (x.exec s).2.outages = s.outages := by
  induction h generalizing s with
  | pure a => exact ⟨rfl, rfl⟩
  | throw fault => exact ⟨rfl, rfl⟩
  | log e => exact ⟨rfl, rfl⟩
  | ask c answer h =>
    rw [exec_ask]
    exact ⟨rfl, rfl⟩
  | @bind _ _ x f hx hf ihx ihf =>
    obtain ⟨hstore, hout⟩ := ihx s
    rw [exec_bind]
    rcases hrun : x.exec s with ⟨_ | a, s'⟩ <;> rw [hrun] at hstore hout
    · exact ⟨hstore, hout⟩
    · obtain ⟨hstore', hout'⟩ := ihf a s'
      exact ⟨hstore'.trans hstore, hout'.trans hout⟩

/-- Sessions with related stores lead to the same result. -/
def Agrees (R : Store → Store → Prop) (x : Resolving α) : Prop :=
  ∀ ⦃s₁ s₂ : Session⦄, R s₁.store s₂.store → s₁.outages = s₂.outages →
    (x.exec s₁).1 = (x.exec s₂).1

/-- What is read first leaves the stores related for what comes then. -/
theorem agrees_bind {f : α → Resolving β} (hx : Reads R x) (h : Agrees R x)
    (hf : ∀ a, Agrees R (f a)) : Agrees R (x >>= f) := by
  intro s₁ s₂ hstore hout
  have hr := h hstore hout
  obtain ⟨hstore₁, hout₁⟩ := hx.keeps s₁
  obtain ⟨hstore₂, hout₂⟩ := hx.keeps s₂
  rw [exec_bind, exec_bind]
  rcases hx₁ : x.exec s₁ with ⟨r₁, t₁⟩
  rcases hx₂ : x.exec s₂ with ⟨r₂, t₂⟩
  rw [hx₁] at hr hstore₁ hout₁
  rw [hx₂] at hr hstore₂ hout₂
  obtain rfl : r₁ = r₂ := hr
  -- both end with the same fault, or go on from the same result
  cases r₁ with
  | error fault => rfl
  | ok a =>
    have hrelated : R t₁.store t₂.store := by
      rw [hstore₁, hstore₂]
      exact hstore
    exact hf a hrelated (hout₁.trans (hout.trans hout₂.symm))

/-- **Stores that answer alike lead to the same result.** -/
theorem Reads.agrees (h : Reads R x) : Agrees R x := by
  induction h with
  | pure a => exact fun _ _ _ _ => rfl
  | throw fault => exact fun _ _ _ _ => rfl
  | log e => exact fun _ _ _ _ => rfl
  | ask c answer h =>
    intro s₁ s₂ hstore hout
    rw [exec_ask, exec_ask, hout, h _ _ hstore]
  | bind hx hf ihx ihf => exact agrees_bind hx ihx ihf

theorem Agrees.bind {f : α → Resolving β} (hx : Reads R x) (hf : ∀ a, Agrees R (f a)) :
    Agrees R (x >>= f) :=
  agrees_bind hx hx.agrees hf

theorem reads_ofExcept (r : Except Fault α) : Reads R (ofExcept r) := by
  cases r with
  | ok a => exact .pure a
  | error fault => exact .throw fault

theorem reads_need (fault : Fault) (a : Option α) : Reads R (Resolver.need fault a) := by
  cases a with
  | none => exact .throw fault
  | some a => exact .pure a

end Resolving

open Resolving

/-! ## Builders -/

/-- Every builder of the registry is one of those at hand. -/
def Registry.BuiltIn (r : Registry) : Prop :=
  ∀ entry ∈ r.builders,
    entry.2 = buildSql ∨ entry.2 = buildTransfer ∨ entry.2 = buildProcedure

theorem builtIn_standard : Registry.standard.BuiltIn := by
  intro entry hmem
  simp only [Registry.standard, List.mem_cons, List.not_mem_nil, or_false] at hmem
  rcases hmem with rfl | rfl | rfl
  · exact .inl rfl
  · exact .inr (.inl rfl)
  · exact .inr (.inr rfl)

/-- A look-up of other records than tasks does not depend on the states of tasks. -/
theorem reads_ask {α : Type} (c : Call) {answer : Store → α}
    (h : ∀ s : Store, answer s.stateless = answer s) : Reads Store.Alike (ask c answer) := by
  refine .ask c answer fun s₁ s₂ halike => ?_
  rw [← h s₁, ← h s₂, halike]

theorem reads_needDataSource (id : DataSourceId) : Reads Store.Alike (needDataSource id) := by
  refine .bind (reads_ask _ fun _ => rfl) fun source => ?_
  cases source with
  | none => exact .throw _
  | some source => exact .pure _

theorem reads_findUdfs (p : SqlParameters) : Reads Store.Alike (findUdfs p) := by
  unfold findUdfs
  cases udfListOf p with
  | none => exact .pure _
  | some list => exact .bind (reads_ofExcept _) fun _ => reads_ask _ fun _ => rfl

theorem reads_buildSql (p : Parameters) : Reads Store.Alike (buildSql p) := by
  cases p with
  | sql p =>
    refine .bind (reads_needDataSource _) fun _ => ?_
    exact .bind (reads_findUdfs _) fun _ => .pure _
  | _ => exact .throw _

theorem reads_buildTransfer (p : Parameters) : Reads Store.Alike (buildTransfer p) := by
  cases p with
  | datax p =>
    refine .bind (reads_needDataSource _) fun _ => ?_
    exact .bind (reads_needDataSource _) fun _ => .pure _
  | _ => exact .throw _

theorem reads_buildProcedure (p : Parameters) : Reads Store.Alike (buildProcedure p) := by
  cases p with
  | procedure p => exact .bind (reads_needDataSource _) fun _ => .pure _
  | _ => exact .throw _

theorem reads_builder {r : Registry} (hr : r.BuiltIn) {entry : TaskType × Builder}
    (h : entry ∈ r.builders) (p : Parameters) : Reads Store.Alike (entry.2 p) := by
  rcases hr entry h with h | h | h <;> rw [h]
  · exact reads_buildSql p
  · exact reads_buildTransfer p
  · exact reads_buildProcedure p

theorem Registry.mem_of_builder? {r : Registry} {type : TaskType} {builder : Builder}
    (h : r.builder? type = some builder) : (type, builder) ∈ r.builders := by
  obtain ⟨before, after, hsplit, -⟩ := List.lookup_eq_some_iff.1 h
  rw [hsplit]
  simp

theorem reads_build {r : Registry} (hr : r.BuiltIn) (p : Parameters) :
    Reads Store.Alike (r.build p) := by
  unfold Registry.build
  cases hb : r.builder? p.taskType with
  | none => exact .pure _
  | some builder => exact reads_builder hr (Registry.mem_of_builder? hb) p

/-! ## Contexts -/

theorem reads_findResources (policy : ResourcePolicy) (p : Parameters) :
    Reads Store.Alike (findResources policy p) := by
  unfold findResources
  simp only
  split
  · exact .pure _
  · refine .bind (reads_ask _ fun _ => rfl) fun found => ?_
    split
    · cases policy with
      | strict => exact .throw _
      | lenient => exact .bind (.log _) fun _ => .pure _
    · exact .pure _

theorem reads_parametersOf (type : TaskType) (node : TaskNode) :
    Reads Store.Alike (Resolver.parametersOf type node) :=
  .bind (reads_need _ _) fun _ => reads_need _ _

/-- The context of a task that has a tenant is put together by reading. -/
theorem reads_contextOf {r : Resolver} (hr : r.registry.BuiltIn) (task : Task) (type : TaskType)
    (node : TaskNode) (process : ProcessRun) (tenant : Tenant) :
    Reads Store.Alike (r.contextOf task type node process tenant) := by
  refine .bind (reads_need _ _) fun definition => ?_
  refine .bind (reads_ask _ fun _ => rfl) fun userQueue => ?_
  refine .bind (reads_parametersOf _ _) fun params => ?_
  refine .bind (reads_findResources _ _) fun resources => ?_
  refine .bind (reads_build hr _) fun relation => ?_
  exact .bind (.log _) fun _ => reads_ofExcept _

end Handoff
