import Handoff.Proofs.Session.Reads
import Mathlib.Logic.Basic
/-!
# The log is written and never read

What was logged before has no influence on what comes after it. Runs of a computation from sessions
that differ in their logs alone come to the same result, and again to sessions that differ in their
logs alone.

* `Blind`: a computation does not read the log; `blind_bind`: nor do two such, one after another;
  `Reads.blind`: nor does one that only reads the store.
* `Registry.Blind`: no builder reads the log; `blind_standard`: those at hand do not.
* `blind_resolve`: **the resolver does not read the log, if its builders do not.**
* `prepare_quiet`, `conclude_quiet`: nor do iterations.
-/

namespace Handoff

/-- A session without its log. -/
def Session.quiet (s : Session) : Session :=
  { s with events := [] }

/-- A desk without the log. -/
def Desk.quiet (d : Desk) : Desk :=
  { d with session := d.session.quiet }

theorem Desk.requests_of_quiet {d₁ d₂ : Desk} (h : d₁.quiet = d₂.quiet) :
    d₁.requests = d₂.requests := by
  simp only [Desk.quiet, Desk.mk.injEq] at h
  exact h.2.2.1

namespace Resolving

variable {α β : Type}

/-- Sessions that differ in their logs alone lead to the same result, and to such sessions again. -/
def Blind (x : Resolving α) : Prop :=
  ∀ s₁ s₂ : Session, s₁.quiet = s₂.quiet →
    (x.exec s₁).1 = (x.exec s₂).1 ∧ (x.exec s₁).2.quiet = (x.exec s₂).2.quiet

theorem blind_pure (a : α) : Blind (pure a) :=
  fun _ _ h => ⟨rfl, h⟩

theorem blind_throw (fault : Fault) : Blind (throw fault : Resolving α) :=
  fun _ _ h => ⟨rfl, h⟩

theorem blind_bind {x : Resolving α} {f : α → Resolving β} (hx : Blind x)
    (hf : ∀ a, Blind (f a)) : Blind (x >>= f) := by
  intro s₁ s₂ h
  obtain ⟨hr, hs⟩ := hx s₁ s₂ h
  rw [exec_bind, exec_bind]
  rcases hx₁ : x.exec s₁ with ⟨r₁, t₁⟩
  rcases hx₂ : x.exec s₂ with ⟨r₂, t₂⟩
  rw [hx₁, hx₂] at hr hs
  obtain rfl : r₁ = r₂ := hr
  -- both end with the same fault, or go on from the same result
  cases r₁ with
  | error fault => exact ⟨rfl, hs⟩
  | ok a => exact hf a t₁ t₂ hs

theorem blind_log (e : Event) : Blind (log e) :=
  fun _ _ h => ⟨rfl, h⟩

/-- A call fails, or is answered, whatever was logged. -/
theorem blind_ask (c : Call) (answer : Store → α) : Blind (ask c answer) := by
  intro s₁ s₂ h
  simp only [Session.quiet, Session.mk.injEq] at h
  obtain ⟨hstore, hout, hcalls, -⟩ := h
  rw [exec_ask, exec_ask, hout, hstore]
  exact ⟨rfl, by simp [Session.quiet, hcalls]⟩

theorem blind_order (c : StateChange) : Blind (order c) := by
  intro s₁ s₂ h
  simp only [Session.quiet, Session.mk.injEq] at h
  obtain ⟨hstore, hout, hcalls, -⟩ := h
  rw [exec_order, exec_order, hout, hstore]
  cases s₂.outages .changeTaskState with
  | some fault => exact ⟨rfl, by simp [Session.quiet, hcalls]⟩
  | none =>
    cases s₂.store.change c with
    | error fault => exact ⟨rfl, by simp [Session.quiet, hcalls]⟩
    | ok store => exact ⟨rfl, by simp [Session.quiet, hcalls]⟩

/-- What only reads the store does not read the log. -/
theorem Reads.blind {x : Resolving α} (h : Reads Store.Alike x) : Blind x := by
  induction h with
  | pure a => exact blind_pure a
  | throw fault => exact blind_throw fault
  | log e => exact blind_log e
  | ask c answer _ => exact blind_ask c answer
  | bind _ _ ihx ihf => exact blind_bind ihx ihf

end Resolving

open Resolving

/-! ## Builders and resolvers -/

/-- No builder reads the log. -/
def Registry.Blind (r : Registry) : Prop :=
  ∀ entry ∈ r.builders, ∀ p, Resolving.Blind (entry.2 p)

/-- The builders at hand do not read the log. -/
theorem blind_standard : Registry.standard.Blind :=
  fun _ hmem p => (reads_builder builtIn_standard hmem p).blind

theorem blind_build {r : Registry} (hr : r.Blind) (p : Parameters) : Blind (r.build p) := by
  unfold Registry.build
  cases hb : r.builder? p.taskType with
  | none => exact blind_pure _
  | some builder => exact hr _ (Registry.mem_of_builder? hb) p

variable {r : Resolver} {d₁ d₂ : Desk}

theorem blind_contextOf (hr : r.registry.Blind) (task : Task) (type : TaskType) (node : TaskNode)
    (process : ProcessRun) (tenant : Tenant) :
    Blind (r.contextOf task type node process tenant) := by
  refine blind_bind (reads_need _ _).blind fun definition => ?_
  refine blind_bind (blind_ask _ _) fun userQueue => ?_
  refine blind_bind (reads_parametersOf _ _).blind fun params => ?_
  refine blind_bind (reads_findResources _ _).blind fun resources => ?_
  refine blind_bind (blind_build hr _) fun relation => ?_
  exact blind_bind (blind_log _) fun _ => (reads_ofExcept _).blind

/-- **The resolver does not read the log, if its builders do not.** -/
theorem blind_resolve (hr : r.registry.Blind) (reference : Reference) :
    Blind (r.resolve reference) := by
  refine blind_bind (blind_ask _ _) fun detail => ?_
  refine blind_bind (reads_need _ _).blind fun task => ?_
  refine blind_bind (reads_need _ _).blind fun type => ?_
  refine blind_bind (reads_need _ _).blind fun node => ?_
  refine blind_bind (reads_need _ _).blind fun process => ?_
  refine blind_bind (blind_ask _ _) fun tenant => ?_
  cases tenant with
  | none =>
    refine blind_bind (blind_log _) fun _ => ?_
    exact blind_bind (blind_order _) fun _ => blind_pure _
  | some tenant => exact blind_bind (blind_contextOf hr _ _ _ _ _) fun _ => blind_pure _

/-! ## Iterations -/

/-- The iteration up to its request does not depend on the log. -/
theorem prepare_quiet (reference : Reference) (hr : r.registry.Blind) (h : d₁.quiet = d₂.quiet) :
    (prepare r reference d₁).1 = (prepare r reference d₂).1 ∧
      (prepare r reference d₁).2.quiet = (prepare r reference d₂).2.quiet := by
  simp only [Desk.quiet, Desk.mk.injEq] at h
  obtain ⟨hs, hreplies, hrequests, hserial⟩ := h
  obtain ⟨hres, hses⟩ := blind_resolve hr reference d₁.session d₂.session hs
  unfold prepare
  rcases h₁ : (r.resolve reference).exec d₁.session with ⟨r₁, t₁⟩
  rcases h₂ : (r.resolve reference).exec d₂.session with ⟨r₂, t₂⟩
  rw [h₁, h₂] at hres hses
  obtain rfl : r₁ = r₂ := hres
  have hses : t₁.quiet = t₂.quiet := hses
  rcases r₁ with fault | _ | context
  · simp [Desk.quiet, hses, hreplies, hrequests, hserial]
  · simp [Desk.quiet, hses, hreplies, hrequests, hserial]
  · simp [Desk.quiet, hses, hreplies, hrequests, hserial]

/-- Nor does what the reply makes of it. -/
theorem conclude_quiet (task : TaskId) (request : Request) (h : d₁.quiet = d₂.quiet) :
    (conclude task request d₁).1 = (conclude task request d₂).1 ∧
      (conclude task request d₁).2.quiet = (conclude task request d₂).2.quiet := by
  have hreplies : d₁.replies = d₂.replies := by
    simp only [Desk.quiet, Desk.mk.injEq] at h
    exact h.2.1
  have htail : ({ d₁ with replies := d₁.replies.tail } : Desk).quiet =
      ({ d₂ with replies := d₂.replies.tail } : Desk).quiet := by
    simp only [Desk.quiet, Desk.mk.injEq] at h ⊢
    exact ⟨h.1, by rw [hreplies], h.2.2⟩
  unfold conclude
  rw [hreplies] at htail ⊢
  cases d₂.replies.headD .accept <;> exact ⟨rfl, htail⟩

end Handoff
