import Handoff.Proofs.Resolution.Atomic
/-!
# Iterations do not influence each other

Iterations share one store and write states of tasks to it. What a resolution comes to does not
depend on them: neither a look-up nor the choice of queue, resources or relation reads a state.

* `Resolver.resolve_congr`: stores that differ in states alone lead to the same result.
* `Resolver.resolve_alike`: a resolution changes a store in states alone.
* `Resolver.resolutions`: the results of references that are consumed one after another.
* `Resolver.resolutions_eq_map`: each result is the one that the reference alone would have.
* `Resolver.resolutions_independent`: **so it is in any order and with any replies.**
-/

namespace Handoff

open Resolving

namespace Resolver

variable {r : Resolver}

/-- An order is accepted, or rejected, whatever the states of tasks are. -/
theorem agrees_order {α : Type} (c : StateChange) (a : α) :
    Agrees Store.Alike (order c >>= fun _ => pure a) := by
  intro s₁ s₂ hstore hout
  rw [exec_bind, exec_bind, exec_order, exec_order, hout]
  unfold Store.change
  rw [hstore.any_eq]
  cases s₂.outages .changeTaskState with
  | some fault => rfl
  | none =>
    cases s₂.store.tasks.any fun t => t.id = c.taskId <;> rfl

theorem agrees_proceed (hr : r.registry.BuiltIn) (task : Task) :
    Agrees Store.Alike (r.proceed task) := by
  refine .bind (reads_need _ _) fun type => ?_
  refine .bind (reads_need _ _) fun node => ?_
  refine .bind (reads_need _ _) fun process => ?_
  refine .bind (reads_ask _ fun _ => rfl) fun tenant => ?_
  cases tenant with
  | none => exact .bind (.log _) fun _ => agrees_order _ _
  | some tenant => exact .bind (reads_contextOf hr _ _ _ _ _) fun _ => (Reads.pure _).agrees

/-- **Stores that differ in states alone lead to the same result.** -/
theorem resolve_congr (hr : r.registry.BuiltIn) (reference : Reference) :
    Agrees Store.Alike (r.resolve reference) := by
  -- the look-up of the task is the only one that shows its state, and nothing after it reads that
  have hforget : ∀ detail : Option Task,
      (need (.taskNotFound reference.taskId) (detail.map Task.failed) >>= r.proceed) =
        need (.taskNotFound reference.taskId) detail >>= r.proceed := by
    intro detail
    cases detail with
    | none => rfl
    | some task => exact r.proceed_failed task
  intro s₁ s₂ hstore hout
  rw [resolve_eq, exec_bind, exec_bind, exec_ask, exec_ask, hout]
  cases s₂.outages (Call.taskDetail reference.taskId).method with
  | some fault => rfl
  | none =>
    have hdetail := hstore.detail?_eq reference.taskId
    have hagree : Agrees Store.Alike (need (.taskNotFound reference.taskId)
        (s₂.store.detail? reference.taskId) >>= r.proceed) :=
      .bind (reads_need _ _) fun task => agrees_proceed hr task
    dsimp only
    rw [← hforget, hdetail, hforget]
    exact hagree hstore rfl

/-- A resolution changes a store in states alone, and leaves the outages as they are. -/
theorem resolve_alike (hr : r.registry.BuiltIn) (reference : Reference) {s : Session}
    (hs : s.store.Keyed) : Store.Alike ((r.resolve reference).exec s).2.store s.store ∧
      ((r.resolve reference).exec s).2.outages = s.outages := by
  obtain ⟨hout, hkeeps⟩ := spares_resolve hr reference s
  refine ⟨?_, hout⟩
  by_cases hrun : ((r.resolve reference).exec s).1 = .ok none
  · obtain ⟨t, hlack, hchange, -⟩ := lacksTenant_of_exec (Prod.ext hrun rfl)
    have hfail := Store.change_failure hs (List.mem_of_find?_eq_some hlack.stored)
    rw [Except.ok.inj (hchange.symm.trans hfail)]
    exact s.store.fail_alike t
  · rw [hkeeps hrun]
    exact Store.alike_refl _

/-! ## Iterations -/

/-- The result of each reference when all of them are consumed one after another. -/
def resolutions (r : Resolver) : List Reference → Desk → List (Except Fault (Option Context))
  | [], _ => []
  | reference :: rest, d =>
    ((r.resolve reference).exec d.session).1 ::
      resolutions r rest (consumeOne r reference d).2

end Resolver

/-- An iteration leaves store and outages as its resolution has left them, whatever the dispatcher
replies. -/
theorem consumeOne_session (r : Resolver) (reference : Reference) (d : Desk) :
    (consumeOne r reference d).2.session.store = ((r.resolve reference).exec d.session).2.store ∧
      (consumeOne r reference d).2.session.outages =
        ((r.resolve reference).exec d.session).2.outages := by
  have hconclude : ∀ (task : TaskId) (request : Request) (d : Desk),
      (conclude task request d).2.session.store = d.session.store ∧
        (conclude task request d).2.session.outages = d.session.outages := by
    intro task request d
    unfold conclude
    cases d.replies.headD .accept <;> exact ⟨rfl, rfl⟩
  unfold consumeOne prepare
  rcases (r.resolve reference).exec d.session with ⟨fault | _ | context, s⟩
  · exact ⟨rfl, rfl⟩
  · exact ⟨rfl, rfl⟩
  · exact hconclude _ _ _

namespace Resolver

variable {r : Resolver}

/-- Each result is the one that the reference alone would have, in any store that differs in states
alone. -/
theorem resolutions_eq_map (hr : r.registry.BuiltIn) {s : Session} (hs : s.store.Keyed)
    (references : List Reference) {d : Desk} (hstore : Store.Alike d.session.store s.store)
    (hout : d.session.outages = s.outages) :
    r.resolutions references d =
      references.map fun reference => ((r.resolve reference).exec s).1 := by
  -- from one iteration to the next the store stays alike to the one at the start
  induction references generalizing d with
  | nil => rfl
  | cons reference rest ih =>
    obtain ⟨hstore', hout'⟩ := consumeOne_session r reference d
    obtain ⟨halike, hkeep⟩ := resolve_alike hr reference (hstore.keyed hs)
    have hnext : Store.Alike (consumeOne r reference d).2.session.store s.store := by
      rw [hstore']
      exact halike.trans hstore
    have hrest := ih hnext (hout'.trans (hkeep.trans hout))
    rw [resolutions, List.map_cons, resolve_congr hr reference hstore hout, hrest]

/-- **Iterations do not influence each other.** References that are consumed one after another, in
any order and with any replies, have the results that each of them would have alone. -/
theorem resolutions_independent (settings : Settings) (records : Snapshot) (outages : Outages)
    (references : List Reference) (replies : List Reply) :
    let r : Resolver := ⟨.standard, settings⟩
    let alone := Session.fresh (.ofSnapshot records) outages
    r.resolutions references (.fresh alone replies) =
        references.map (fun reference => ((r.resolve reference).exec alone).1) ∧
      ∀ (references' : List Reference) (replies' : List Reply), references'.Perm references →
        (references'.zip (r.resolutions references' (.fresh alone replies'))).Perm
          (references.zip (r.resolutions references (.fresh alone replies))) := by
  intro r alone
  have hmap : ∀ (references : List Reference) (replies : List Reply),
      r.resolutions references (.fresh alone replies) =
        references.map fun reference => ((r.resolve reference).exec alone).1 :=
    fun references replies => resolutions_eq_map builtIn_standard (Store.keyed_ofSnapshot records)
      references (Store.alike_refl _) rfl
  refine ⟨hmap references replies, fun references' replies' hperm => ?_⟩
  rw [hmap references' replies', hmap references replies, ← List.map_prod_left_eq_zip,
    ← List.map_prod_left_eq_zip]
  exact hperm.map _

/-- The reference to a task that gets marked as failed, and one to a task that does not exist. -/
theorem resolutions_independent_swap :
    let r : Resolver := ⟨.standard, .standard⟩
    let alone := Session.fresh (.ofSnapshot untenanted) fun _ => none
    let other : Reference := { shellReference with taskId := ⟨8⟩ }
    [other, shellReference].Perm [shellReference, other] ∧
      ([other, shellReference].zip
        (r.resolutions [other, shellReference] (.fresh alone [.decline]))).Perm
        ([shellReference, other].zip
          (r.resolutions [shellReference, other] (.fresh alone []))) := by
  intro r alone other
  have hswap : [other, shellReference].Perm [shellReference, other] := .swap _ _ _
  have hall := resolutions_independent .standard untenanted (fun _ => none)
    [shellReference, other] []
  exact ⟨hswap, hall.2 [other, shellReference] [.decline] hswap⟩

end Resolver

end Handoff
