import Handoff.Proofs.Session.Outages
/-!
# Calls that follow a plan

Which calls a computation makes can be planned from the store, where every method is up. A run that
comes to a value has made them all, in order; one that ends with a fault has stopped right after the
call that is to blame.

* `Follows`: the computation follows a plan.
* `follows_bind`, `follows_ask_bind`, `follows_need_bind`: two computations one after another follow
  the plan of the first and then that of the second.
* `Follows.exec`: **with methods down, a run makes the calls of the plan up to one that has failed or
  is to blame.**
-/

namespace Handoff.Resolving

variable {α β : Type} {store store' : Store} {blame : Call → Fault → Prop} {last : Call}
  {plan plan' : List Call} {x : Resolving α} {f : α → Resolving β}

/-- From this store, with every method up and after a last call, the computation makes the calls of
the plan in order: all of them if it comes to a value, and if it ends with a fault those up to one
that is to blame for it. -/
def Follows (store : Store) (blame : Call → Fault → Prop) (last : Call) (plan : List Call)
    (x : Resolving α) : Prop :=
  ∀ ⦃s : Session⦄, s.store = store → (s.outages = fun _ => none) →
    ∃ calls, (x.exec s).2.calls = s.calls ++ calls ∧ calls <+: plan ∧
      (∀ {a}, (x.exec s).1 = .ok a → calls = plan) ∧
      ∀ {fault}, (x.exec s).1 = .error fault → blame (calls.getLastD last) fault

theorem follows_pure (a : α) : Follows store blame last [] (pure a) :=
  fun _ _ _ => ⟨[], (List.append_nil _).symm, List.prefix_refl _, fun _ => rfl, nofun⟩

/-- A fault leaves the rest of the plan undone. -/
theorem follows_throw {fault : Fault} (h : blame last fault) :
    Follows store blame last plan (throw fault : Resolving α) := by
  refine fun s _ _ => ⟨[], (List.append_nil _).symm, List.nil_prefix, nofun, ?_⟩
  intro fault' hfault
  cases hfault
  exact h

/-- What comes after a look-up may count on its answer. -/
theorem follows_ask_bind {c : Call} {answer : Store → α}
    (h : Follows store blame c plan (f (answer store))) :
    Follows store blame last (c :: plan) (ask c answer >>= f) := by
  intro s hstore hup
  subst hstore
  rw [exec_ask_bind f (by rw [hup])]
  obtain ⟨calls, hcalls, hprefix, hok, hfault⟩ := h (s := { s with calls := s.calls ++ [c] }) rfl hup
  refine ⟨c :: calls, ?_, List.cons_prefix_cons.2 ⟨rfl, hprefix⟩, ?_, ?_⟩
  · rw [hcalls, List.append_assoc, List.singleton_append]
  · intro a ha
    rw [hok ha]
  · intro fault hresult
    rw [List.getLastD_cons]
    exact hfault hresult

/-- A look-up is answered. -/
theorem follows_ask (c : Call) (answer : Store → α) :
    Follows store blame last [c] (ask c answer) := by
  rw [← bind_pure (ask c answer)]
  exact follows_ask_bind (follows_pure _)

theorem follows_log_bind {e : Event} {f : Unit → Resolving β}
    (h : Follows store blame last plan (f ())) : Follows store blame last plan (log e >>= f) := by
  intro s hstore hup
  rw [exec_log_bind]
  exact h (s := { s with events := s.events ++ [e] }) hstore hup

/-- What comes after something that has to be there may count on it. -/
theorem follows_need_bind {fault : Fault} {a : Option α} (h : a = none → blame last fault)
    (hf : ∀ v, a = some v → Follows store blame last plan (f v)) :
    Follows store blame last plan (Resolver.need fault a >>= f) := by
  cases a with
  | none => exact follows_throw (h rfl)
  | some v => exact hf v rfl

/-- An order that the store accepts. -/
theorem follows_order {c : StateChange} (h : store.change c = .ok store') (a : α) :
    Follows store blame last [.changeTaskState c] (order c >>= fun _ => pure a) := by
  intro s hstore hup
  rw [exec_order_bind _ (by rw [hup]) (by rw [hstore, h])]
  exact ⟨[.changeTaskState c], rfl, List.prefix_refl _, fun _ => rfl, nofun⟩

/-- What is read first leaves the store to what comes then. -/
theorem follows_bind {R : Store → Store → Prop} (hreads : Reads R x)
    (hx : Follows store blame last plan x)
    (hf : ∀ a, Follows store blame (plan.getLastD last) plan' (f a)) :
    Follows store blame last (plan ++ plan') (x >>= f) := by
  intro s hstore hup
  obtain ⟨calls, hcalls, hprefix, hok, hfault⟩ := hx hstore hup
  obtain ⟨hkeep, hout⟩ := hreads.keeps s
  cases hresult : (x.exec s).1 with
  | error fault =>
    rw [exec_bind_of_error f hresult]
    refine ⟨calls, hcalls, hprefix.trans (List.prefix_append _ _), nofun, ?_⟩
    intro fault' heq
    cases heq
    exact hfault hresult
  | ok a =>
    obtain ⟨calls', hcalls', hprefix', hok', hfault'⟩ := hf a (hkeep.trans hstore) (hout.trans hup)
    obtain rfl := hok hresult
    rw [exec_bind_of_ok f hresult]
    refine ⟨calls ++ calls', ?_, (List.prefix_append_right_inj _).2 hprefix', ?_, ?_⟩
    · rw [hcalls', hcalls, List.append_assoc]
    · intro b hb
      rw [hok' hb]
    · intro fault hb
      have hlast : (calls ++ calls').getLastD last = calls'.getLastD (calls.getLastD last) := by
        simp only [List.getLastD_eq_getLast?, List.getLast?_append, Option.getD_or]
      rw [hlast]
      exact hfault' hb

/-- What makes no more calls leaves the plan as it is. -/
theorem follows_bind_nil {R : Store → Store → Prop} (hreads : Reads R x)
    (hx : Follows store blame last plan x)
    (hf : ∀ a, Follows store blame (plan.getLastD last) [] (f a)) :
    Follows store blame last plan (x >>= f) := by
  have hbind := follows_bind hreads hx hf
  rwa [List.append_nil] at hbind

/-- **A computation that follows a plan makes the calls of it, or those up to the one that has failed
or is to blame for the fault**, whichever methods are down. -/
theorem Follows.exec {s : Session} (hx : Composed x) (h : Follows s.store blame last plan x)
    (hlast : ∀ fault, ¬blame last fault) :
    ∃ calls, (x.exec s).2.calls = s.calls ++ calls ∧ calls <+: plan ∧
      (∀ a, (x.exec s).1 = .ok a → calls = plan ∧ s.outages.failure? calls = none) ∧
      ∀ fault, (x.exec s).1 = .error fault → ∃ earlier final, calls = earlier ++ [final] ∧
        s.outages.failure? earlier = none ∧
        match s.outages final.method with
        | some cause => fault = .service cause
        | none => blame final fault := by
  obtain ⟨calls, hcut⟩ := hx.cut s
  obtain ⟨calls', hcalls, hprefix, hok, hfault⟩ := h (s := s.up) rfl rfl
  obtain rfl : calls' = calls := List.append_cancel_left (hcalls.symm.trans hcut.calls_up)
  refine ⟨s.outages.reached calls', hcut.calls_eq, Outages.reached_prefix.trans hprefix, ?_, ?_⟩
  · intro a hresult
    cases hfail : s.outages.failure? calls' with
    | some cause => cases hresult.symm.trans (hcut.failed hfail)
    | none =>
      rw [Outages.reached_of_none hfail]
      exact ⟨hok ((hcut.answered hfail).1.symm.trans hresult), hfail⟩
  · intro fault hresult
    cases hfail : s.outages.failure? calls' with
    | some cause =>
      -- the run was cut off where the plan would have gone on
      obtain ⟨earlier, final, hreached, hearlier, hfinal⟩ := Outages.reached_of_some hfail
      refine ⟨earlier, final, hreached, hearlier, ?_⟩
      rw [hfinal]
      exact Except.error.inj (hresult.symm.trans (hcut.failed hfail))
    | none =>
      rw [Outages.reached_of_none hfail]
      have hblame := hfault ((hcut.answered hfail).1.symm.trans hresult)
      rcases List.eq_nil_or_concat' calls' with rfl | ⟨earlier, final, rfl⟩
      · exact absurd hblame (hlast fault)
      · rw [List.getLastD_concat] at hblame
        rw [Outages.failure?_append, Option.or_eq_none_iff, Outages.failure?_singleton] at hfail
        refine ⟨earlier, final, rfl, hfail.1, ?_⟩
        rw [hfail.2]
        exact hblame

end Handoff.Resolving
