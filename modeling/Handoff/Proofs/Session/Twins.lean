import Handoff.Proofs.Session.Reads
/-!
# Two sessions side by side

A computation that is run in two sessions, with two stores, does the same in both as long as the
answers that it asks for are the same. Which answers those are may depend on earlier ones.

* `Twins`: the computation comes to the same result from both stores, by the same calls and with the
  same changes of states.
* `twins_bind`, `twins_ask_bind`, `twins_need_bind`: **two computations one after another do, if the
  second does after every value that the first can come to.**
-/

namespace Handoff.Resolving

variable {α β : Type} {a b : Store} {x : Resolving α} {f : α → Resolving β}

/-- From these two stores, and with the same methods down, the computation comes to the same result,
makes the same calls, and has the same changes accepted. -/
def Twins (a b : Store) (x : Resolving α) : Prop :=
  ∀ ⦃s₁ s₂ : Session⦄, s₁.store = a → s₂.store = b → s₁.outages = s₂.outages →
    s₁.calls = s₂.calls → (x.exec s₁).1 = (x.exec s₂).1 ∧
      (x.exec s₁).2.calls = (x.exec s₂).2.calls ∧
      ∃ changes, (x.exec s₁).2.store.changes = a.changes ++ changes ∧
        (x.exec s₂).2.store.changes = b.changes ++ changes

/-- What changes no store has no changes accepted. -/
theorem twins_of_keeps (hx : ∀ s, (x.exec s).2.store = s.store)
    (h : ∀ ⦃s₁ s₂ : Session⦄, s₁.store = a → s₂.store = b → s₁.outages = s₂.outages →
      s₁.calls = s₂.calls → (x.exec s₁).1 = (x.exec s₂).1 ∧
        (x.exec s₁).2.calls = (x.exec s₂).2.calls) : Twins a b x := by
  intro s₁ s₂ ha hb hout hcalls
  obtain ⟨hresult, hcalls'⟩ := h ha hb hout hcalls
  refine ⟨hresult, hcalls', [], ?_, ?_⟩
  · rw [hx, ha, List.append_nil]
  · rw [hx, hb, List.append_nil]

theorem twins_pure (v : α) : Twins a b (pure v) :=
  twins_of_keeps (fun _ => rfl) fun _ _ _ _ _ hcalls => ⟨rfl, hcalls⟩

theorem twins_throw (fault : Fault) : Twins a b (throw fault : Resolving α) :=
  twins_of_keeps (fun _ => rfl) fun _ _ _ _ _ hcalls => ⟨rfl, hcalls⟩

theorem twins_log (e : Event) : Twins a b (log e) :=
  twins_of_keeps (fun _ => rfl) fun _ _ _ _ _ hcalls => ⟨rfl, hcalls⟩

theorem twins_ofExcept (r : Except Fault α) : Twins a b (ofExcept r) := by
  cases r with
  | ok v => exact twins_pure v
  | error fault => exact twins_throw fault

/-- A look-up that both stores answer alike. -/
theorem twins_ask (c : Call) {answer : Store → α} (h : answer a = answer b) :
    Twins a b (ask c answer) := by
  refine twins_of_keeps (fun s => by rw [exec_ask]) ?_
  intro s₁ s₂ ha hb hout hcalls
  rw [exec_ask, exec_ask, hout, hcalls, ha, hb, h]
  exact ⟨rfl, rfl⟩

/-- What is read first leaves the stores to what comes then. -/
theorem twins_bind {R : Store → Store → Prop} (hreads : Reads R x) (hx : Twins a b x)
    (hf : ∀ v, Twins a b (f v)) : Twins a b (x >>= f) := by
  intro s₁ s₂ ha hb hout hcalls
  obtain ⟨hresult, hcalls', hchanges⟩ := hx ha hb hout hcalls
  obtain ⟨hstore₁, hout₁⟩ := hreads.keeps s₁
  obtain ⟨hstore₂, hout₂⟩ := hreads.keeps s₂
  cases hrun : (x.exec s₁).1 with
  | error fault =>
    rw [exec_bind_of_error f hrun, exec_bind_of_error f (hresult.symm.trans hrun)]
    exact ⟨rfl, hcalls', hchanges⟩
  | ok v =>
    rw [exec_bind_of_ok f hrun, exec_bind_of_ok f (hresult.symm.trans hrun)]
    exact hf v (hstore₁.trans ha) (hstore₂.trans hb) (hout₁.trans (hout.trans hout₂.symm)) hcalls'

/-- What comes after a look-up may count on its answer. -/
theorem twins_ask_bind {c : Call} {answer : Store → α} (h : answer a = answer b)
    (hf : Twins a b (f (answer a))) : Twins a b (ask c answer >>= f) := by
  intro s₁ s₂ ha hb hout hcalls
  cases hdown : s₂.outages c.method with
  | some fault =>
    have h₁ : (ask c answer >>= f).exec s₁ =
        (.error (.service fault), { s₁ with calls := s₁.calls ++ [c] }) := by
      rw [exec_bind, exec_ask, hout, hdown]
    have h₂ : (ask c answer >>= f).exec s₂ =
        (.error (.service fault), { s₂ with calls := s₂.calls ++ [c] }) := by
      rw [exec_bind, exec_ask, hdown]
    rw [h₁, h₂, hcalls, ← ha, ← hb]
    exact ⟨rfl, rfl, [], (List.append_nil _).symm, (List.append_nil _).symm⟩
  | none =>
    rw [exec_ask_bind f (hout ▸ hdown), exec_ask_bind f hdown, ha, hb, ← h, hcalls]
    refine hf ?_ ?_ ?_ ?_
    · rfl
    · rfl
    · exact hout
    · rfl

/-- What comes after something that has to be there may count on it. -/
theorem twins_need_bind {fault : Fault} {v : Option α} (hf : ∀ w, v = some w → Twins a b (f w)) :
    Twins a b (Resolver.need fault v >>= f) := by
  cases v with
  | none => exact twins_throw fault
  | some w => exact hf w rfl

/-- An order for a task that both stores have, or neither. -/
theorem twins_order (c : StateChange) (v : α)
    (h : (a.tasks.any fun t => t.id = c.taskId) = b.tasks.any fun t => t.id = c.taskId) :
    Twins a b (order c >>= fun _ => pure v) := by
  intro s₁ s₂ ha hb hout hcalls
  subst ha hb
  rw [exec_bind, exec_bind, exec_order, exec_order, hout, hcalls]
  unfold Store.change
  rw [h]
  cases s₂.outages .changeTaskState with
  | some fault =>
    exact ⟨rfl, rfl, [], (List.append_nil _).symm, (List.append_nil _).symm⟩
  | none =>
    cases s₂.store.tasks.any fun t => t.id = c.taskId with
    | false => exact ⟨rfl, rfl, [], (List.append_nil _).symm, (List.append_nil _).symm⟩
    | true => exact ⟨rfl, rfl, [c], rfl, rfl⟩

end Handoff.Resolving
