import Handoff.Consumer
/-!
# Runs of computations in a session

What a computation comes to, and the session after it, step by step.

* `exec_bind`, `exec_ask`, `exec_order`: the run of one computation after another, of a look-up, and
  of an order.
* `exec_bind_ok`, `exec_ask_bind_ok`, `exec_need_bind_ok`, `exec_order_bind_ok`: how a run that came
  to a value went.
-/

namespace Handoff.Resolving

variable {α β : Type} {s s' : Session}

/-! ## Steps -/

theorem exec_bind (x : Resolving α) (f : α → Resolving β) (s : Session) :
    (x >>= f).exec s =
      match x.exec s with
      | (.ok a, s') => (f a).exec s'
      | (.error fault, s') => (.error fault, s') := by
  have hbind : (x >>= f).exec s = ExceptT.bindCont f (x.exec s).1 (x.exec s).2 := rfl
  rw [hbind]
  rcases x.exec s with ⟨_ | a, s'⟩ <;> rfl

theorem exec_bind_of_ok {x : Resolving α} {a : α} (f : α → Resolving β)
    (h : (x.exec s).1 = .ok a) : (x >>= f).exec s = (f a).exec (x.exec s).2 := by
  rw [exec_bind]
  rcases hrun : x.exec s with ⟨r, t⟩
  rw [hrun] at h
  obtain rfl : r = .ok a := h
  rfl

theorem exec_bind_of_error {x : Resolving α} {fault : Fault} (f : α → Resolving β)
    (h : (x.exec s).1 = .error fault) : (x >>= f).exec s = (.error fault, (x.exec s).2) := by
  rw [exec_bind]
  rcases hrun : x.exec s with ⟨r, t⟩
  rw [hrun] at h
  obtain rfl : r = .error fault := h
  rfl

theorem exec_get_bind (f : Session → Resolving α) (s : Session) :
    (get >>= f).exec s = (f s).exec s :=
  rfl

theorem place_exec (c : Call) (s : Session) :
    (place c).exec s =
      (match s.outages c.method with
        | some fault => .error (.service fault)
        | none => .ok (), { s with calls := s.calls ++ [c] }) := by
  have hplace : (place c).exec s = ExceptT.run (match s.outages c.method with
      | some fault => throw (.service fault)
      | none => pure () : Resolving Unit) { s with calls := s.calls ++ [c] } := rfl
  rw [hplace]
  cases s.outages c.method <;> rfl

/-- A look-up is recorded; it fails if its method is down, and is answered from the store if not. -/
theorem exec_ask (c : Call) (answer : Store → α) (s : Session) :
    (ask c answer).exec s =
      (match s.outages c.method with
        | some fault => .error (.service fault)
        | none => .ok (answer s.store), { s with calls := s.calls ++ [c] }) := by
  unfold ask
  rw [exec_bind, place_exec]
  cases s.outages c.method <;> rfl

/-- An order is recorded; it fails if its method is down or the store rejects the change, and then
the store stays as it was. -/
theorem exec_order (c : StateChange) (s : Session) :
    (order c).exec s =
      match s.outages .changeTaskState, s.store.change c with
      | none, .ok store =>
        (.ok (), { s with store := store, calls := s.calls ++ [Call.changeTaskState c] })
      | none, .error fault =>
        (.error (.service fault), { s with calls := s.calls ++ [Call.changeTaskState c] })
      | some fault, _ =>
        (.error (.service fault), { s with calls := s.calls ++ [Call.changeTaskState c] }) := by
  unfold order
  rw [exec_bind, place_exec]
  cases hout : s.outages .changeTaskState with
  | some fault => simp only [Call.method, hout]
  | none =>
    simp only [Call.method, hout, exec_get_bind]
    cases s.store.change c <;> rfl

/-! ## The step and what comes then -/

theorem exec_log_bind (e : Event) (f : Unit → Resolving β) (s : Session) :
    (log e >>= f).exec s = (f ()).exec { s with events := s.events ++ [e] } :=
  rfl

theorem exec_need_bind {fault : Fault} {a : Option α} {x : α} (f : α → Resolving β)
    (h : a = some x) : (Resolver.need fault a >>= f).exec s = (f x).exec s := by
  rw [h]
  rfl

theorem exec_ask_bind {c : Call} {answer : Store → α} (f : α → Resolving β)
    (h : s.outages c.method = none) :
    (ask c answer >>= f).exec s =
      (f (answer s.store)).exec { s with calls := s.calls ++ [c] } := by
  rw [exec_bind, exec_ask, h]

theorem exec_order_bind {c : StateChange} {store : Store} (f : Unit → Resolving β)
    (h : s.outages .changeTaskState = none) (hc : s.store.change c = .ok store) :
    (order c >>= f).exec s =
      (f ()).exec { s with store := store, calls := s.calls ++ [.changeTaskState c] } := by
  rw [exec_bind, exec_order, h, hc]

/-! ## Runs that came to a value -/

/-- What two computations come to was come to by the second, from where the first left off. -/
theorem exec_bind_ok {x : Resolving α} {f : α → Resolving β} {b : β}
    (h : (x >>= f).exec s = (.ok b, s')) :
    ∃ a t, x.exec s = (.ok a, t) ∧ (f a).exec t = (.ok b, s') := by
  rw [exec_bind] at h
  rcases hx : x.exec s with ⟨fault | a, t⟩ <;> rw [hx] at h
  · cases h
  · exact ⟨a, t, rfl, h⟩

theorem exec_ask_bind_ok {c : Call} {answer : Store → α} {f : α → Resolving β} {b : β}
    (h : (ask c answer >>= f).exec s = (.ok b, s')) :
    s.outages c.method = none ∧
      (f (answer s.store)).exec { s with calls := s.calls ++ [c] } = (.ok b, s') := by
  rw [exec_bind, exec_ask] at h
  cases hout : s.outages c.method with
  | some fault =>
    rw [hout] at h
    cases h
  | none =>
    rw [hout] at h
    exact ⟨rfl, h⟩

theorem exec_need_bind_ok {fault : Fault} {a : Option α} {f : α → Resolving β} {b : β}
    (h : (Resolver.need fault a >>= f).exec s = (.ok b, s')) :
    ∃ x, a = some x ∧ (f x).exec s = (.ok b, s') := by
  cases a with
  | none => cases h
  | some x => exact ⟨x, rfl, h⟩

theorem exec_order_bind_ok {c : StateChange} {f : Unit → Resolving β} {b : β}
    (h : (order c >>= f).exec s = (.ok b, s')) :
    s.outages .changeTaskState = none ∧ ∃ store, s.store.change c = .ok store ∧
      (f ()).exec { s with store := store, calls := s.calls ++ [.changeTaskState c] } =
        (.ok b, s') := by
  obtain ⟨_, t, ht, h⟩ := exec_bind_ok h
  rw [exec_order] at ht
  split at ht
  · rename_i store hout hchange
    cases ht
    exact ⟨hout, store, hchange, h⟩
  · cases ht
  · cases ht

end Handoff.Resolving
