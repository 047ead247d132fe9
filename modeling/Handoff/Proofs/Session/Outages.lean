import Handoff.Proofs.Session.Reads
/-!
# What outages make of a run

Which methods of the service are down decides where a run ends, and nothing else. Up to the first
call that fails, a run is the one that it would be with every method up, and there it ends with the
failure of that call.

* `Outages.failure?`, `Outages.reached`: the first failure among calls, and the calls up to it.
* `Composed`: a computation put together from calls, faults and events; `composed_resolve`: a
  resolution is one.
* `Composed.cut`: **outages cut a run off at the first call that fails.**
-/

namespace Handoff

/-! ## Calls that fail -/

namespace Outages

variable {outages : Outages} {calls calls' : List Call} {cause : ServiceFault}

/-- How the first of the calls that fail fails. -/
def failure? (outages : Outages) (calls : List Call) : Option ServiceFault :=
  calls.findSome? fun c => outages c.method

/-- The calls up to the first one that fails. -/
def reached (outages : Outages) : List Call → List Call
  | [] => []
  | c :: calls => if (outages c.method).isSome then [c] else c :: reached outages calls

theorem failure?_append :
    outages.failure? (calls ++ calls') = (outages.failure? calls).or (outages.failure? calls') :=
  List.findSome?_append

theorem failure?_cons (c : Call) :
    outages.failure? (c :: calls) = (outages c.method).or (outages.failure? calls) := by
  unfold failure?
  rw [List.findSome?_cons]
  cases outages c.method <;> rfl

theorem failure?_singleton (c : Call) : outages.failure? [c] = outages c.method := by
  rw [failure?_cons]
  exact Option.or_none

/-- Where no call before fails, the last one decides. -/
theorem failure?_concat (h : outages.failure? calls = none) (c : Call) :
    outages.failure? (calls ++ [c]) = outages c.method := by
  rw [failure?_append, h, Option.none_or, failure?_singleton]

theorem failure?_isSome_iff :
    (outages.failure? calls).isSome ↔ ∃ c ∈ calls, (outages c.method).isSome :=
  List.findSome?_isSome_iff

theorem failure?_eq_none_iff :
    outages.failure? calls = none ↔ ∀ c ∈ calls, outages c.method = none :=
  List.findSome?_eq_none_iff

/-- Calls after one that fails are not reached. -/
theorem reached_append (h : outages.failure? calls = some cause) :
    outages.reached (calls ++ calls') = outages.reached calls := by
  induction calls with
  | nil => cases h
  | cons c calls ih =>
    rw [failure?_cons] at h
    rw [List.cons_append, reached, reached]
    cases hout : outages c.method with
    | some fault => rfl
    | none =>
      rw [hout, Option.none_or] at h
      rw [ih h]

/-- Where no call fails, all are reached, and so are those that come next. -/
theorem reached_append_of_none (h : outages.failure? calls = none) :
    outages.reached (calls ++ calls') = calls ++ outages.reached calls' := by
  induction calls with
  | nil => rfl
  | cons c calls ih =>
    rw [failure?_cons, Option.or_eq_none_iff] at h
    rw [List.cons_append, reached, h.1, ih h.2]
    rfl

/-- Where no call fails, all are reached. -/
theorem reached_of_none (h : outages.failure? calls = none) : outages.reached calls = calls := by
  have hall : outages.reached (calls ++ []) = calls ++ outages.reached [] := reached_append_of_none h
  rwa [reached, List.append_nil] at hall

/-- The calls that are reached end with the one that fails first. -/
theorem reached_of_some (h : outages.failure? calls = some cause) :
    ∃ earlier last, outages.reached calls = earlier ++ [last] ∧ outages.failure? earlier = none ∧
      outages last.method = some cause := by
  induction calls with
  | nil => cases h
  | cons c calls ih =>
    rw [failure?_cons] at h
    rw [reached]
    cases hout : outages c.method with
    | some fault =>
      rw [hout] at h
      exact ⟨[], c, rfl, rfl, hout.trans h⟩
    | none =>
      rw [hout, Option.none_or] at h
      obtain ⟨earlier, last, hreached, hearlier, hlast⟩ := ih h
      refine ⟨c :: earlier, last, ?_, ?_, hlast⟩
      · rw [hreached]
        rfl
      · rw [failure?_cons, hout, hearlier]
        rfl

theorem reached_prefix : outages.reached calls <+: calls := by
  induction calls with
  | nil => exact List.prefix_refl _
  | cons c calls ih =>
    rw [reached]
    split
    · exact ⟨calls, rfl⟩
    · exact List.cons_prefix_cons.2 ⟨rfl, ih⟩

end Outages

/-- A session with every method up. -/
def Session.up (s : Session) : Session :=
  { s with outages := fun _ => none }

theorem Session.up_of_none {s : Session} (h : s.outages = fun _ => none) : s.up = s := by
  unfold Session.up
  rw [← h]

namespace Resolving

variable {α β : Type}

/-! ## Runs that are cut off -/

/-- A computation put together from calls, faults and events. -/
inductive Composed : {α : Type} → Resolving α → Prop where
  | pure {α : Type} (a : α) : Composed (pure a)
  | throw {α : Type} (fault : Fault) : Composed (throw fault : Resolving α)
  | log (e : Event) : Composed (log e)
  | ask {α : Type} (c : Call) (answer : Store → α) : Composed (ask c answer)
  | order (c : StateChange) : Composed (order c)
  | bind {α β : Type} {x : Resolving α} {f : α → Resolving β} (hx : Composed x)
    (hf : ∀ a, Composed (f a)) : Composed (x >>= f)

/-- What only reads is put together from calls. -/
theorem Reads.composed {R : Store → Store → Prop} {x : Resolving α} (h : Reads R x) :
    Composed x := by
  induction h with
  | pure a => exact .pure a
  | throw fault => exact .throw fault
  | log e => exact .log e
  | ask c answer _ => exact .ask c answer
  | bind _ _ ihx ihf => exact .bind ihx ihf

/-- The run makes these calls with every method up; with the methods of the session down it is cut
off at the first of them that fails. -/
structure Cut (x : Resolving α) (s : Session) (calls : List Call) : Prop where
  calls_up : (x.exec s.up).2.calls = s.calls ++ calls
  calls_eq : (x.exec s).2.calls = s.calls ++ s.outages.reached calls
  outages_eq : (x.exec s).2.outages = s.outages
  failed : ∀ {cause}, s.outages.failure? calls = some cause →
    (x.exec s).1 = .error (.service cause)
  answered : s.outages.failure? calls = none →
    (x.exec s).1 = (x.exec s.up).1 ∧ (x.exec s).2.up = (x.exec s.up).2

variable {x : Resolving α} {s : Session} {calls : List Call}

/-- A run of a single call that is recorded, and fails if its method is down. -/
theorem Cut.of_call {c : Call} (hcalls : ∀ s, (x.exec s).2.calls = s.calls ++ [c])
    (hout : ∀ s, (x.exec s).2.outages = s.outages)
    (hfailed : ∀ {cause}, s.outages c.method = some cause → (x.exec s).1 = .error (.service cause))
    (hanswered : s.outages c.method = none →
      (x.exec s).1 = (x.exec s.up).1 ∧ (x.exec s).2.up = (x.exec s.up).2) : Cut x s [c] := by
  have hone : s.outages.failure? [c] = s.outages c.method := Outages.failure?_singleton c
  have hreached : s.outages.reached [c] = [c] := by
    rw [Outages.reached]
    split <;> rfl
  refine ⟨hcalls s.up, ?_, hout s, ?_, ?_⟩
  · rw [hreached]
    exact hcalls s
  · intro cause hcause
    exact hfailed (hone ▸ hcause)
  · intro hnone
    exact hanswered (hone ▸ hnone)

/-- What comes after a run that ends with a fault is never reached. -/
theorem Cut.bind_error (hx : Cut x s calls) {fault : Fault} (f : α → Resolving β)
    (h : (x.exec s.up).1 = .error fault) : Cut (x >>= f) s calls := by
  have hup := exec_bind_of_error f h
  have hend : ∃ fault, (x.exec s).1 = .error fault := by
    cases hfail : s.outages.failure? calls with
    | some cause => exact ⟨_, hx.failed hfail⟩
    | none => exact ⟨fault, (hx.answered hfail).1.trans h⟩
  obtain ⟨fault', hend⟩ := hend
  have hrun := exec_bind_of_error f hend
  refine ⟨?_, ?_, ?_, ?_, ?_⟩
  · rw [hup]
    exact hx.calls_up
  · rw [hrun]
    exact hx.calls_eq
  · rw [hrun]
    exact hx.outages_eq
  · intro cause hcause
    have hcause := hend.symm.trans (hx.failed hcause)
    rw [hrun]
    exact congrArg _ (Except.error.inj hcause)
  · intro hnone
    obtain ⟨hresult, hs⟩ := hx.answered hnone
    obtain rfl : fault' = fault := Except.error.inj (hend.symm.trans (hresult.trans h))
    rw [hrun, hup]
    exact ⟨rfl, hs⟩

/-- What comes after a run with a value is cut off on its own, unless the run was cut off. -/
theorem Cut.bind_ok (hx : Cut x s calls) {a : α} {f : α → Resolving β} {calls' : List Call}
    (h : (x.exec s.up).1 = .ok a) (hup : (x.exec s.up).2.up = (x.exec s.up).2)
    (hf : Cut (f a) { (x.exec s.up).2 with outages := s.outages } calls') :
    Cut (x >>= f) s (calls ++ calls') := by
  have hrun_up := exec_bind_of_ok f h
  have hcalls_up := hf.calls_up
  change ((f a).exec (x.exec s.up).2.up).2.calls = (x.exec s.up).2.calls ++ calls' at hcalls_up
  rw [hup, hx.calls_up, List.append_assoc] at hcalls_up
  cases hfail : s.outages.failure? calls with
  | some cause =>
    -- the first run is cut off already
    have hrun := exec_bind_of_error f (hx.failed hfail)
    have hboth : s.outages.failure? (calls ++ calls') = some cause := by
      rw [Outages.failure?_append, hfail]
      rfl
    refine ⟨by rw [hrun_up, hcalls_up], ?_, ?_, ?_, ?_⟩
    · rw [hrun, Outages.reached_append hfail]
      exact hx.calls_eq
    · rw [hrun]
      exact hx.outages_eq
    · intro cause' hcause
      rw [hboth] at hcause
      cases hcause
      rw [hrun]
    · intro hnone
      rw [hboth] at hnone
      cases hnone
  | none =>
    -- the second run starts where it would with every method up
    obtain ⟨hresult, hs⟩ := hx.answered hfail
    have hstart : (x.exec s).2 = { (x.exec s.up).2 with outages := s.outages } := by
      rw [← hs, ← hx.outages_eq]
      rfl
    have hrun := exec_bind_of_ok f (hresult.trans h)
    rw [hstart] at hrun
    have hboth : s.outages.failure? (calls ++ calls') = s.outages.failure? calls' := by
      rw [Outages.failure?_append, hfail]
      rfl
    refine ⟨by rw [hrun_up, hcalls_up], ?_, ?_, ?_, ?_⟩
    · rw [hrun, hf.calls_eq, Outages.reached_append_of_none hfail]
      show (x.exec s.up).2.calls ++ _ = _
      rw [hx.calls_up, List.append_assoc]
    · rw [hrun]
      exact hf.outages_eq
    · intro cause hcause
      rw [hrun]
      exact hf.failed (hboth ▸ hcause)
    · intro hnone
      have hanswered := hf.answered (hboth ▸ hnone)
      change _ = ((f a).exec (x.exec s.up).2.up).1 ∧ _ = ((f a).exec (x.exec s.up).2.up).2
        at hanswered
      rw [hrun, hrun_up, ← hup]
      exact hanswered

/-- **Outages cut a run off at the first call that fails.** -/
theorem Composed.cut (h : Composed x) (s : Session) : ∃ calls, Cut x s calls := by
  induction h generalizing s with
  | pure a =>
    exact ⟨[], (List.append_nil _).symm, (List.append_nil _).symm, rfl, nofun, fun _ => ⟨rfl, rfl⟩⟩
  | throw fault =>
    exact ⟨[], (List.append_nil _).symm, (List.append_nil _).symm, rfl, nofun, fun _ => ⟨rfl, rfl⟩⟩
  | log e =>
    exact ⟨[], (List.append_nil _).symm, (List.append_nil _).symm, rfl, nofun, fun _ => ⟨rfl, rfl⟩⟩
  | ask c answer =>
    refine ⟨[c], .of_call (fun s => ?_) (fun s => ?_) ?_ ?_⟩
    · rw [exec_ask]
    · rw [exec_ask]
    · intro cause hout
      rw [exec_ask, hout]
    · intro hout
      rw [exec_ask, exec_ask, hout]
      exact ⟨rfl, rfl⟩
  | order c =>
    refine ⟨[.changeTaskState c], .of_call (fun s => ?_) (fun s => ?_) ?_ ?_⟩
    · rw [exec_order]
      split <;> rfl
    · rw [exec_order]
      split <;> rfl
    · intro cause hout
      rw [exec_order, show s.outages .changeTaskState = some cause from hout]
    · intro hout
      have hout : s.outages .changeTaskState = none := hout
      simp only [exec_order, Session.up, hout]
      cases s.store.change c <;> exact ⟨rfl, rfl⟩
  | @bind _ _ x f hx hf ihx ihf =>
    obtain ⟨calls, hx⟩ := ihx s
    -- with every method up all methods stay up, and that run has the value that `f` goes on from
    obtain ⟨_, hup⟩ := ihx s.up
    cases hresult : (x.exec s.up).1 with
    | error fault => exact ⟨calls, hx.bind_error f hresult⟩
    | ok a =>
      obtain ⟨calls', hf⟩ := ihf a { (x.exec s.up).2 with outages := s.outages }
      exact ⟨calls ++ calls', hx.bind_ok hresult (Session.up_of_none hup.outages_eq) hf⟩

end Resolving

open Resolving

/-- A resolution is put together from calls, if all builders are those at hand. -/
theorem Resolver.composed_resolve {r : Resolver} (hr : r.registry.BuiltIn)
    (reference : Reference) : Composed (r.resolve reference) := by
  have hneed : ∀ {α : Type} (fault : Fault) (a : Option α), Composed (Resolver.need fault a) :=
    fun fault a => (reads_need (R := Eq) fault a).composed
  refine .bind (.ask _ _) fun detail => ?_
  refine .bind (hneed _ _) fun task => ?_
  refine .bind (hneed _ _) fun type => ?_
  refine .bind (hneed _ _) fun node => ?_
  refine .bind (hneed _ _) fun process => ?_
  refine .bind (.ask _ _) fun tenant => ?_
  cases tenant with
  | none =>
    refine .bind (.log _) fun _ => ?_
    exact .bind (.order _) fun _ => .pure _
  | some tenant => exact .bind (reads_contextOf hr _ _ _ _ _).composed fun _ => .pure _

end Handoff
