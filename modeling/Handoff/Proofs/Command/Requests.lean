import Handoff.Proofs.Loop.History
import Handoff.Proofs.Resolution.Independence
/-!
# The requests that iterations make

Iterations over references, one after another, make one request for each reference that has a
context, in the order of the references, and number the requests without a gap.

* `Resolver.context?`: the context that a reference has when it is resolved alone.
* `Request.numbered`: the requests for contexts, numbered one after another.
* `consumeOne_requests`: an iteration makes one request at most.
* `consumeAll_requests`: **the requests are those for the contexts of the references, numbered.**
-/

namespace Handoff

/-- The context that a reference has when it is resolved alone in a session. -/
def Resolver.context? (r : Resolver) (s : Session) (reference : Reference) : Option Context :=
  match ((r.resolve reference).exec s).1 with
  | .ok context => context
  | .error _ => none

/-- The requests for contexts, with one number after another. -/
def Request.numbered : UInt64 → List Context → List Request
  | _, [] => []
  | serial, c :: cs => .forWorker serial c :: numbered (serial + 1) cs

variable {r : Resolver} {s : Session} {reference : Reference} {references : List Reference}
  {d : Desk}

/-- The request at a place has the number of that place. -/
theorem Request.map_numbered {α : Type} (f : Request → α) (serial : UInt64) (cs : List Context) :
    (numbered serial cs).map f =
      cs.mapIdx fun k c => f (.forWorker (serial + UInt64.ofNat k) c) := by
  induction cs generalizing serial with
  | nil => rfl
  | cons c cs ih =>
    have hnext : ∀ k : Nat, serial + 1 + UInt64.ofNat k = serial + UInt64.ofNat (k + 1) := by
      intro k
      rw [UInt64.ofNat_add, UInt64.add_assoc, UInt64.add_comm 1]
      rfl
    have hfirst : serial + UInt64.ofNat 0 = serial := UInt64.add_zero serial
    rw [numbered, List.map_cons, ih, List.mapIdx_cons, hfirst]
    simp only [hnext]

theorem conclude_serial (task : TaskId) (request : Request) (d : Desk) :
    (conclude task request d).2.serial = d.serial := by
  unfold conclude
  cases d.replies.headD .accept <;> rfl

/-- An iteration makes a request, and uses up a number, just if the reference has a context. -/
theorem consumeOne_requests (r : Resolver) (reference : Reference) (d : Desk) :
    match r.context? d.session reference with
    | some c => (consumeOne r reference d).2.requests = d.requests ++ [.forWorker d.serial c] ∧
        (consumeOne r reference d).2.serial = d.serial + 1
    | none => (consumeOne r reference d).2.requests = d.requests ∧
        (consumeOne r reference d).2.serial = d.serial := by
  unfold Resolver.context? consumeOne prepare
  rcases (r.resolve reference).exec d.session with ⟨fault | _ | c, s⟩
  · exact ⟨rfl, rfl⟩
  · exact ⟨rfl, rfl⟩
  · exact ⟨Loop.conclude_requests, conclude_serial _ _ _⟩

/-- Iterations add to the requests, and take none back. -/
theorem requests_prefix_consumeAll (r : Resolver) (references : List Reference) (d : Desk) :
    d.requests <+: (consumeAll r references d).2.requests := by
  induction references generalizing d with
  | nil => exact List.prefix_refl _
  | cons reference rest ih =>
    refine List.IsPrefix.trans ?_ (ih (consumeOne r reference d).2)
    have hone := consumeOne_requests r reference d
    cases hc : r.context? d.session reference with
    | none =>
      rw [hc] at hone
      exact ⟨[], (List.append_nil _).trans hone.1.symm⟩
    | some c =>
      rw [hc] at hone
      rw [hone.1]
      exact List.prefix_append ..

/-- **The requests are those for the contexts that the references have alone, numbered.** -/
theorem consumeAll_requests (hr : r.registry.BuiltIn) (hs : s.store.Keyed)
    (hstore : Store.Alike d.session.store s.store) (hout : d.session.outages = s.outages) :
    (consumeAll r references d).2.requests =
      d.requests ++ Request.numbered d.serial (references.filterMap (r.context? s)) := by
  -- from one iteration to the next the store stays alike to the one at the start
  induction references generalizing d with
  | nil => exact (List.append_nil _).symm
  | cons reference rest ih =>
    obtain ⟨hstore', hout'⟩ := consumeOne_session r reference d
    obtain ⟨halike, hkeep⟩ := Resolver.resolve_alike hr reference (hstore.keyed hs)
    have hnext : Store.Alike (consumeOne r reference d).2.session.store s.store := by
      rw [hstore']
      exact halike.trans hstore
    have hrest := ih hnext (hout'.trans (hkeep.trans hout))
    have hcontext : r.context? d.session reference = r.context? s reference := by
      unfold Resolver.context?
      rw [Resolver.resolve_congr hr reference hstore hout]
    have hone := consumeOne_requests r reference d
    rw [consumeAll, hrest, List.filterMap_cons]
    rw [hcontext] at hone
    cases hc : r.context? s reference with
    | none =>
      rw [hc] at hone
      rw [hone.1, hone.2]
    | some c =>
      rw [hc] at hone
      rw [hone.1, hone.2, Request.numbered, List.append_assoc, List.singleton_append]

end Handoff
