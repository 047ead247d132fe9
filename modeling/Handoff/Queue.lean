import Handoff.Fault
import Handoff.Reference
/-!
# The queue of ready tasks

A queue hands out the smallest reference it holds. Once it is closed it takes no more references,
but those it holds are still handed out.

* `Queue.put`, `Queue.putText`, `Queue.close`, `Queue.take`: the operations.
* `mem_insert`, `length_insert`: what is put is held, once.
-/

namespace Handoff

/-- References in the order in which they are handed out, and whether the queue is closed. -/
structure Queue where
  held : List Reference
  closed : Bool
  deriving DecidableEq

/-- What a queue has for a taker: a reference, the word that there will be none any more, or
nothing yet. -/
inductive Taken where
  | reference (r : Reference) (rest : Queue)
  | closed
  | nothing
  deriving DecidableEq

namespace Queue

/-- An open queue that holds nothing. -/
def empty : Queue := ⟨[], false⟩

/-- Puts a reference at its place. -/
def insert (r : Reference) : List Reference → List Reference
  | [] => [r]
  | x :: xs => if r.le x then r :: x :: xs else x :: insert r xs

/-- References in the order in which a queue hands them out. -/
def sorted : List Reference → List Reference
  | [] => []
  | r :: rs => insert r (sorted rs)

/-- Takes a reference in, unless the queue is closed. -/
def put (q : Queue) (r : Reference) : Except QueueFault Queue :=
  if q.closed then .error .closed else .ok { q with held := insert r q.held }

/-- Takes in the reference that a text denotes. -/
def putText (q : Queue) (raw : String) : Except QueueFault Queue :=
  match Reference.read? raw with
  | some r => q.put r
  | none => .error (.malformed raw)

/-- Closes the queue. -/
def close (q : Queue) : Queue :=
  { q with closed := true }

/-- Hands out the smallest reference. -/
def take (q : Queue) : Taken :=
  match q.held with
  | r :: rs => .reference r { q with held := rs }
  | [] => if q.closed then .closed else .nothing

/-- The number of references held. -/
def size (q : Queue) : Nat :=
  q.held.length

/-- Nothing is held. -/
def isEmpty (q : Queue) : Bool :=
  q.held.isEmpty

@[simp]
theorem mem_insert {a r : Reference} {rs : List Reference} : a ∈ insert r rs ↔ a = r ∨ a ∈ rs := by
  induction rs with
  | nil => simp [insert]
  | cons x xs ih =>
    simp only [insert]
    split
    · simp
    · simp [ih, or_left_comm]

@[simp]
theorem length_insert (r : Reference) (rs : List Reference) :
    (insert r rs).length = rs.length + 1 := by
  induction rs with
  | nil => rfl
  | cons x xs ih =>
    simp only [insert]
    split <;> simp [ih]

end Queue

end Handoff
