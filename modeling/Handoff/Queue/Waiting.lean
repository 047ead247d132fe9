import Handoff.Queue
/-!
# Waiting for references

Several callers share one queue. Its content is behind a lock, and takers that find nothing wait
for a bell. Every call runs through stages, and the calls may be interleaved in any order of their
steps:

* a taker registers with the bell, then takes the lock and looks; if it finds nothing it waits until
  the bell rings for it, and starts over;
* a putter takes the lock and puts its reference in, and rings the bell for one taker afterwards;
* a closer takes the lock and closes the queue, and rings the bell for all takers afterwards.

The bell keeps its waiters in the order in which they came. Rung for one, it wakes the first of
them, or with nobody waiting it keeps one ring in store, which the next taker to register uses up.
A taker that gives up or leaves after a ring for one was meant for it, without having woken to it,
passes that ring on.

* `Hall.step`: one step of one call; `none` if the call cannot make it now.
* `Hall.settle`: lets one call run alone until it is done or has to wait.
-/

namespace Handoff

/-- What a caller wants. -/
inductive Errand where
  | take
  | put (r : Reference)
  | putText (raw : String)
  | close
  deriving DecidableEq

/-- How far a taker's registration with the bell has come: it waits, the bell has rung for it (alone
or together with all others), or it has used up a ring that was in store. -/
inductive Ticket where
  | waiting
  | rungAlone
  | rungAll
  | usedStored
  deriving DecidableEq

/-- What a call came to. -/
inductive CallResult where
  | got (r : Reference)
  | accepted
  | refused (fault : QueueFault)
  deriving DecidableEq

/-- Where a call is: about to start (over), about to take the lock, suspended until the lock is
free, holding the lock, suspended until the bell rings, past the lock with a ring still to give,
about to leave with its result, done, or given up. Takers hold their ticket while they have one. -/
inductive Stage where
  | ready
  | entering (ticket : Option Ticket)
  | blocked (ticket : Option Ticket)
  | inside (ticket : Option Ticket)
  | parked (ticket : Ticket)
  | ringing (result : CallResult)
  | leaving (ticket : Ticket) (result : CallResult)
  | done (result : CallResult)
  | givenUp
  deriving DecidableEq

/-- A call: what it wants and where it is. -/
structure Caller where
  errand : Errand
  stage : Stage
  deriving DecidableEq

/-- A queue with its lock, its bell and all calls so far, numbered from 0. -/
structure Hall where
  queue : Queue
  lock : Option Nat
  stored : Bool
  waiters : List Nat
  callers : List Caller
  deriving DecidableEq

/-- The steps of calls: a new call, registering with the bell or starting otherwise, finding the
lock held, taking the lock, doing the work under the lock and releasing it, ringing the bell, waking
to it, leaving, and giving up while suspended. -/
inductive HallStep where
  | call (errand : Errand)
  | arm (i : Nat)
  | block (i : Nat)
  | enter (i : Nat)
  | act (i : Nat)
  | ring (i : Nat)
  | wake (i : Nat)
  | leave (i : Nat)
  | giveUp (i : Nat)
  deriving DecidableEq

namespace Hall

/-- An empty queue without calls. -/
def empty : Hall :=
  ⟨.empty, none, false, [], []⟩

/-- Moves a call on. -/
def move (h : Hall) (i : Nat) (stage : Stage) : Hall :=
  { h with callers := h.callers.modify i fun c => { c with stage := stage } }

/-- Marks the ticket of a taker. -/
def mark (ticket : Ticket) : Stage → Stage
  | .entering (some _) => .entering (some ticket)
  | .blocked (some _) => .blocked (some ticket)
  | .inside (some _) => .inside (some ticket)
  | .parked _ => .parked ticket
  | .leaving _ result => .leaving ticket result
  | stage => stage

/-- Gives a ring to a taker. -/
def ringFor (h : Hall) (ticket : Ticket) (i : Nat) : Hall :=
  { h with callers := h.callers.modify i fun c => { c with stage := mark ticket c.stage } }

/-- Rings for one: the first waiter is woken, or the ring is stored. -/
def ringOne (h : Hall) : Hall :=
  match h.waiters with
  | [] => { h with stored := true }
  | i :: rest => ringFor { h with waiters := rest } .rungAlone i

/-- Rings for all waiters; nothing is stored. -/
def ringAll (h : Hall) : Hall :=
  h.waiters.foldl (fun h i => h.ringFor .rungAll i) { h with waiters := [] }

/-- Hands in the ticket of a taker: it no longer waits, and a ring that was meant for it alone and
that it has not woken to goes to the next. -/
def handIn (h : Hall) (i : Nat) : Ticket → Hall
  | .waiting => { h with waiters := h.waiters.filter (· ≠ i) }
  | .rungAlone => h.ringOne
  | .rungAll | .usedStored => h

/-- Registers a taker with the bell. -/
def register (h : Hall) (i : Nat) : Hall :=
  if h.stored then { h with stored := false }.move i (.entering (some .usedStored))
  else { h with waiters := h.waiters ++ [i] }.move i (.entering (some .waiting))

/-- Releases the lock. -/
def unlock (h : Hall) : Hall :=
  { h with lock := none }

/-- A putter's work under the lock; a closed queue refuses, and the bell is not rung. -/
def actPut (h : Hall) (i : Nat) (r : Reference) : Hall :=
  match h.queue.put r with
  | .ok q => { h with queue := q }.unlock.move i (.ringing .accepted)
  | .error fault => h.unlock.move i (.done (.refused fault))

/-- A taker's work under the lock. -/
def actTake (h : Hall) (i : Nat) (ticket : Ticket) : Hall :=
  match h.queue.take with
  | .reference r q => { h with queue := q }.unlock.move i (.leaving ticket (.got r))
  | .closed => h.unlock.move i (.leaving ticket (.refused .closed))
  | .nothing => h.unlock.move i (.parked ticket)

/-- One step; `none` if the call is not where it could make it. -/
def step (h : Hall) : HallStep → Option Hall
  | .call errand => some { h with callers := h.callers ++ [⟨errand, .ready⟩] }
  | .arm i =>
    match h.callers[i]? with
    | some ⟨.take, .ready⟩ => some (h.register i)
    | some ⟨.putText raw, .ready⟩ =>
      match Reference.read? raw with
      | some _ => some (h.move i (.entering none))
      | none => some (h.move i (.done (.refused (.malformed raw))))
    | some ⟨_, .ready⟩ => some (h.move i (.entering none))
    | _ => none
  | .block i =>
    match h.callers[i]?, h.lock with
    | some ⟨_, .entering ticket⟩, some _ => some (h.move i (.blocked ticket))
    | _, _ => none
  | .enter i =>
    match h.callers[i]?, h.lock with
    | some ⟨_, .entering ticket⟩, none => some ({ h with lock := some i }.move i (.inside ticket))
    | some ⟨_, .blocked ticket⟩, none => some ({ h with lock := some i }.move i (.inside ticket))
    | _, _ => none
  | .act i =>
    match h.callers[i]? with
    | some ⟨.take, .inside (some ticket)⟩ => some (h.actTake i ticket)
    | some ⟨.put r, .inside _⟩ => some (h.actPut i r)
    | some ⟨.putText raw, .inside _⟩ => (Reference.read? raw).map (h.actPut i)
    | some ⟨.close, .inside _⟩ =>
      some ({ h with queue := h.queue.close }.unlock.move i (.ringing .accepted))
    | _ => none
  | .ring i =>
    match h.callers[i]? with
    | some ⟨.close, .ringing result⟩ => some (h.ringAll.move i (.done result))
    | some ⟨_, .ringing result⟩ => some (h.ringOne.move i (.done result))
    | _ => none
  | .wake i =>
    match h.callers[i]? with
    | some ⟨_, .parked .waiting⟩ => none
    | some ⟨_, .parked _⟩ => some (h.move i .ready)
    | _ => none
  | .leave i =>
    match h.callers[i]? with
    | some ⟨_, .leaving ticket result⟩ => some ((h.move i (.done result)).handIn i ticket)
    | _ => none
  | .giveUp i =>
    match h.callers[i]? with
    | some ⟨_, .blocked none⟩ => some (h.move i .givenUp)
    | some ⟨_, .blocked (some ticket)⟩ => some ((h.move i .givenUp).handIn i ticket)
    | some ⟨_, .parked ticket⟩ => some ((h.move i .givenUp).handIn i ticket)
    | _ => none

/-- Several steps one after another; `none` if one of them cannot be made. -/
def run (h : Hall) : List HallStep → Option Hall
  | [] => some h
  | s :: ss => (h.step s).bind fun h => h.run ss

/-! ## One call alone -/

/-- The step that a call makes next if it runs alone. -/
def nextStep (h : Hall) (i : Nat) : Option HallStep :=
  match h.callers[i]? with
  | none => none
  | some c =>
    match c.stage with
    | .ready => some (.arm i)
    | .entering _ | .blocked _ => some (.enter i)
    | .inside _ => some (.act i)
    | .parked .waiting => none
    | .parked _ => some (.wake i)
    | .ringing _ => some (.ring i)
    | .leaving _ _ => some (.leave i)
    | .done _ | .givenUp => none

/-- Lets a call run alone for a number of steps, or until it is done or has to wait. -/
def runAlone (i : Nat) : Nat → Hall → Hall
  | 0, h => h
  | n + 1, h =>
    match (h.nextStep i).bind h.step with
    | some h => runAlone i n h
    | none => h

/-- Lets a call run alone until it is done or has to wait. A taker starts over at most twice, as it
can use up but one ring in store, so sixteen steps are enough. -/
def settle (h : Hall) (i : Nat) : Hall :=
  runAlone i 16 h

/-- The result of a call that is done. -/
def result? (h : Hall) (i : Nat) : Option CallResult :=
  match h.callers[i]? with
  | some ⟨_, .done result⟩ => some result
  | _ => none

/-- A new call runs alone as far as it can; also its number. -/
def call (h : Hall) (errand : Errand) : Nat × Hall :=
  (h.callers.length, settle { h with callers := h.callers ++ [⟨errand, .ready⟩] } h.callers.length)

end Hall

end Handoff
