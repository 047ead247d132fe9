import Handoff.Consumer
import Handoff.Queue
/-!
# The consumer loop

The loop takes one reference after another from the queue and runs an iteration for each; only a
stop ends it. Meanwhile others may put references into the queue or close it, ask the loop to stop,
or let go of the handle that could ask for it. The loop is a state machine: its own steps and those
of others may come in any order in which each can be made.

The stop is looked at before each take, and while the loop waits for a reference. Once a reference
was taken, its iteration runs to its end.

* `Loop.step`: one step; `none` if it cannot be made now.
* `Loop.next?`: the step that the loop makes by itself; `Loop.runAlone`: the loop left to itself.
-/

namespace Handoff

/-- Where the loop is. -/
inductive Phase where
  /-- Spawned, but not running yet. -/
  | spawned
  /-- About to look at the stop. -/
  | top
  /-- Waiting for a reference or for the stop. -/
  | waiting
  /-- An iteration has begun. -/
  | taken (reference : Reference)
  /-- The dispatcher has the request of an iteration. -/
  | handing (reference : Reference) (request : Request)
  /-- Resting after the queue failed. -/
  | resting
  /-- The queue is closed for good: waiting for the stop. -/
  | parked
  | stopped
  | crashed
  deriving DecidableEq

/-- The loop with everything it works on. -/
structure Loop where
  resolver : Resolver
  phase : Phase
  queue : Queue
  desk : Desk
  stopRequested : Bool
  handleDropped : Bool

/-- What may go wrong with a take, apart from what the queue itself says. -/
inductive TakeTrouble where
  | fault (fault : QueueFault)
  | panic
  deriving DecidableEq

/-- The steps of others, then those of the loop: it begins, looks at the stop, heeds the stop while
waiting, takes, fails to take, resolves, gets the dispatcher's reply, goes on after a rest, and
leaves a closed queue. -/
inductive LoopStep where
  | put (reference : Reference)
  | close
  | requestStop
  | dropHandle
  | begin
  | look
  | heed
  | take
  | trouble (trouble : TakeTrouble)
  | resolve
  | reply
  | goOn
  | release
  deriving DecidableEq

/-- The loop makes the step by itself; with a queue that does not fail it makes no others. -/
def LoopStep.isOwn : LoopStep → Bool
  | begin | look | heed | take | resolve | reply | goOn | release => true
  | put _ | close | requestStop | dropHandle | trouble _ => false

namespace Loop

/-- A loop that was spawned just now. -/
def spawn (resolver : Resolver) (queue : Queue) (desk : Desk) : Loop :=
  ⟨resolver, .spawned, queue, desk, false, false⟩

/-- Logs an event. -/
def log (l : Loop) (e : Event) : Loop :=
  { l with desk := l.desk.log e }

/-- Moves on to another phase. -/
def goTo (l : Loop) (phase : Phase) : Loop :=
  { l with phase := phase }

/-- The stop was requested, or nobody is left to request it. -/
def stopReady (l : Loop) : Bool :=
  l.stopRequested || l.handleDropped

/-- Leaves the loop. -/
def leave (l : Loop) : Loop :=
  (l.log .stopping).goTo .stopped

/-- The queue is closed for good. -/
def park (l : Loop) : Loop :=
  (l.log .queueClosed).goTo .parked

/-- A take that failed. -/
def failTake (l : Loop) : TakeTrouble → Loop
  | .fault .closed => l.park
  | .fault fault => (l.log (.takeFailed fault)).goTo .resting
  | .panic => l.goTo .crashed

/-- The end of an iteration. -/
def finish (l : Loop) (task : TaskId) : Verdict → Loop
  | .done outcome => (l.log (.finished task outcome)).goTo .top
  | .fault fault => (l.log (.failed task fault)).goTo .top
  | .panic reason => (l.log (.panicked task reason)).goTo .top

/-- Takes a reference, if there is one. -/
def takeNext (l : Loop) : Option Loop :=
  match l.queue.take with
  | .reference r queue =>
    some (({ l with queue := queue }.log (.dequeued r.taskId)).goTo (.taken r))
  | .closed => some l.park
  | .nothing => none

/-- Resolves the reference taken. -/
def resolveTaken (l : Loop) (r : Reference) : Loop :=
  match prepare l.resolver r l.desk with
  | (.inl verdict, desk) => { l with desk := desk }.finish r.taskId verdict
  | (.inr request, desk) => { l with desk := desk }.goTo (.handing r request)

/-- Gets the dispatcher's reply. -/
def getReply (l : Loop) (r : Reference) (request : Request) : Loop :=
  let verdict := conclude r.taskId request l.desk
  { l with desk := verdict.2 }.finish r.taskId verdict.1

/-- One step; `none` if it cannot be made now. A put into a closed queue is refused. -/
def step (l : Loop) : LoopStep → Option Loop
  | .put r =>
    match l.queue.put r with
    | .ok queue => some { l with queue := queue }
    | .error _ => none
  | .close => some { l with queue := l.queue.close }
  | .requestStop => some { l with stopRequested := true }
  | .dropHandle => some { l with handleDropped := true }
  | .begin => if l.phase = .spawned then some ((l.log .started).goTo .top) else none
  | .look =>
    if l.phase = .top then some (if l.stopRequested then l.leave else l.goTo .waiting) else none
  | .heed =>
    if l.phase = .waiting ∧ l.stopReady then
      some (if l.stopRequested then l.goTo .top else l.leave)
    else none
  | .take => if l.phase = .waiting then l.takeNext else none
  | .trouble t => if l.phase = .waiting then some (l.failTake t) else none
  | .resolve =>
    match l.phase with
    | .taken r => some (l.resolveTaken r)
    | _ => none
  | .reply =>
    match l.phase with
    | .handing r request => some (l.getReply r request)
    | _ => none
  | .goOn => if l.phase = .resting then some (l.goTo .top) else none
  | .release => if l.phase = .parked ∧ l.stopReady then some l.leave else none

/-- Several steps one after another; `none` if one of them cannot be made. -/
def run (l : Loop) : List LoopStep → Option Loop
  | [] => some l
  | s :: ss => (l.step s).bind fun l => l.run ss

/-! ## The loop left to itself -/

/-- The step that the loop makes by itself; none if it has to wait for others, or has ended. Where
both a reference and the stop are ready, the stop is heeded. -/
def next? (l : Loop) : Option LoopStep :=
  match l.phase with
  | .spawned => some .begin
  | .top => some .look
  | .waiting =>
    if l.stopReady then some .heed
    else if l.queue.isEmpty && !l.queue.closed then none
    else some .take
  | .taken _ => some .resolve
  | .handing _ _ => some .reply
  | .resting => some .goOn
  | .parked => if l.stopReady then some .release else none
  | .stopped | .crashed => none

/-- The steps that lead from a phase back to the next look at the stop, at most. -/
def phaseCost : Phase → Nat
  | .spawned => 6
  | .top => 5
  | .waiting => 4
  | .taken _ => 8
  | .handing _ _ => 7
  | .resting => 6
  | .parked => 1
  | .stopped | .crashed => 0

/-- A bound on the steps that the loop makes by itself from here. -/
def cost (l : Loop) : Nat :=
  l.queue.size * 6 + phaseCost l.phase + 4

/-- Runs the loop for a number of steps, or until it has to wait. -/
def runFor : Nat → Loop → Loop
  | 0, l => l
  | n + 1, l =>
    match l.next?.bind l.step with
    | some l => runFor n l
    | none => l

/-- The loop left to itself until it has to wait or has ended. -/
def runAlone (l : Loop) : Loop :=
  runFor l.cost l

/-- What whoever waits for the end of the loop logs: a crash, if there was one. -/
def joinEvents (l : Loop) : List Event :=
  if l.phase = .crashed then [.crashed] else []

end Loop

end Handoff
