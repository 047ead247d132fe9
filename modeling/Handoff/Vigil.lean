import Handoff.CommandLine
/-!
# Watching the loop until the queue is empty

A command that is to end once the queue is empty looks at the queue from time to time. When it finds
the queue empty it asks the loop to stop, and waits for its end. The loop goes on meanwhile: its steps
and those of the vigil may come in any order in which each can be made.

* `Vigil.step`: one step; `none` if it cannot be made now. `Vigil.run`: several steps.
* `Plan.vigil`: the loop of a plan, and a vigil that is about to look.
* `Vigil.result?`: how the command ends, once its vigil is over.
-/

namespace Handoff

/-- Where the vigil is. -/
inductive VigilPhase where
  /-- About to look at the queue. -/
  | looking
  /-- Resting before the next look. -/
  | resting
  /-- The queue was empty: about to ask the loop to stop. -/
  | stopping
  /-- Waiting for the end of the loop. -/
  | joining
  | done
  deriving DecidableEq

/-- A loop and the vigil over it. -/
structure Vigil where
  phase : VigilPhase
  loop : Loop

/-- The steps of the vigil, which looks at the queue, gets up from a rest, asks the loop to stop, and
sees that the loop has ended; and the steps that the loop makes by itself. -/
inductive VigilStep where
  | look
  | wake
  | stop
  | join
  | loop (step : LoopStep)
  deriving DecidableEq

/-- The vigil looks, or gets up in order to look. -/
def VigilStep.isPoll : VigilStep → Bool
  | look | wake => true
  | stop | join | loop _ => false

/-- The loop has come to its end, or has crashed. -/
def Loop.hasEnded (l : Loop) : Bool :=
  l.phase = .stopped || l.phase = .crashed

namespace Vigil

/-- One step; `none` if it cannot be made now. -/
def step (v : Vigil) : VigilStep → Option Vigil
  | .look =>
    if v.phase = .looking then
      some { v with phase := if v.loop.queue.isEmpty then .stopping else .resting }
    else none
  | .wake => if v.phase = .resting then some { v with phase := .looking } else none
  | .stop =>
    if v.phase = .stopping then (v.loop.step .requestStop).map fun loop => ⟨.joining, loop⟩
    else none
  | .join =>
    if v.phase = .joining ∧ v.loop.hasEnded then some { v with phase := .done } else none
  | .loop s =>
    if s.isOwn then (v.loop.step s).map fun loop => { v with loop := loop } else none

/-- Several steps one after another; `none` if one of them cannot be made. -/
def run (v : Vigil) : List VigilStep → Option Vigil
  | [] => some v
  | s :: ss => (v.step s).bind fun v => v.run ss

/-- The lines printed so far. -/
def lines (v : Vigil) : List String :=
  v.loop.desk.requests.map Request.line

/-- How the command ends, once its vigil is over. -/
def result? (v : Vigil) : Option RunResult :=
  if v.phase = .done then
    some ⟨0, v.lines, v.loop.desk.session.events ++ v.loop.joinEvents, none⟩
  else none

end Vigil

/-- The loop of a plan, and a vigil that is about to look. -/
def Plan.vigil (p : Plan) : Vigil :=
  ⟨.looking, p.loop⟩

end Handoff
