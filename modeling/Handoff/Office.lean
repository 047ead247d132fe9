import Handoff.Consumer
/-!
# Iterations side by side

Any number of iterations, of one consumer or of several, go on side by side. Each resolves its
reference, makes a request, hands it to a dispatcher and gets the reply; it may be given up on the
way. All they have in common is the counter that numbers commands, and others may make commands
too.

What a resolution comes to is left open, as the records may change while it goes on, and so is what
a dispatcher replies.

* `Office.step`: one step and what it shows; `none` if it cannot be made now.
* `Office.run`: several steps, with the history of what they have shown, last event first.
-/

namespace Handoff

/-- The verdict that a reply leads to. -/
def Reply.verdict : Reply → Verdict
  | .accept => .done .dispatched
  | .decline => .done .rejected
  | .fail fault => .fault (.dispatch fault)
  | .panic message => .panic (panicReason message)

/-- Where an iteration is: it resolves its reference; it has a context, then a request; the
dispatcher has the request; or it is over. -/
inductive Progress where
  | resolving
  | resolved (c : Context)
  | ready (request : Request)
  | handed (request : Request)
  | ended (verdict : Verdict)
  | givenUp
  deriving DecidableEq

/-- There is nothing left to do. -/
def Progress.isOver : Progress → Bool
  | .resolving | .resolved _ | .ready _ | .handed _ => false
  | .ended _ | .givenUp => true

/-- An iteration. -/
structure Job where
  reference : Reference
  progress : Progress
  deriving DecidableEq

/-- All iterations, in the order in which they began, and the serial number of the next command. -/
structure Office where
  jobs : List Job
  serial : UInt64
  deriving DecidableEq

/-- The steps: an iteration begins; its resolution comes to a result; it makes its request, hands it
over, gets the reply, or is given up; somebody else makes a command. -/
inductive OfficeStep where
  | begin (reference : Reference)
  | resolve (i : Nat) (result : Except Fault (Option Context))
  | make (i : Nat)
  | hand (i : Nat)
  | reply (i : Nat) (reply : Reply)
  | giveUp (i : Nat)
  | other

/-- What a step shows. A command of somebody else shows its number alone. -/
inductive OfficeEvent where
  | begun (i : Nat) (reference : Reference)
  | resolved (i : Nat) (c : Context)
  | made (i : Nat) (request : Request)
  | handed (i : Nat) (request : Request)
  | ended (i : Nat) (verdict : Verdict)
  | givenUp (i : Nat)
  | other (serial : UInt64)
  deriving DecidableEq

namespace Office

/-- No iteration yet; serial numbers begin at 1. -/
def start : Office := ⟨[], 1⟩

/-- An iteration goes on to another place. -/
def move (o : Office) (i : Nat) (progress : Progress) : Office :=
  { o with jobs := o.jobs.modify i fun job => { job with progress := progress } }

/-- A number is used up. -/
def count (o : Office) : Office :=
  { o with serial := o.serial + 1 }

/-- An iteration has come to its end. -/
def finish (o : Office) (i : Nat) (verdict : Verdict) : OfficeEvent × Office :=
  (.ended i verdict, o.move i (.ended verdict))

/-- One step, with what it shows; `none` if it cannot be made now. -/
def step (o : Office) : OfficeStep → Option (OfficeEvent × Office)
  | .begin reference =>
    some (.begun o.jobs.length reference, { o with jobs := o.jobs ++ [⟨reference, .resolving⟩] })
  | .resolve i result =>
    match o.jobs[i]?, result with
    | some ⟨_, .resolving⟩, .error fault => some (o.finish i (.fault fault))
    | some ⟨_, .resolving⟩, .ok none => some (o.finish i (.done .skipped))
    | some ⟨_, .resolving⟩, .ok (some c) => some (.resolved i c, o.move i (.resolved c))
    | _, _ => none
  | .make i =>
    match o.jobs[i]? with
    | some ⟨_, .resolved c⟩ =>
      let request := Request.forWorker o.serial c
      some (.made i request, o.count.move i (.ready request))
    | _ => none
  | .hand i =>
    match o.jobs[i]? with
    | some ⟨_, .ready request⟩ => some (.handed i request, o.move i (.handed request))
    | _ => none
  | .reply i reply =>
    match o.jobs[i]? with
    | some ⟨_, .handed _⟩ => some (o.finish i reply.verdict)
    | _ => none
  | .giveUp i =>
    match o.jobs[i]? with
    | some job => if job.progress.isOver then none else some (.givenUp i, o.move i .givenUp)
    | none => none
  | .other => some (.other o.serial, o.count)

/-- Several steps one after another, with the history of what was shown, last event first; `none` if
one of them cannot be made. -/
def run (o : Office) (past : List OfficeEvent) :
    List OfficeStep → Option (List OfficeEvent × Office)
  | [] => some (past, o)
  | s :: ss => (o.step s).bind fun shown => shown.2.run (shown.1 :: past) ss

end Office

end Handoff
