import Handoff.Channels
/-!
# Waiting for room in a channel

A dispatch finds the channel of its request and then waits until there is room in it. Several
dispatches may wait at once, and readers may read or go meanwhile; whoever waits may also give up.
Which of those that wait gets the room is left open. A group is registered only while nobody waits,
as a dispatch has hold of all channels until it is over.

* `Dock.step`: one step and what it shows; `none` if it cannot be made now.
* `Dock.run`: several steps, with the history of what they have shown, last event first.
-/

namespace Handoff

/-- A dispatch that waits for room in a channel. -/
structure Sender where
  request : Request
  channel : Nat
  deriving DecidableEq

/-- The channels, and the dispatches that wait, in the order in which they began. -/
structure Dock where
  channels : Channels
  waiting : List Sender
  deriving DecidableEq

/-- The steps: a group is registered; a dispatch begins; a waiting one goes on or gives up; a reader
reads, or goes. -/
inductive DockStep where
  | register (group : String) (capacity : Nat)
  | dispatch (r : Request)
  | proceed (k : Nat)
  | abandon (k : Nat)
  | receive (i : Nat)
  | drop (i : Nat)
  deriving DecidableEq

/-- What a step shows: a channel was opened; a dispatch has begun to wait, was accepted, was refused,
or has given up; a reader got a request, nothing yet, or the end, or was not there; or it has gone. -/
inductive DockEvent where
  | opened (group : String) (capacity : Nat)
  | waits (r : Request)
  | accepted (r : Request)
  | refused (r : Request) (fault : DispatchFault)
  | abandoned (r : Request)
  | received (i : Nat) (r : Request)
  | empty (i : Nat)
  | ended (i : Nat)
  | gone (i : Nat)
  | dropped (i : Nat)
  deriving DecidableEq

namespace Dock

/-- No channel, and nobody who waits. -/
def empty : Dock := ⟨.none, []⟩

/-- A waiting dispatch goes on: its request is put into the channel, or its reader has gone. -/
def goOn (d : Dock) (k : Nat) (w : Sender) : Option (DockEvent × Dock) :=
  match d.channels.send w.channel w.request with
  | .sent after => some (.accepted w.request, ⟨after, d.waiting.eraseIdx k⟩)
  | .refused fault => some (.refused w.request fault, { d with waiting := d.waiting.eraseIdx k })
  | .full => none

/-- One step, with what it shows; `none` if it cannot be made now. -/
def step (d : Dock) : DockStep → Option (DockEvent × Dock)
  | .register group capacity =>
    if d.waiting = [] then
      some (.opened group capacity, { d with channels := d.channels.register group capacity })
    else none
  | .dispatch r =>
    match d.channels.route r with
    | .ok i => some (.waits r, { d with waiting := d.waiting ++ [⟨r, i⟩] })
    | .error fault => some (.refused r fault, d)
  | .proceed k => d.waiting[k]?.bind (d.goOn k)
  | .abandon k =>
    d.waiting[k]?.map fun w => (.abandoned w.request, { d with waiting := d.waiting.eraseIdx k })
  | .receive i =>
    match d.channels.receive i with
    | .request r after => some (.received i r, { d with channels := after })
    | .empty => some (.empty i, d)
    | .ended => some (.ended i, d)
    | .gone => some (.gone i, d)
  | .drop i =>
    if d.channels.isReadable i then some (.dropped i, { d with channels := d.channels.drop i })
    else none

/-- Several steps one after another, with the history of what was shown, last event first; `none` if
one of them cannot be made. -/
def run (d : Dock) (past : List DockEvent) : List DockStep → Option (List DockEvent × Dock)
  | [] => some (past, d)
  | s :: ss => (d.step s).bind fun shown => shown.2.run (shown.1 :: past) ss

end Dock

end Handoff
