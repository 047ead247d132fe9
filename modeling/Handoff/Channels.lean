import Handoff.Request
/-!
# Channels to worker groups

Each worker group reads requests from a channel: a buffer of bounded size, first in, first out. A
group that is registered again gets a new channel; the old one can still be read to its end. A
channel whose reader is gone takes nothing more.

* `Channels.register`, `dispatch`, `receive`, `drop`: the operations; `dispatch` finds the channel of a
  request (`route`) and puts the request there (`send`).
-/

namespace Handoff

/-- The channel of one registration. -/
structure Channel where
  buffer : List Request
  capacity : Nat
  readable : Bool
  deriving DecidableEq

/-- A channel with one more request at the end. -/
def Channel.add (c : Channel) (r : Request) : Channel :=
  { c with buffer := c.buffer ++ [r] }

/-- A channel without a reader; what it held is gone. -/
def Channel.shut (c : Channel) : Channel :=
  { c with buffer := [], readable := false }

/-- All channels, numbered in the order of their registration, and the number of the channel that
each group has, last registration first. -/
structure Channels where
  channels : List Channel
  groups : List (String × Nat)
  deriving DecidableEq

/-- What becomes of a request: it is in a channel, it was refused, or its channel is full. -/
inductive Delivery where
  | sent (after : Channels)
  | refused (fault : DispatchFault)
  | full
  deriving DecidableEq

/-- What a reader gets: a request, nothing yet, or the end; or the reader itself is gone. -/
inductive Received where
  | request (r : Request) (after : Channels)
  | empty
  | ended
  | gone
  deriving DecidableEq

namespace Channels

/-- No channel at all. -/
def none : Channels := ⟨[], []⟩

/-- Opens a channel for a group in place of the one it had; a channel holds at least one request. -/
def register (c : Channels) (group : String) (capacity : Nat) : Channels where
  channels := c.channels ++ [⟨[], max capacity 1, true⟩]
  groups := (group, c.channels.length) :: c.groups

/-- The channel that a group has. -/
def current? (c : Channels) (group : String) : Option Nat :=
  c.groups.lookup group

/-- A channel is current as long as its group has no newer one. -/
def isCurrent (c : Channels) (i : Nat) : Bool :=
  c.groups.any fun g => c.current? g.1 = some i

/-- The channel that a request goes to: the one that its worker group has. Only workers have
channels. -/
def route (c : Channels) (r : Request) : Except DispatchFault Nat :=
  if r.executor ≠ .worker then .error (.unsupportedExecutor r.executor)
  else
    match c.current? r.workerGroup with
    | some i => .ok i
    | Option.none => .error (.unknownGroup r.workerGroup)

/-- What is said of a channel that has no reader. -/
def closedFault : DispatchFault :=
  .transport "worker channel closed: channel closed"

/-- Puts a request at the end of a channel, if the channel has a reader and room. -/
def send (c : Channels) (i : Nat) (r : Request) : Delivery :=
  match c.channels[i]? with
  | some channel =>
    if !channel.readable then .refused closedFault
    else if channel.buffer.length < channel.capacity then
      .sent { c with channels := c.channels.set i (channel.add r) }
    else .full
  | Option.none => .refused closedFault

/-- Sends a request to the channel of its worker group. -/
def dispatch (c : Channels) (r : Request) : Delivery :=
  match c.route r with
  | .ok i => c.send i r
  | .error fault => .refused fault

/-- Reads the next request of a channel. -/
def receive (c : Channels) (i : Nat) : Received :=
  match c.channels[i]? with
  | Option.none => .gone
  | some channel =>
    if !channel.readable then .gone
    else
      match channel.buffer with
      | r :: rest =>
        .request r { c with channels := c.channels.set i { channel with buffer := rest } }
      | [] => if c.isCurrent i then .empty else .ended

/-- The reader of a channel goes, and with it what the channel holds. -/
def drop (c : Channels) (i : Nat) : Channels :=
  { c with channels := c.channels.modify i Channel.shut }

/-- The channel has a reader. -/
def isReadable (c : Channels) (i : Nat) : Bool :=
  match c.channels[i]? with
  | some channel => channel.readable
  | Option.none => false

end Channels

end Handoff
