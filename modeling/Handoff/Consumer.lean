import Handoff.Resolver
/-!
# Consuming one reference

An iteration resolves a reference and, if there is a context, hands the request made from it to
the dispatcher. The dispatcher is known by its replies: it accepts, declines, fails or panics.

* `prepare`: the iteration up to the request.
* `conclude`: what the dispatcher's reply makes of it.
* `consumeOne`: the whole iteration; `consumeAll`: one iteration after another.
-/

namespace Handoff

/-- What a dispatcher says to a request. A panic has a message, unless what it carries is no
text. -/
inductive Reply where
  | accept
  | decline
  | fail (fault : DispatchFault)
  | panic (message : Option String)
  deriving DecidableEq

/-- How an iteration ends. -/
inductive Verdict where
  | done (outcome : Outcome)
  | fault (fault : Fault)
  | panic (reason : String)
  deriving DecidableEq

/-- What iterations work on: the session with the record service, the replies that the dispatcher
is going to give (it accepts once they are used up), the requests it has seen, and the serial number
of the next command. -/
structure Desk where
  session : Session
  replies : List Reply
  requests : List Request
  serial : UInt64

namespace Desk

/-- A desk at its start: serial numbers begin at 1. -/
def fresh (session : Session) (replies : List Reply) : Desk :=
  ⟨session, replies, [], 1⟩

/-- Logs an event. -/
def log (d : Desk) (e : Event) : Desk :=
  { d with session := { d.session with events := d.session.events ++ [e] } }

end Desk

/-- What a panic is reported as. -/
def panicReason : Option String → String
  | some message => message
  | none => "non-string panic payload"

/-- The iteration of a reference up to its request, which takes a serial number; or the verdict, if
there is no request. -/
def prepare (r : Resolver) (reference : Reference) (d : Desk) : (Verdict ⊕ Request) × Desk :=
  match (r.resolve reference).exec d.session with
  | (.error fault, session) => (.inl (.fault fault), { d with session := session })
  | (.ok none, session) => (.inl (.done .skipped), { d with session := session })
  | (.ok (some c), session) =>
    let request := Request.forWorker d.serial c
    (.inr request,
      { d with
        session := session
        requests := d.requests ++ [request]
        serial := d.serial + 1 })

/-- The verdict on a request that the dispatcher has seen. -/
def conclude (task : TaskId) (request : Request) (d : Desk) : Verdict × Desk :=
  let reply := d.replies.headD .accept
  let d := { d with replies := d.replies.tail }
  match reply with
  | .accept =>
    (.done .dispatched, d.log (.dispatched task request.workerGroup request.command.serial))
  | .decline =>
    (.done .rejected, d.log (.declined task request.workerGroup request.command.serial))
  | .fail fault => (.fault (.dispatch fault), d)
  | .panic message => (.panic (panicReason message), d)

/-- One iteration. -/
def consumeOne (r : Resolver) (reference : Reference) (d : Desk) : Verdict × Desk :=
  match prepare r reference d with
  | (.inl verdict, d) => (verdict, d)
  | (.inr request, d) => conclude reference.taskId request d

/-- One iteration after another, whatever their verdicts. -/
def consumeAll (r : Resolver) : List Reference → Desk → List Verdict × Desk
  | [], d => ([], d)
  | reference :: rest, d =>
    let one := consumeOne r reference d
    let all := consumeAll r rest one.2
    (one.1 :: all.1, all.2)

end Handoff
