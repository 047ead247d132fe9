import Handoff.Event
import Handoff.Store
/-!
# The record service

The service is the store behind a line that may be down for some of its methods. A session with it
records every call that is made, whether it is answered or not, and what is logged meanwhile.

* `Resolving`: a computation in a session that may end with a fault.
* `ask`, `order`: a call that only reads, and the one call that writes.
-/

namespace Handoff

/-- A call with its arguments. -/
inductive Call where
  | taskDetail (id : TaskId)
  | tenantForProcess (tenant : TenantId) (owner : UserId)
  | userQueue (id : ProcessId)
  | changeTaskState (change : StateChange)
  | findDataSource (id : DataSourceId)
  | udfsByIds (ids : List UdfId)
  | resourcesByIds (ids : List ResourceId)
  deriving DecidableEq

/-- The method that a call goes to. -/
def Call.method : Call → ServiceMethod
  | taskDetail _ => .taskDetail
  | tenantForProcess _ _ => .tenantForProcess
  | userQueue _ => .userQueue
  | changeTaskState _ => .changeTaskState
  | findDataSource _ => .findDataSource
  | udfsByIds _ => .udfsByIds
  | resourcesByIds _ => .resourcesByIds

/-- The methods that fail whenever they are called, and how. -/
abbrev Outages := ServiceMethod → Option ServiceFault

/-- A session with the service. -/
structure Session where
  store : Store
  outages : Outages
  calls : List Call
  events : List Event

namespace Session

/-- A session at its start. -/
def fresh (store : Store) (outages : Outages) : Session :=
  ⟨store, outages, [], []⟩

end Session

/-- A computation in a session that may end with a fault. -/
abbrev Resolving := ExceptT Fault (StateM Session)

namespace Resolving

/-- Runs a computation: its result and the session after it. -/
def exec {α : Type} (x : Resolving α) (s : Session) : Except Fault α × Session :=
  (ExceptT.run x).run s

/-- A result that is known already. -/
def ofExcept {α : Type} : Except Fault α → Resolving α
  | .ok a => return a
  | .error fault => throw fault

/-- Logs an event. -/
def log (e : Event) : Resolving Unit :=
  modify fun s => { s with events := s.events ++ [e] }

/-- Makes a call: it is recorded, and fails if its method is down. -/
def place (c : Call) : Resolving Unit := do
  modify fun s => { s with calls := s.calls ++ [c] }
  match (← get).outages c.method with
  | some fault => throw (.service fault)
  | none => pure ()

/-- A call that reads. -/
def ask {α : Type} (c : Call) (answer : Store → α) : Resolving α := do
  place c
  return answer (← get).store

/-- The order to change the state of a task. -/
def order (c : StateChange) : Resolving Unit := do
  place (.changeTaskState c)
  match (← get).store.change c with
  | .ok store => modify fun s => { s with store := store }
  | .error fault => throw (.service fault)

end Resolving

end Handoff
