import Handoff.Record.Snapshot
import Handoff.Reference
/-!
# Fixtures

A fixture is a snapshot together with the texts of references that are ready. Without any such text
every task of the snapshot counts as ready.

* `Fixture.read?`, `Fixture.document`: reading and writing.
* `Fixture.drafts`: the references, their submit time left open where a task has none.
* `Fixture.references`: the references, given the time at which each is made.
-/

namespace Handoff

open Json

/-- Records and the references that are ready. -/
structure Fixture where
  records : Snapshot
  ready : List String
  deriving DecidableEq

/-- A reference whose submit time may still be open. -/
structure Draft where
  processPriority : Priority
  processId : ProcessId
  taskPriority : Priority
  taskId : TaskId
  submitTime : Option Instant
  workerGroup : String
  deriving DecidableEq

namespace Draft

/-- The draft of a reference. -/
def ofReference (r : Reference) : Draft :=
  ⟨r.processPriority, r.processId, r.taskPriority, r.taskId, some r.submitTime, r.workerGroup⟩

/-- The reference, made at a time. -/
def stamp (d : Draft) (now : Instant) : Reference :=
  ⟨d.processPriority, d.processId, d.taskPriority, d.taskId, d.submitTime.getD now, d.workerGroup⟩

end Draft

namespace Fixture

/-- Reads a fixture. It has to be an object, and it is gathered whole before its members are looked
at, so all of it has to be admissible. -/
def read (d : Document) : Option Fixture := do
  let members ← match d with
    | .object members => if d.admissible 0 then some members else none
    | _ => none
  let f ← Fields.ofMembers? (Snapshot.fieldNames ++ ["ready"]) members
  return {
    records := ← Snapshot.ofFields? .buffered f
    ready := ← f.defaulted "ready" (asList asString) [] }

/-- The fixture that a text stands for. -/
def read? (s : String) : Option Fixture :=
  Document.read? s >>= read

/-- A fixture in JSON. -/
def document (f : Fixture) : Document :=
  .record (f.records.members ++ [("ready", .list .text f.ready)])

/-- The references that the ready texts denote, or the first text that denotes none. -/
def readReady : List String → Except String (List Reference)
  | [] => .ok []
  | raw :: raws =>
    match Reference.read? raw with
    | none => .error raw
    | some r =>
      match readReady raws with
      | .ok rs => .ok (r :: rs)
      | .error raw => .error raw

/-- The priority of the first process listed with an id, or the standard one. -/
def processPriority (f : Fixture) (id : ProcessId) : Priority :=
  match f.records.processes.find? fun p => p.id = id with
  | some p => p.priority
  | none => .standard

/-- The draft of a task's reference. -/
def draftOf (f : Fixture) (defaultGroup : String) (t : Task) : Draft where
  processPriority := f.processPriority t.processId
  processId := t.processId
  taskPriority := t.priority
  taskId := t.id
  submitTime := t.submitTime
  workerGroup := t.workerGroup.getD defaultGroup

/-- The drafts of all references, in the order in which they are listed; or the first ready text
that denotes none. -/
def drafts (f : Fixture) (defaultGroup : String) : Except String (List Draft) :=
  if f.ready = [] then .ok (f.records.tasks.map (f.draftOf defaultGroup))
  else (readReady f.ready).map fun rs => rs.map .ofReference

/-- The drafts made into references one after another; `now` tells the time at each place. -/
def make (now : Nat → Instant) : Nat → List Draft → List Reference
  | _, [] => []
  | i, d :: ds => d.stamp (now i) :: make now (i + 1) ds

/-- The references of a fixture. -/
def references (f : Fixture) (defaultGroup : String) (now : Nat → Instant) :
    Except String (List Reference) :=
  (f.drafts defaultGroup).map (make now 0)

/-- The words for a ready text that denotes no reference. -/
def readyMessage (raw : String) : String :=
  "ready entry " ++ raw

end Fixture

end Handoff
