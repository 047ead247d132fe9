import Handoff.Context
/-!
# Commands and requests

A command carries the text of a context under a serial number; a request is a command together
with who is asked to run it.

* `Command.ofContext`, `Command.context?`: the context goes into the body and comes out of it.
* `Request.forWorker`: the request that hands a context to its worker group.
-/

namespace Handoff

open Json

/-- A command with its body. -/
structure Command where
  type : CommandType
  serial : UInt64
  body : String
  deriving DecidableEq

namespace Command

/-- The command to run the task of a context. -/
def ofContext (serial : UInt64) (c : Context) : Command :=
  ⟨.taskExecuteRequest, serial, c.document.print⟩

/-- The context that the body holds. -/
def context? (c : Command) : Option Context :=
  Document.read? c.body >>= Context.read

/-- The fields of a command, in order. -/
def fieldNames : List String :=
  ["commandType", "opaque", "body"]

/-- Reads a command. -/
def read (d : Document) : Option Command := do
  let f ← Fields.read? fieldNames d
  return {
    type := ← f.required "commandType" (Choice.read .direct)
    serial := ← f.required "opaque" asUInt64
    body := ← f.required "body" asString }

/-- A command in JSON. -/
def document (c : Command) : Document :=
  .record [
    ("commandType", Choice.document c.type),
    ("opaque", .int c.serial.toNat),
    ("body", .text c.body)]

end Command

/-- A command and who is to run it. -/
structure Request where
  command : Command
  executor : ExecutorType
  workerGroup : String
  deriving DecidableEq

namespace Request

/-- The request that hands a context to its worker group. -/
def forWorker (serial : UInt64) (c : Context) : Request :=
  ⟨.ofContext serial c, .worker, c.workerGroup⟩

/-- The fields of a request, in order. -/
def fieldNames : List String :=
  ["command", "executorType", "workerGroup"]

/-- Reads a request. -/
def read (d : Document) : Option Request := do
  let f ← Fields.read? fieldNames d
  return {
    command := ← f.required "command" Command.read
    executor := ← f.required "executorType" (Choice.read .direct)
    workerGroup := ← f.required "workerGroup" asString }

/-- A request in JSON. -/
def document (r : Request) : Document :=
  .record [
    ("command", r.command.document),
    ("executorType", Choice.document r.executor),
    ("workerGroup", .text r.workerGroup)]

/-- The line that shows a request. -/
def line (r : Request) : String :=
  r.document.print

end Request

end Handoff
