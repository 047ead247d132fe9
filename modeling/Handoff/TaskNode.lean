import Handoff.Parameters
/-!
# Task nodes

The node of a task is the JSON text in which its type, name, parameters and worker group were
stored. The parameters stand in it either as a value or as a string that holds the text of one.

* `TaskNode.ofText?`, `TaskNode.document`: reading and writing.
* `TaskNode.paramsValue?`: the parameters as a value, whichever way they were stored.
-/

namespace Handoff

open Json

/-- The stored node of a task. -/
structure TaskNode where
  typeTag : String
  name : String
  params : Value
  workerGroup : Option String

namespace TaskNode

/-- The fields of a node, in order. -/
def fieldNames : List String :=
  ["type", "name", "params", "workerGroup"]

/-- Reads a node. -/
def read (d : Document) : Option TaskNode := do
  let f ← Fields.read? fieldNames d
  return {
    typeTag := ← f.required "type" asString
    name := ← f.defaulted "name" asString ""
    params := ← f.defaulted "params" (Value.ofNested? 1) .null
    workerGroup := ← f.optional "workerGroup" asString }

/-- A node in JSON. -/
def document (n : TaskNode) : Document :=
  .record [
    ("type", .text n.typeTag),
    ("name", .text n.name),
    ("params", n.params.document),
    ("workerGroup", .option .text n.workerGroup)]

/-- The node that a text stands for. -/
def ofText? (s : String) : Option TaskNode :=
  Document.read? s >>= read

/-- The parameters as a value: a string is read as the text of one, and an absent value counts as
an empty object. -/
def paramsValue? (n : TaskNode) : Option Value :=
  match n.params with
  | .string s => Value.read? s
  | .null => some (.object [])
  | v => some v

end TaskNode

end Handoff
