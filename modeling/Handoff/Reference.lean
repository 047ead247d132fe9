import Handoff.Fault
import Handoff.Record.Process
import Handoff.Text.Split
/-!
# References to ready tasks

A reference is what a queue holds of a task that is ready to run. Its text joins six parts by
underscores:

  process priority, process, task priority, task, submit time in milliseconds, worker group

The worker group is the remainder, so it may hold underscores itself.

* `Reference.text`, `Reference.read?`, `Reference.parse`: writing and reading; parts of a millisecond
  and leap seconds of the submit time are lost in the text.
* `Reference.order`, `Reference.compare?`: the order in which a queue hands references out, smallest
  first.
* `order_eq_iff`: two references have the same place in it only if they are equal.
-/

namespace Handoff

open Json Text

/-- A task that is ready to run, with what decides its place in the queue. -/
structure Reference where
  processPriority : Priority
  processId : ProcessId
  taskPriority : Priority
  taskId : TaskId
  submitTime : Instant
  workerGroup : String
  deriving DecidableEq

namespace Reference

/-! ## Text -/

/-- The parts of the text in front of the worker group. -/
def parts (r : Reference) : List (List Char) :=
  [(showInt r.processPriority.code).toList,
    r.processId.digits.toList,
    (showInt r.taskPriority.code).toList,
    r.taskId.digits.toList,
    (showInt r.submitTime.millis).toList]

/-- The text of a reference. -/
def text (r : Reference) : String :=
  String.ofList (join '_' (r.parts ++ [r.workerGroup.toList]))

/-- Reads the code of a priority: no sign but a plus, no blank space. -/
def readPriority (cs : List Char) : Option Priority :=
  (readNatural 255 cs).toOption.bind Priority.ofCode?

/-- Reads a time in milliseconds, without blank space. -/
def readMillis (cs : List Char) : Option Instant :=
  (readInt64 cs).toOption.bind fun ms => Instant.ofMillis? ms.toInt

/-- Reads the six parts of a text. -/
def ofParts? : List (List Char) → Option Reference
  | [processPriority, processId, taskPriority, taskId, submitTime, workerGroup] => do
    return {
      processPriority := ← readPriority processPriority
      processId := ← (Id.ofText processId).toOption
      taskPriority := ← readPriority taskPriority
      taskId := ← (Id.ofText taskId).toOption
      submitTime := ← readMillis submitTime
      workerGroup := String.ofList workerGroup }
  | _ => none

/-- The reference that a text denotes. -/
def read? (raw : String) : Option Reference :=
  ofParts? (splitFirst '_' 5 raw.toList)

/-- The reference that a text denotes, or the fault that shows the text. -/
def parse (raw : String) : Except Fault Reference :=
  match read? raw with
  | some r => .ok r
  | none => .error (.invalidReference raw)

/-! ## Order -/

/-- By process priority, process, task priority, submit time, task and worker group. -/
def order (a b : Reference) : Ordering :=
  (compare a.processPriority.code b.processPriority.code).then <|
  (compare a.processId.toInt b.processId.toInt).then <|
  (compare a.taskPriority.code b.taskPriority.code).then <|
  (Instant.order a.submitTime b.submitTime).then <|
  (compare a.taskId.toInt b.taskId.toInt).then <|
  compare a.workerGroup b.workerGroup

instance : Ord Reference := ⟨order⟩

/-- The same, where things need not be comparable: any two references are. -/
def compare? (a b : Reference) : Option Ordering :=
  some (order a b)

/-- `a` comes before `b`, or in its place. -/
def le (a b : Reference) : Bool :=
  (order a b).isLE

theorem order_eq_iff (a b : Reference) : order a b = .eq ↔ a = b := by
  simp only [order, Ordering.then_eq_eq, Std.LawfulEqCmp.compare_eq_iff_eq, Id.toInt_inj,
    Priority.code_inj, Instant.order_eq_iff]
  constructor
  · intro ⟨h1, h2, h3, h4, h5, h6⟩
    cases a; cases b
    simp_all
  · rintro rfl
    simp

/-! ## JSON -/

/-- The fields of a reference, in order. -/
def fieldNames : List String :=
  ["processPriority", "processInstanceId", "taskPriority", "taskInstanceId", "submitTime",
    "workerGroup"]

/-- Reads a reference in JSON. -/
def read (d : Document) : Option Reference := do
  let f ← Fields.read? fieldNames d
  return {
    processPriority := ← f.required "processPriority" (Choice.read .direct)
    processId := ← f.required "processInstanceId" Id.read
    taskPriority := ← f.required "taskPriority" (Choice.read .direct)
    taskId := ← f.required "taskInstanceId" Id.read
    submitTime := ← f.required "submitTime" Instant.read
    workerGroup := ← f.required "workerGroup" asString }

/-- A reference in JSON. -/
def document (r : Reference) : Document :=
  .record [
    ("processPriority", Choice.document r.processPriority),
    ("processInstanceId", r.processId.document),
    ("taskPriority", Choice.document r.taskPriority),
    ("taskInstanceId", r.taskId.document),
    ("submitTime", r.submitTime.document),
    ("workerGroup", .text r.workerGroup)]

end Reference

end Handoff
