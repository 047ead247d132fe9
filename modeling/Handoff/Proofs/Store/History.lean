import Handoff.Proofs.Store.Records
import Handoff.Service
/-!
# A store over a whole run of calls

A store answers one call after another. The only calls that write are changes of states, and all that
is left of a run is in the last change of each task and in the log.

* `Store.serve`, `Store.serveAll`: a call, and one call after another, with their answers.
* `Store.recorded`: the store of a snapshot after changes of its tasks, in closed form.
* `Store.serve_recorded`, `Store.serveAll_recorded`: **a run of calls leads from one such store to
  another, by the changes that were accepted.**
* `Store.serveAll_ofSnapshot`: what a store that was filled from a snapshot answers after any run.
-/

namespace Handoff

/-- What a store says to a call. -/
inductive Answer where
  | task (task : Option Task)
  | tenant (tenant : Option Tenant)
  | queue (queue : Option String)
  | accepted
  | rejected (fault : ServiceFault)
  | dataSource (source : Option DataSource)
  | udfs (udfs : List Udf)
  | resources (resources : List Resource)
  deriving DecidableEq

/-- The change that a call makes, if it is answered so. -/
def acceptedChange : Call × Answer → Option StateChange
  | (.changeTaskState c, .accepted) => some c
  | _ => none

/-- The changes accepted in a run, in order. -/
def acceptedChanges (answered : List (Call × Answer)) : List StateChange :=
  answered.filterMap acceptedChange

namespace Store

variable {records : Snapshot} {changes : List StateChange} {c : StateChange} {t : Task}

/-- The answer to a call, and the store after it. -/
def serve (s : Store) : Call → Answer × Store
  | .taskDetail id => (.task (s.detail? id), s)
  | .tenantForProcess tenant owner => (.tenant (s.tenantFor? tenant owner), s)
  | .userQueue id => (.queue (s.userQueue? id), s)
  | .changeTaskState c =>
    match s.change c with
    | .ok s' => (.accepted, s')
    | .error fault => (.rejected fault, s)
  | .findDataSource id => (.dataSource (s.dataSource? id), s)
  | .udfsByIds ids => (.udfs (s.udfsOf ids), s)
  | .resourcesByIds ids => (.resources (s.resourcesOf ids), s)

/-- One call after another: each with its answer, and the store after all of them. -/
def serveAll (s : Store) : List Call → List (Call × Answer) × Store
  | [] => ([], s)
  | call :: calls =>
    let one := s.serve call
    let all := one.2.serveAll calls
    ((call, one.1) :: all.1, all.2)

/-! ## Stores in closed form -/

/-- A task after those of the changes that name it: the last one counts. -/
def updated (changes : List StateChange) (t : Task) : Task :=
  match last? (·.taskId) t.id changes with
  | some c => applied c t
  | none => t

/-- The store of a snapshot after changes of its tasks. -/
def recorded (records : Snapshot) (changes : List StateChange) : Store :=
  { ofSnapshot records with
    tasks := (ofSnapshot records).tasks.map (updated changes)
    changes := changes }

theorem updated_id : (updated changes t).id = t.id := by
  unfold updated
  split <;> rfl

theorem recorded_nil (records : Snapshot) : recorded records [] = ofSnapshot records := by
  have htasks : (ofSnapshot records).tasks.map (updated []) = (ofSnapshot records).tasks :=
    List.map_id _
  unfold recorded
  rw [htasks]
  rfl

/-- One more change takes the place of those before it. -/
theorem updated_append (t : Task) : updated (changes ++ [c]) t =
    if (updated changes t).id = c.taskId then applied c (updated changes t)
    else updated changes t := by
  rw [updated_id]
  unfold updated
  rw [last?_append, last?_singleton]
  by_cases hid : t.id = c.taskId
  · rw [if_pos hid.symm, if_pos hid]
    cases last? (·.taskId) t.id changes <;> rfl
  · rw [if_neg (Ne.symm hid), if_neg hid]
    rfl

theorem task?_recorded (id : TaskId) :
    (recorded records changes).task? id = (records.task? id).map (updated changes) := by
  have hid : (fun t : Task => decide (t.id = id)) ∘ updated changes =
      fun t => decide (t.id = id) := by
    funext t
    show decide ((updated changes t).id = id) = decide (t.id = id)
    rw [updated_id]
  show ((ofSnapshot records).tasks.map (updated changes)).find? _ = _
  rw [List.find?_map, hid, ← task?_ofSnapshot]
  rfl

/-- A change is for a stored task just if the snapshot lists one of its id. -/
theorem any_recorded (id : TaskId) :
    ((recorded records changes).tasks.any fun t => t.id = id) = (records.task? id).isSome := by
  rw [← List.isSome_find?]
  show ((recorded records changes).task? id).isSome = _
  rw [task?_recorded, Option.isSome_map]

theorem change_recorded (h : (records.task? c.taskId).isSome) :
    (recorded records changes).change c = .ok (recorded records (changes ++ [c])) := by
  have htasks : ((recorded records changes).tasks.map fun t =>
      if t.id = c.taskId then applied c t else t) = (recorded records (changes ++ [c])).tasks := by
    show ((ofSnapshot records).tasks.map (updated changes)).map _ = _
    rw [List.map_map]
    refine List.map_congr_left fun t _ => ?_
    exact (updated_append t).symm
  unfold change
  rw [any_recorded, if_pos h, htasks]
  rfl

theorem change_recorded_error (h : records.task? c.taskId = none) :
    (recorded records changes).change c =
      .error (.rejected .changeTaskState ("unknown task instance " ++ c.taskId.text)) := by
  unfold change
  rw [any_recorded, h]
  rfl

/-! ## Runs -/

/-- **A call leads from one such store to another**, by the change that was accepted, if any. -/
theorem serve_recorded (records : Snapshot) (changes : List StateChange) (call : Call) :
    ((recorded records changes).serve call).2 = recorded records
      (changes ++ (acceptedChange (call, ((recorded records changes).serve call).1)).toList) := by
  cases call with
  | changeTaskState c =>
    cases h : records.task? c.taskId with
    | some t =>
      rw [serve, change_recorded (by rw [h]; rfl)]
      rfl
    | none =>
      rw [serve, change_recorded_error h]
      show recorded records changes = recorded records (changes ++ [])
      rw [List.append_nil]
  | taskDetail | tenantForProcess | userQueue | findDataSource | udfsByIds | resourcesByIds =>
    show recorded records changes = recorded records (changes ++ [])
    rw [List.append_nil]

/-- **A run of calls leads from one such store to another**, by the changes that were accepted. -/
theorem serveAll_recorded (records : Snapshot) (calls : List Call) :
    ∀ changes, ((recorded records changes).serveAll calls).2 = recorded records
      (changes ++ acceptedChanges ((recorded records changes).serveAll calls).1) := by
  -- for all changes at once, since a call may add one for those that follow
  induction calls with
  | nil =>
    intro changes
    show recorded records changes = recorded records (changes ++ [])
    rw [List.append_nil]
  | cons call calls ih =>
    intro changes
    have hone := serve_recorded records changes call
    simp only [serveAll]
    rw [hone, ih, List.append_assoc]
    congr 2
    unfold acceptedChanges
    rw [List.filterMap_cons]
    cases acceptedChange (call, ((recorded records changes).serve call).1) <;> rfl

/-! ## Answers -/

theorem serve_change_rejected_iff :
    (∃ fault, ((recorded records changes).serve (.changeTaskState c)).1 = .rejected fault) ↔
      ∀ t ∈ records.tasks, t.id ≠ c.taskId := by
  have hlisted : records.task? c.taskId = none ↔ ∀ t ∈ records.tasks, t.id ≠ c.taskId :=
    last?_eq_none_iff
  rw [← hlisted]
  cases h : records.task? c.taskId with
  | some t =>
    rw [serve, change_recorded (by rw [h]; rfl)]
    simp
  | none =>
    rw [serve, change_recorded_error h]
    simp

theorem detail?_recorded (id : TaskId) :
    (recorded records changes).detail? id = ((recorded records changes).task? id).map fun t =>
      { t with
        process := records.process? t.processId
        definition := records.definition? t.definitionId } := by
  unfold detail?
  congr 1
  funext t
  rw [← process?_ofSnapshot, ← definition?_ofSnapshot]
  rfl

/-- Of what can be looked up, only tasks are ever changed. -/
theorem serve_recorded_eq {call : Call} (hdetail : call.method ≠ .taskDetail)
    (hchange : call.method ≠ .changeTaskState) :
    ((recorded records changes).serve call).1 = ((ofSnapshot records).serve call).1 := by
  cases call with
  | taskDetail => exact absurd rfl hdetail
  | changeTaskState => exact absurd rfl hchange
  | tenantForProcess | userQueue | findDataSource | udfsByIds | resourcesByIds => rfl

/-- **What a store that was filled from a snapshot answers after any run of calls.** A change is
rejected just if the snapshot lists no task of its id, and then nothing changes; the log holds the
accepted changes in order; a task is as it was listed last, but for state, start time and host, which
the last accepted change of the task has set; its details are the task with the process and the
definition listed last under the ids that it names; and all other look-ups are answered as at the
start. -/
theorem serveAll_ofSnapshot (records : Snapshot) (calls : List Call) :
    let run := (ofSnapshot records).serveAll calls
    let s := run.2
    let changes := acceptedChanges run.1
    (∀ c, (∃ fault, (s.serve (.changeTaskState c)).1 = .rejected fault) ↔
      ∀ t ∈ records.tasks, t.id ≠ c.taskId) ∧
    (∀ c fault, (s.serve (.changeTaskState c)).1 = .rejected fault →
      (s.serve (.changeTaskState c)).2 = s) ∧
    s.changes = changes ∧
    (∀ id, s.task? id = (records.task? id).map fun t =>
      match last? (·.taskId) id changes with
      | some c => { t with status := c.status, startTime := c.startTime, host := c.host }
      | none => t) ∧
    (∀ id, (s.serve (.taskDetail id)).1 = .task ((s.task? id).map fun t =>
      { t with
        process := records.process? t.processId
        definition := records.definition? t.definitionId })) ∧
    ∀ call : Call, call.method ≠ .taskDetail → call.method ≠ .changeTaskState →
      (s.serve call).1 = ((ofSnapshot records).serve call).1 := by
  intro run s changes
  have hs : s = recorded records changes := by
    have hrun := serveAll_recorded records calls []
    rw [recorded_nil, List.nil_append] at hrun
    exact hrun
  rw [hs]
  refine ⟨fun c => serve_change_rejected_iff, ?_, rfl, ?_, ?_, ?_⟩
  · intro c fault hfault
    have hone := serve_recorded records changes (.changeTaskState c)
    rw [hfault] at hone
    rw [hone]
    show recorded records (changes ++ []) = _
    rw [List.append_nil]
  · intro id
    rw [task?_recorded]
    cases ht : records.task? id with
    | none => rfl
    | some t =>
      have hid : t.id = id := key_of_last? ht
      rw [← hid]
      rfl
  · intro id
    show Answer.task ((recorded records changes).detail? id) = _
    rw [detail?_recorded]
  · intro call hdetail hchange
    exact serve_recorded_eq hdetail hchange

end Store

end Handoff
