import Handoff.Proofs.Command.Requests
import Handoff.Proofs.Context.Wire
import Handoff.Proofs.Office.Courses
import Handoff.Proofs.Resolution.Contexts
/-!
# One request for one context

An iteration hands its context over in one request, and whatever goes on beside it, no number stands
on two requests.

* `Iterates`, `consumeOne_iterates`: what an iteration comes to, by what its resolution has come to.
* `Office.Hosts`, `Office.hosts_consumeOne`: an iteration of a consumer is one that an office can go
  through.
* `handed_over_once`: **each iteration hands over its own context at most once, under a number of
  its own.**
-/

namespace Handoff

/-- What a desk is left with when no dispatcher was asked. -/
structure Desk.Unasked (d d' : Desk) : Prop where
  requests : d'.requests = d.requests
  replies : d'.replies = d.replies
  serial : d'.serial = d.serial

/-- What a desk is left with when a dispatcher was asked once, under the next number. -/
structure Desk.Asked (d : Desk) (request : Request) (d' : Desk) : Prop where
  number : request.command.serial = d.serial
  requests : d'.requests = d.requests ++ [request]
  replies : d'.replies = d.replies.tail
  serial : d'.serial = d.serial + 1

/-- What an iteration comes to, by what its resolution has come to. A fault is passed on, and
without a context nothing is done; a context of the task is handed over in one request under the
next number, and the verdict is the dispatcher's reply. -/
def Iterates (reference : Reference) (d : Desk) (run : Verdict × Desk) :
    Except Fault (Option Context) → Prop
  | .error fault => run.1 = .fault fault ∧ d.Unasked run.2
  | .ok none => run.1 = .done .skipped ∧ d.Unasked run.2
  | .ok (some c) => c.taskId = reference.taskId ∧ (Request.forWorker d.serial c).Carries c ∧
      run.1 = (d.replies.headD .accept).verdict ∧ d.Asked (.forWorker d.serial c) run.2

/-- A context is that of the task that was referred to. -/
theorem Resolver.taskId_of_exec {r : Resolver} {reference : Reference} {s s' : Session}
    {c : Context} (h : (r.resolve reference).exec s = (.ok (some c), s')) :
    c.taskId = reference.taskId := by
  obtain ⟨i, resources, relation, -, -, -, -, -, -, -, rfl⟩ := context_of_exec h
  have hid : i.task.id = reference.taskId := by simpa using List.find?_some i.isTask
  exact hid

theorem conclude_verdict (task : TaskId) (request : Request) (d : Desk) :
    (conclude task request d).1 = (d.replies.headD .accept).verdict := by
  unfold conclude
  cases d.replies.headD .accept <;> rfl

theorem conclude_replies (task : TaskId) (request : Request) (d : Desk) :
    (conclude task request d).2.replies = d.replies.tail := by
  unfold conclude
  cases d.replies.headD .accept <;> rfl

/-- **An iteration does what its resolution calls for.** -/
theorem consumeOne_iterates (r : Resolver) (reference : Reference) (d : Desk) :
    Iterates reference d (consumeOne r reference d) ((r.resolve reference).exec d.session).1 := by
  unfold consumeOne prepare
  rcases hrun : (r.resolve reference).exec d.session with ⟨fault | _ | c, s⟩
  · exact ⟨rfl, rfl, rfl, rfl⟩
  · exact ⟨rfl, rfl, rfl, rfl⟩
  · exact ⟨Resolver.taskId_of_exec hrun, Request.forWorker_carries d.serial c,
      conclude_verdict _ _ _, rfl, Loop.conclude_requests, conclude_replies _ _ _,
      conclude_serial _ _ _⟩

/-! ## An iteration of a consumer among others -/

namespace Office

open OfficeEvent

variable {o : Office} {past : List OfficeEvent} {reference : Reference} {d : Desk}
  {run : Verdict × Desk} {verdict : Verdict}

/-- The office can go through an iteration of a consumer, with the same verdict, the same request if
there is one, and the same next number. -/
def Hosts (o : Office) (past : List OfficeEvent) (reference : Reference) (d : Desk)
    (run : Verdict × Desk) : Prop :=
  ∃ ss past' o' sent, o.run past ss = some (past', o') ∧
    o'.jobs = o.jobs ++ [⟨reference, .ended run.1⟩] ∧ o'.serial = run.2.serial ∧
    run.2.requests = d.requests ++ sent ∧
    handovers past' = handovers past ++ sent.map fun request => (o.jobs.length, request)

theorem move_last (jobs : List Job) (job : Job) (serial : UInt64) (progress : Progress) :
    move ⟨jobs ++ [job], serial⟩ jobs.length progress =
      ⟨jobs ++ [{ job with progress := progress }], serial⟩ := by
  simp [move, List.modify_eq_take_cons_drop]

theorem run_failed (reference : Reference) (fault : Fault) :
    o.run past [.begin reference, .resolve o.jobs.length (.error fault)] =
      some (.ended o.jobs.length (.fault fault) :: .begun o.jobs.length reference :: past,
        ⟨o.jobs ++ [⟨reference, .ended (.fault fault)⟩], o.serial⟩) := by
  simp [run, step, finish, move_last]

theorem run_skipped (reference : Reference) :
    o.run past [.begin reference, .resolve o.jobs.length (.ok none)] =
      some (.ended o.jobs.length (.done .skipped) :: .begun o.jobs.length reference :: past,
        ⟨o.jobs ++ [⟨reference, .ended (.done .skipped)⟩], o.serial⟩) := by
  simp [run, step, finish, move_last]

theorem run_replied (reference : Reference) (c : Context) (reply : Reply) :
    let i := o.jobs.length
    let request := Request.forWorker o.serial c
    o.run past [.begin reference, .resolve i (.ok (some c)), .make i, .hand i, .reply i reply] =
      some (.ended i reply.verdict :: .handed i request :: .made i request :: .resolved i c ::
        .begun i reference :: past,
        ⟨o.jobs ++ [⟨reference, .ended reply.verdict⟩], o.serial + 1⟩) := by
  simp [run, step, finish, move_last, count]

theorem hosts_unasked {ss : List OfficeStep} (ho : o.serial = d.serial)
    (hrun : o.run past ss =
      some (.ended o.jobs.length verdict :: .begun o.jobs.length reference :: past,
        ⟨o.jobs ++ [⟨reference, .ended verdict⟩], o.serial⟩))
    (hverdict : run.1 = verdict) (hunasked : d.Unasked run.2) :
    o.Hosts past reference d run := by
  refine ⟨_, _, _, [], hrun, ?_, ?_, ?_, ?_⟩
  · rw [hverdict]
  · rw [hunasked.serial, ho]
  · rw [hunasked.requests, List.append_nil]
  · simp [handovers, List.filterMap_cons, handed?]

/-- **Every iteration of a consumer is one that an office can go through.** -/
theorem hosts_consumeOne (r : Resolver) (ho : o.serial = d.serial) :
    o.Hosts past reference d (consumeOne r reference d) := by
  have hone := consumeOne_iterates r reference d
  generalize consumeOne r reference d = run at hone
  generalize ((r.resolve reference).exec d.session).1 = result at hone
  rcases result with fault | _ | c
  · exact hosts_unasked ho (run_failed reference fault) hone.1 hone.2
  · exact hosts_unasked ho (run_skipped reference) hone.1 hone.2
  · -- the same number stands on the request at the desk and in the office
    obtain ⟨-, -, hverdict, hasked⟩ := hone
    refine ⟨_, _, _, [.forWorker o.serial c],
      run_replied reference c (d.replies.headD .accept), ?_, ?_, ?_, ?_⟩
    · rw [hverdict]
    · rw [hasked.serial, ho]
    · rw [hasked.requests, ho]
    · simp [handovers, List.filterMap_cons, handed?]

end Office

open OfficeEvent in
/-- **Each iteration hands over its own context at most once, under a number of its own.** What a
consumer does is settled by what its resolution comes to and by the dispatcher's reply; and however
iterations of consumers interleave, while numbers last, no two requests have the same. -/
theorem handed_over_once :
    (∀ r reference d, Iterates reference d (consumeOne r reference d)
      ((r.resolve reference).exec d.session).1) ∧
    (∀ r reference d past, ∀ o : Office, o.serial = d.serial →
      o.Hosts past reference d (consumeOne r reference d)) ∧
    ∀ ss past o, Office.start.run [] ss = some (past, o) →
      (serials past).length < UInt64.size → Office.Orderly past o :=
  ⟨consumeOne_iterates, fun r _ _ _ _ ho => Office.hosts_consumeOne r ho,
    fun _ _ _ hrun hlt => Office.orderly_run hrun hlt⟩

/-- A shell task with what it needs. -/
def shellRecords : Snapshot :=
  { Resolver.untenanted with
    tasks := [{ Resolver.shellTask with
      nodeText := "\x7b\"type\":\"SHELL\",\"params\":\x7b\"rawScript\":\"wc\"\x7d\x7d" }]
    definitions := [⟨⟨1⟩, ⟨1⟩, ⟨6⟩, "report", none⟩]
    tenants := [⟨⟨4⟩, "ops", "default"⟩] }

/-- The context that the task has. -/
def shellContext : Context where
  taskId := ⟨7⟩
  taskName := "count"
  taskType := .shell
  nodeText := "\x7b\"type\":\"SHELL\",\"params\":\x7b\"rawScript\":\"wc\"\x7d\x7d"
  startTime := none
  host := some "worker-1"
  logPath := none
  executePath := "/tmp/relay/exec/1/1/1/7"
  workerGroup := "default"
  resources := .none
  processId := ⟨1⟩
  tenantCode := "ops"
  queue := "default"
  executorId := ⟨1⟩
  commandType := none
  scheduleTime := none
  globalParams := none
  definitionId := ⟨1⟩
  projectId := ⟨1⟩
  relation := .none

open OfficeEvent in
/-- The iteration that began first makes its request last, and somebody else has made a command in
between; the other one is given up when the dispatcher has its request. -/
theorem handed_over_once_interleaved :
    let r : Resolver := ⟨.standard, .standard⟩
    let reference := Resolver.shellReference
    let d : Desk := .fresh (.fresh (.ofSnapshot shellRecords) fun _ => none) [.decline]
    let run := consumeOne r reference d
    let early := Request.forWorker 1 shellContext
    let late := Request.forWorker 3 shellContext
    let past : List OfficeEvent := [.ended 0 (.done .rejected), .givenUp 1, .handed 1 early,
      .handed 0 late, .made 0 late, .other 2, .made 1 early, .resolved 1 shellContext,
      .resolved 0 shellContext, .begun 1 reference, .begun 0 reference]
    let o : Office := ⟨[⟨reference, .ended (.done .rejected)⟩, ⟨reference, .givenUp⟩], 4⟩
    (run.1 = .done .rejected ∧ run.2.requests = [early] ∧ early.Carries shellContext) ∧
    Office.start.Hosts [] reference d run ∧
    Office.start.run [] [.begin reference, .begin reference, .resolve 0 (.ok (some shellContext)),
      .resolve 1 (.ok (some shellContext)), .make 1, .other, .make 0, .hand 0, .hand 1, .giveUp 1,
      .reply 0 .decline] = some (past, o) ∧
    (serials past).length < UInt64.size ∧ Office.Orderly past o := by
  intro r reference d run early late past o
  have hresult : ((r.resolve reference).exec d.session).1 = .ok (some shellContext) := by
    decide +kernel
  have hone := handed_over_once.1 r reference d
  rw [hresult] at hone
  obtain ⟨-, hcarries, hverdict, hasked⟩ := hone
  have hrun : Office.start.run [] [.begin reference, .begin reference,
      .resolve 0 (.ok (some shellContext)), .resolve 1 (.ok (some shellContext)), .make 1, .other,
      .make 0, .hand 0, .hand 1, .giveUp 1, .reply 0 .decline] = some (past, o) := rfl
  have hlt : (serials past).length < UInt64.size := by decide
  exact ⟨⟨hverdict, hasked.requests, hcarries⟩, handed_over_once.2.1 r reference d [] .start rfl,
    hrun, hlt, handed_over_once.2.2 _ past o hrun hlt⟩

end Handoff
