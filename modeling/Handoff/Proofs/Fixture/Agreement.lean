import Handoff.Proofs.Fixture.References
import Handoff.Proofs.Store.Records
import Mathlib.Data.Fintype.EquivFin
import Mathlib.Data.List.Nodup
/-!
# References and the records behind them

The references of a fixture without ready texts are made from its lists as they stand: each task
gives its own reference, and of the processes with an id the first one counts. A store keeps the last
record of each id. So the two agree unless an id is repeated by records that differ.

* `Reference.Agrees`: a reference says what the details of its task say.
* `Fixture.Unambiguous`: repeated ids make no difference; `Fixture.unambiguous_of_nodup`: there is
  none where no id is repeated.
* `Fixture.references_agree_iff`: **every reference names a task that the store knows, and all agree
  with its details just if repeated ids make no difference.**
* `Fixture.first_process_counts`: a reference that does not agree.
-/

namespace Handoff

/-- A reference that was made from a listed task says what the details of its task say. Times and
groups are compared where one of the records has one. -/
structure Reference.Agrees (r : Reference) (listed detail : Task) : Prop where
  taskPriority : r.taskPriority = detail.priority
  processId : r.processId = detail.processId
  submitTime : listed.submitTime.isSome ∨ detail.submitTime.isSome →
    detail.submitTime = some r.submitTime
  workerGroup : listed.workerGroup.isSome ∨ detail.workerGroup.isSome →
    detail.workerGroup = some r.workerGroup
  processPriority : r.processPriority = (detail.process.map (·.priority)).getD .medium

/-! ## Values with a stand-in -/

/-- Two optional values of which neither hides behind a stand-in, whatever this is, are the same. -/
theorem eq_of_forall_getD {α : Type} [Nontrivial α] {a b : Option α}
    (h : ∀ standIn, a.isSome ∨ b.isSome → b = some (a.getD standIn)) : a = b := by
  cases a with
  | some x => exact (h x (.inl rfl)).symm
  | none =>
    cases b with
    | none => rfl
    | some y =>
      -- a stand-in that is not the value gives the difference away
      obtain ⟨z, hz⟩ := exists_ne y
      exact absurd (Option.some.inj (h z (.inr rfl))).symm hz

instance : Nontrivial Instant :=
  ⟨.epoch, ⟨1, 0, 0, by decide, by decide, by decide, by decide⟩, by decide⟩

namespace Fixture

/-! ## References and details -/

/-- Repeated ids make no difference to references: the tasks of an id are all alike in what a
reference shows, and of the processes of an id that a task names, the first is as urgent as the
last. -/
structure Unambiguous (f : Fixture) : Prop where
  tasks : ∀ t ∈ f.records.tasks, ∀ t' ∈ f.records.tasks, t.id = t'.id →
    t.priority = t'.priority ∧ t.processId = t'.processId ∧ t.submitTime = t'.submitTime ∧
      t.workerGroup = t'.workerGroup
  processes : ∀ t ∈ f.records.tasks, ∀ first last,
    f.records.processes.find? (fun p => p.id = t.processId) = some first →
    f.records.process? t.processId = some last → first.priority = last.priority

/-- References, one for each listed task, agree with what the store has of their tasks. -/
def Agree (f : Fixture) (references : List Reference) : Prop :=
  ∀ (i : Nat) (t : Task) (r : Reference) (detail : Task), f.records.tasks[i]? = some t →
    references[i]? = some r → (Store.ofSnapshot f.records).detail? r.taskId = some detail →
    r.Agrees t detail

variable {f : Fixture} {group : String} {now : Nat → Instant} {t : Task}

/-- The reference that is made of a listed task. -/
theorem getElem?_listed (hready : f.ready = []) (group : String) (now : Nat → Instant) (i : Nat) :
    (f.listed group now)[i]? =
      f.records.tasks[i]?.map fun t => (f.draftOf group t).stamp (now i) := by
  unfold listed
  rw [if_pos hready, List.getElem?_mapIdx]
  rfl

/-- A task with the process and the definition that count. -/
def detailed (f : Fixture) (t : Task) : Task :=
  { t with
    process := f.records.process? t.processId
    definition := f.records.definition? t.definitionId }

/-- The details of a listed task are those of the last task of its id. -/
theorem exists_detail (ht : t ∈ f.records.tasks) :
    ∃ last ∈ f.records.tasks, last.id = t.id ∧ f.records.task? t.id = some last ∧
      (Store.ofSnapshot f.records).detail? t.id = some (f.detailed last) := by
  have hsome : f.records.task? t.id ≠ none := fun hnone => last?_eq_none_iff.1 hnone t ht rfl
  obtain ⟨last, hlast⟩ := Option.ne_none_iff_exists'.1 hsome
  have hmem : last ∈ f.records.tasks := (List.mem_filter.1 (List.mem_of_getLast? hlast)).1
  refine ⟨last, hmem, key_of_last? hlast, hlast, ?_⟩
  unfold Store.detail?
  rw [Store.task?_ofSnapshot, hlast, Option.map_some, Store.process?_ofSnapshot,
    Store.definition?_ofSnapshot]
  rfl

/-- The first process with an id is as urgent as the one that counts, if there is any. -/
theorem processPriority_eq_iff (f : Fixture) (id : ProcessId) :
    f.processPriority id = ((f.records.process? id).map (·.priority)).getD .medium ↔
      ∀ first last, f.records.processes.find? (fun p => p.id = id) = some first →
        f.records.process? id = some last → first.priority = last.priority := by
  unfold processPriority
  cases hfirst : f.records.processes.find? fun p => p.id = id with
  | none =>
    have hlast : f.records.process? id = none := by
      refine last?_eq_none_iff.2 fun p hp hid => ?_
      simpa [hid] using List.find?_eq_none.1 hfirst p hp
    simp [hlast, Priority.standard]
  | some first =>
    have hsome : f.records.process? id ≠ none := by
      intro hnone
      have hid : first.id = id := by simpa using List.find?_some hfirst
      exact last?_eq_none_iff.1 hnone first (List.mem_of_find?_eq_some hfirst) hid
    obtain ⟨last, hlast⟩ := Option.ne_none_iff_exists'.1 hsome
    simp [hlast]

/-! ## Repeated ids -/

theorem Unambiguous.agree (h : f.Unambiguous) (hready : f.ready = []) (group : String)
    (now : Nat → Instant) : f.Agree (f.listed group now) := by
  intro i t r detail ht hr hdetail
  rw [getElem?_listed hready, ht] at hr
  cases hr
  have hmem : t ∈ f.records.tasks := List.mem_of_getElem? ht
  obtain ⟨last, hlast, hid, -, hdetail'⟩ := exists_detail hmem
  cases hdetail'.symm.trans hdetail
  obtain ⟨hpriority, hprocess, hsubmit, hgroup⟩ := h.tasks t hmem last hlast hid.symm
  -- the details are those of the last task of the id, which shows what this one shows
  have hsubmit : (f.detailed last).submitTime = t.submitTime := hsubmit.symm
  have hgroup : (f.detailed last).workerGroup = t.workerGroup := hgroup.symm
  have hattached : (f.detailed last).process = f.records.process? t.processId := hprocess ▸ rfl
  refine ⟨hpriority, hprocess, ?_, ?_, ?_⟩
  · rw [hsubmit, or_self]
    exact fun hsome => (Option.getD_of_ne_none (Option.isSome_iff_ne_none.1 hsome) _).symm
  · rw [hgroup, or_self]
    exact fun hsome => (Option.getD_of_ne_none (Option.isSome_iff_ne_none.1 hsome) _).symm
  · rw [hattached]
    exact (processPriority_eq_iff f t.processId).2 (h.processes t hmem)

theorem map_taskId_listed (hready : f.ready = []) (group : String) (now : Nat → Instant) :
    (f.listed group now).map (·.taskId) = f.records.tasks.map (·.id) := by
  refine List.ext_getElem? fun i => ?_
  rw [List.getElem?_map, getElem?_listed hready, List.getElem?_map, Option.map_map]
  rfl

/-- What a task shows is what the last task of its id shows, if all references agree. -/
theorem same_as_last (hready : f.ready = []) (h : ∀ group now, f.Agree (f.listed group now))
    (ht : t ∈ f.records.tasks) : ∃ last, f.records.task? t.id = some last ∧
      t.priority = last.priority ∧ t.processId = last.processId ∧ t.submitTime = last.submitTime ∧
      t.workerGroup = last.workerGroup ∧ f.processPriority t.processId =
        ((f.records.process? t.processId).map (·.priority)).getD .medium := by
  obtain ⟨last, -, -, hlast, hdetail⟩ := exists_detail ht
  obtain ⟨i, hi⟩ := List.getElem?_of_mem ht
  have hagree : ∀ (group : String) (now : Nat → Instant),
      ((f.draftOf group t).stamp (now i)).Agrees t (f.detailed last) := by
    intro group now
    refine h group now i t _ _ hi ?_ hdetail
    rw [getElem?_listed hready, hi]
    rfl
  have hone := hagree "" fun _ => .epoch
  have hprocess : t.processId = last.processId := hone.processId
  have hattached : (f.detailed last).process = f.records.process? t.processId := hprocess ▸ rfl
  refine ⟨last, hlast, hone.taskPriority, hprocess, ?_, ?_, hattached ▸ hone.processPriority⟩
  -- clock and group are free, so a stand-in hides no time and no group
  · exact eq_of_forall_getD fun standIn => (hagree "" fun _ => standIn).submitTime
  · exact eq_of_forall_getD fun standIn => (hagree standIn fun _ => .epoch).workerGroup

theorem Unambiguous.of_agree (hready : f.ready = [])
    (h : ∀ group now, f.Agree (f.listed group now)) : f.Unambiguous where
  tasks := by
    intro t ht t' ht' hid
    obtain ⟨last, hlast, hpriority, hprocess, hsubmit, hgroup, -⟩ := same_as_last hready h ht
    obtain ⟨last', hlast', hpriority', hprocess', hsubmit', hgroup', -⟩ := same_as_last hready h ht'
    obtain rfl : last = last' := Option.some.inj (hlast.symm.trans (hid ▸ hlast'))
    exact ⟨hpriority.trans hpriority'.symm, hprocess.trans hprocess'.symm,
      hsubmit.trans hsubmit'.symm, hgroup.trans hgroup'.symm⟩
  processes := by
    intro t ht
    obtain ⟨-, -, -, -, -, -, hurgent⟩ := same_as_last hready h ht
    exact (processPriority_eq_iff f t.processId).1 hurgent

theorem unambiguous_of_nodup (htasks : (f.records.tasks.map (·.id)).Nodup)
    (hprocesses : (f.records.processes.map (·.id)).Nodup) : f.Unambiguous where
  tasks := by
    intro t ht t' ht' hid
    obtain rfl := List.inj_on_of_nodup_map htasks ht ht' hid
    exact ⟨rfl, rfl, rfl, rfl⟩
  processes := by
    intro t ht first last hfirst hlast
    have hfirstId : first.id = t.processId := by simpa using List.find?_some hfirst
    have hfirstMem := List.mem_of_find?_eq_some hfirst
    have hlastMem := (List.mem_filter.1 (List.mem_of_getLast? hlast)).1
    rw [List.inj_on_of_nodup_map hprocesses hfirstMem hlastMem
      (hfirstId.trans (key_of_last? hlast).symm)]

/-- **References and details agree just if repeated ids make no difference.** A fixture without ready
texts has a reference for each of its tasks, and each names a task that the store of its records
knows. Whatever the default group and the clock are, all of them agree with the details of their
tasks, exactly if the tasks of an id are alike and the first process of an id is as urgent as the
last; so they agree wherever no id is repeated. -/
theorem references_agree_iff (hready : f.ready = []) :
    (∀ group now, ∃ references, f.references group now = .ok references ∧
      references.map (·.taskId) = f.records.tasks.map (·.id) ∧
      ∀ r ∈ references, ((Store.ofSnapshot f.records).detail? r.taskId).isSome) ∧
    ((∀ group now references, f.references group now = .ok references → f.Agree references) ↔
      f.Unambiguous) ∧
    ((f.records.tasks.map (·.id)).Nodup → (f.records.processes.map (·.id)).Nodup →
      f.Unambiguous) := by
  have hreferences : ∀ group now, f.references group now = .ok (f.listed group now) :=
    fun group now => references_eq (by simp [hready])
  have hids := map_taskId_listed hready
  refine ⟨fun group now => ⟨_, hreferences group now, hids group now, fun r hr => ?_⟩, ⟨?_, ?_⟩,
    unambiguous_of_nodup⟩
  · have hid : r.taskId ∈ f.records.tasks.map (·.id) :=
      hids group now ▸ List.mem_map_of_mem (f := (·.taskId)) hr
    obtain ⟨t, ht, hid⟩ := List.mem_map.1 hid
    obtain ⟨last, -, -, -, hdetail⟩ := exists_detail ht
    rw [← hid, hdetail]
    rfl
  · intro h
    exact .of_agree hready fun group now => h group now _ (hreferences group now)
  · intro h group now references heq
    cases (hreferences group now).symm.trans heq
    exact h.agree hready group now

/-- A process of the given priority. -/
def listedProcess (priority : Priority) : ProcessRun :=
  ⟨⟨1⟩, ⟨1⟩, ⟨4⟩, ⟨1⟩, priority, none, none, none⟩

/-- A task of that process. -/
def listedTask (name : String) : Task :=
  ⟨⟨7⟩, name, "SHELL", "", ⟨1⟩, ⟨1⟩, .submittedSuccess, .medium, none, none, none, none, none, none,
    none⟩

/-- A fixture without ready texts, of the given processes and tasks. -/
def unready (processes : List ProcessRun) (tasks : List Task) : Fixture :=
  ⟨{ Snapshot.empty with processes := processes, tasks := tasks }, []⟩

/-- A task that is listed twice, under two names. -/
theorem references_agree_iff_renamed :
    let f := unready [listedProcess .low] [listedTask "count", listedTask "recount"]
    f.ready = [] ∧ f.Unambiguous ∧ ∀ group now references,
      f.references group now = .ok references → f.Agree references := by
  intro f
  have hunambiguous : f.Unambiguous := by
    constructor
    · decide
    · have hurgent : ∀ t ∈ f.records.tasks, f.processPriority t.processId =
          ((f.records.process? t.processId).map (·.priority)).getD .medium := by decide
      exact fun t ht => (processPriority_eq_iff f t.processId).1 (hurgent t ht)
  exact ⟨rfl, hunambiguous, (references_agree_iff rfl).2.1.2 hunambiguous⟩

/-- Of two processes with one id, the first one counts for a reference and the last one for the
details of the task. -/
theorem first_process_counts :
    let f := unready [listedProcess .low, listedProcess .high] [listedTask "count"]
    ∃ r detail, f.references "default" (fun _ => .epoch) = .ok [r] ∧
      (Store.ofSnapshot f.records).detail? r.taskId = some detail ∧
      detail.process = some (listedProcess .high) ∧ r.processPriority = .low ∧
      ¬r.Agrees (listedTask "count") detail := by
  refine ⟨_, _, rfl, rfl, rfl, rfl, fun h => ?_⟩
  cases h.processPriority

end Fixture

end Handoff
