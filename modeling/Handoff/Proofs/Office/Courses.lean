import Handoff.Office
import Mathlib.Data.List.Nodup
/-!
# The courses of iterations side by side

Whatever happens meanwhile, what an iteration shows is one of a few courses; and the numbers of
commands count up, whoever makes them.

* `courseOf`, `requests`, `handovers`, `serials`: what a history tells.
* `Course`: **what an iteration has shown, by where it is**: one request at most, made from the
  context that its resolution came to, and handed over once.
* `Office.Move`, `Office.Move.of_step`: what a step of an office can do.
* `Office.invariant_run`: what every step keeps is so after every run.
* `Office.coursed_run`, `Office.numbered_run`: every iteration keeps to its course, and the numbers
  count up from 1, along every run.
* `Office.Orderly`, `Office.orderly_run`: **what follows for requests, while numbers last.**
-/

namespace Handoff

namespace OfficeEvent

/-- The iteration that the event is about. -/
def job? : OfficeEvent → Option Nat
  | .begun i _ | .resolved i _ | .made i _ | .handed i _ | .ended i _ | .givenUp i => some i
  | .other _ => none

/-- The number that the event uses up. -/
def serial? : OfficeEvent → Option UInt64
  | .made _ request => some request.command.serial
  | .other serial => some serial
  | .begun _ _ | .resolved _ _ | .handed _ _ | .ended _ _ | .givenUp _ => none

/-- The request that was made, and by which iteration. -/
def made? : OfficeEvent → Option (Nat × Request)
  | .made i request => some (i, request)
  | .begun _ _ | .resolved _ _ | .handed _ _ | .ended _ _ | .givenUp _ | .other _ => none

/-- The request that was handed to a dispatcher, and by which iteration. -/
def handed? : OfficeEvent → Option (Nat × Request)
  | .handed i request => some (i, request)
  | .begun _ _ | .resolved _ _ | .made _ _ | .ended _ _ | .givenUp _ | .other _ => none

/-- What an iteration has shown, in order. -/
def courseOf (i : Nat) (past : List OfficeEvent) : List OfficeEvent :=
  (past.filter fun e => e.job? = some i).reverse

/-- The requests in the order in which they were made, each with its iteration. -/
def requests (past : List OfficeEvent) : List (Nat × Request) :=
  (past.filterMap made?).reverse

/-- The requests in the order in which dispatchers got them, each with its iteration. -/
def handovers (past : List OfficeEvent) : List (Nat × Request) :=
  (past.filterMap handed?).reverse

/-- The numbers of all commands, in the order in which these were made. -/
def serials (past : List OfficeEvent) : List UInt64 :=
  (past.filterMap serial?).reverse

variable {past : List OfficeEvent} {e : OfficeEvent} {i : Nat}

theorem courseOf_cons_self (h : e.job? = some i) :
    courseOf i (e :: past) = courseOf i past ++ [e] := by
  simp [courseOf, h]

theorem courseOf_cons_of_ne (h : e.job? ≠ some i) : courseOf i (e :: past) = courseOf i past := by
  simp [courseOf, h]

theorem mem_courseOf : e ∈ courseOf i past ↔ e ∈ past ∧ e.job? = some i := by
  simp [courseOf]

theorem serials_cons_of_none (h : e.serial? = none) : serials (e :: past) = serials past := by
  simp [serials, h]

theorem serials_cons_of_some {serial : UInt64} (h : e.serial? = some serial) :
    serials (e :: past) = serials past ++ [serial] := by
  simp [serials, h]

theorem serial?_of_made? {made : Nat × Request} (h : e.made? = some made) :
    e.serial? = some made.2.command.serial := by
  cases e <;> cases h
  rfl

theorem mem_requests {request : Request} :
    (i, request) ∈ requests past ↔ .made i request ∈ past := by
  simp only [requests, List.mem_reverse, List.mem_filterMap]
  constructor
  · rintro ⟨e, he, hmade⟩
    cases e <;> cases hmade
    exact he
  · intro h
    exact ⟨_, h, rfl⟩

theorem mem_handovers {request : Request} :
    (i, request) ∈ handovers past ↔ .handed i request ∈ past := by
  simp only [handovers, List.mem_reverse, List.mem_filterMap]
  constructor
  · rintro ⟨e, he, hhanded⟩
    cases e <;> cases hhanded
    exact he
  · intro h
    exact ⟨_, h, rfl⟩

/-- How often an iteration hands a request over is seen from its course. -/
theorem count_handovers (i : Nat) (past : List OfficeEvent) :
    ((handovers past).map Prod.fst).count i =
      (courseOf i past).countP fun e => e.handed?.isSome := by
  rw [handovers, courseOf, List.map_reverse, List.count_reverse, List.countP_reverse,
    List.count, List.countP_map, List.countP_filterMap, List.countP_filter]
  refine List.countP_congr fun e _ => ?_
  cases e <;> simp [handed?, job?]

end OfficeEvent

open OfficeEvent

/-- What an iteration has shown, by where it is. -/
inductive Course (i : Nat) (reference : Reference) : Progress → List OfficeEvent → Prop where
  | resolving : Course i reference .resolving [.begun i reference]
  | failed (fault : Fault) : Course i reference (.ended (.fault fault))
    [.begun i reference, .ended i (.fault fault)]
  | skipped : Course i reference (.ended (.done .skipped))
    [.begun i reference, .ended i (.done .skipped)]
  | resolved (c : Context) : Course i reference (.resolved c)
    [.begun i reference, .resolved i c]
  | made (c : Context) (serial : UInt64) : Course i reference (.ready (.forWorker serial c))
    [.begun i reference, .resolved i c, .made i (.forWorker serial c)]
  | handed (c : Context) (serial : UInt64) : Course i reference (.handed (.forWorker serial c))
    [.begun i reference, .resolved i c, .made i (.forWorker serial c),
      .handed i (.forWorker serial c)]
  | replied (c : Context) (serial : UInt64) (reply : Reply) :
    Course i reference (.ended reply.verdict)
      [.begun i reference, .resolved i c, .made i (.forWorker serial c),
        .handed i (.forWorker serial c), .ended i reply.verdict]
  | givenUp {progress : Progress} {shown : List OfficeEvent} (h : Course i reference progress shown)
    (ho : progress.isOver = false) : Course i reference .givenUp (shown ++ [.givenUp i])

namespace Course

variable {i : Nat} {reference : Reference} {progress : Progress} {shown : List OfficeEvent}

/-- What is handed over was made before. -/
theorem made_of_handed (h : Course i reference progress shown) {request : Request}
    (hh : .handed i request ∈ shown) : .made i request ∈ shown := by
  induction h with
  | givenUp _ _ ih =>
    have hh' := (List.mem_append.1 hh).resolve_right (by simp)
    exact List.mem_append_left _ (ih hh')
  | resolving | failed | skipped | resolved | made => simp at hh
  | handed | replied => simpa using hh

/-- One request at most is handed over. -/
theorem countP_handed (h : Course i reference progress shown) :
    shown.countP (fun e => e.handed?.isSome) ≤ 1 := by
  induction h with
  | givenUp _ _ ih => simpa [handed?] using ih
  | resolving | failed | skipped | resolved | made | handed | replied => simp [handed?]

end Course

namespace Office

variable {o o' : Office} {s : OfficeStep} {ss : List OfficeStep} {e : OfficeEvent}
  {past past' : List OfficeEvent} {i : Nat} {job : Job} {progress : Progress}

/-- The ways in which an office makes a step. -/
inductive Move (o : Office) : OfficeStep → OfficeEvent → Office → Prop where
  | begun (reference : Reference) : Move o (.begin reference) (.begun o.jobs.length reference)
    { o with jobs := o.jobs ++ [⟨reference, .resolving⟩] }
  | failed {i : Nat} {reference : Reference} (fault : Fault)
    (hj : o.jobs[i]? = some ⟨reference, .resolving⟩) :
    Move o (.resolve i (.error fault)) (.ended i (.fault fault))
      (o.move i (.ended (.fault fault)))
  | skipped {i : Nat} {reference : Reference} (hj : o.jobs[i]? = some ⟨reference, .resolving⟩) :
    Move o (.resolve i (.ok none)) (.ended i (.done .skipped))
      (o.move i (.ended (.done .skipped)))
  | resolved {i : Nat} {reference : Reference} (c : Context)
    (hj : o.jobs[i]? = some ⟨reference, .resolving⟩) :
    Move o (.resolve i (.ok (some c))) (.resolved i c) (o.move i (.resolved c))
  | made {i : Nat} {reference : Reference} {c : Context}
    (hj : o.jobs[i]? = some ⟨reference, .resolved c⟩) :
    Move o (.make i) (.made i (.forWorker o.serial c))
      (o.count.move i (.ready (.forWorker o.serial c)))
  | handed {i : Nat} {reference : Reference} {request : Request}
    (hj : o.jobs[i]? = some ⟨reference, .ready request⟩) :
    Move o (.hand i) (.handed i request) (o.move i (.handed request))
  | replied {i : Nat} {reference : Reference} {request : Request} (reply : Reply)
    (hj : o.jobs[i]? = some ⟨reference, .handed request⟩) :
    Move o (.reply i reply) (.ended i reply.verdict) (o.move i (.ended reply.verdict))
  | givenUp {i : Nat} {job : Job} (hj : o.jobs[i]? = some job)
    (ho : job.progress.isOver = false) : Move o (.giveUp i) (.givenUp i) (o.move i .givenUp)
  | other : Move o .other (.other o.serial) o.count

/-- **Every step is one of the moves.** -/
theorem Move.of_step (hs : o.step s = some (e, o')) : Move o s e o' := by
  cases s with
  | begin reference =>
    cases hs
    exact .begun reference
  | resolve i result =>
    simp only [step] at hs
    split at hs <;> cases hs
    · rename_i hj
      exact .failed _ hj
    · rename_i hj
      exact .skipped hj
    · rename_i hj
      exact .resolved _ hj
  | make i =>
    simp only [step] at hs
    split at hs <;> cases hs
    rename_i hj
    exact .made hj
  | hand i =>
    simp only [step] at hs
    split at hs <;> cases hs
    rename_i hj
    exact .handed hj
  | reply i reply =>
    simp only [step] at hs
    split at hs <;> cases hs
    rename_i hj
    exact .replied reply hj
  | giveUp i =>
    simp only [step] at hs
    split at hs
    · rename_i hj
      split at hs <;> cases hs
      rename_i ho
      exact .givenUp hj (by simpa using ho)
    · cases hs
  | other =>
    cases hs
    exact .other

/-- What every step keeps is so after every run. -/
theorem invariant_run {P : List OfficeEvent → Office → Prop}
    (hstep : ∀ {past o s e o'}, P past o → o.step s = some (e, o') → P (e :: past) o')
    (h : P past o) (hrun : o.run past ss = some (past', o')) : P past' o' := by
  induction ss generalizing o past with
  | nil =>
    cases hrun
    exact h
  | cons s ss ih =>
    obtain ⟨⟨e, next⟩, hs, hrest⟩ := Option.bind_eq_some_iff.1 hrun
    exact ih (hstep h hs) hrest

/-! ## Iterations keep to their courses -/

/-- Every iteration keeps to its course, and nothing is known of those to come. -/
structure Coursed (past : List OfficeEvent) (jobs : List Job) : Prop where
  course : ∀ (i : Nat) job, jobs[i]? = some job →
    Course i job.reference job.progress (courseOf i past)
  known : ∀ e ∈ past, ∀ i, e.job? = some i → i < jobs.length

/-- Nothing has been shown by an iteration to come. -/
theorem Coursed.courseOf_eq_nil {jobs : List Job} (hk : Coursed past jobs)
    (hi : jobs.length ≤ i) : courseOf i past = [] := by
  refine List.eq_nil_iff_forall_not_mem.2 fun e he => ?_
  obtain ⟨he, hjob⟩ := mem_courseOf.1 he
  exact Nat.not_lt.2 hi (hk.known e he i hjob)

/-- An iteration goes on along its course, and the others stay where they are. -/
theorem coursed_move (hk : Coursed past o.jobs) (hj : o.jobs[i]? = some job)
    (he : e.job? = some i)
    (hc : ∀ shown, Course i job.reference job.progress shown →
      Course i job.reference progress (shown ++ [e])) :
    Coursed (e :: past) (o.move i progress).jobs where
  course j job' hj' := by
    simp only [move, List.getElem?_modify, Option.map_eq_map, Option.map_eq_some_iff] at hj'
    obtain ⟨job', hj', rfl⟩ := hj'
    by_cases hij : i = j
    · -- this iteration has shown one event more
      subst hij
      cases hj.symm.trans hj'
      rw [if_pos rfl, courseOf_cons_self he]
      exact hc _ (hk.course i job hj)
    · rw [if_neg hij, courseOf_cons_of_ne (by simpa [he] using hij)]
      exact hk.course j job' hj'
  known e' he' j hj' := by
    simp only [move, List.length_modify]
    rcases List.mem_cons.1 he' with rfl | he'
    · cases he.symm.trans hj'
      exact (List.getElem?_eq_some_iff.1 hj).1
    · exact hk.known e' he' j hj'

theorem coursed_begun (hk : Coursed past o.jobs) (reference : Reference) :
    Coursed (.begun o.jobs.length reference :: past) (o.jobs ++ [⟨reference, .resolving⟩]) where
  course i job hj := by
    by_cases hi : i < o.jobs.length
    · rw [List.getElem?_append_left hi] at hj
      rw [courseOf_cons_of_ne (by simp only [job?, ne_eq, Option.some.injEq]; omega)]
      exact hk.course i job hj
    · -- the iteration that has begun just now
      have hi' : i = o.jobs.length := by
        have := (List.getElem?_eq_some_iff.1 hj).1
        simp only [List.length_append, List.length_singleton] at this
        omega
      subst hi'
      rw [List.getElem?_concat_length] at hj
      cases hj
      rw [courseOf_cons_self rfl, hk.courseOf_eq_nil (Nat.le_refl _)]
      exact .resolving
  known e he i hi := by
    simp only [List.length_append, List.length_singleton]
    rcases List.mem_cons.1 he with rfl | he
    · cases hi
      omega
    · have := hk.known e he i hi
      omega

/-- **Every step keeps the iterations to their courses.** -/
theorem coursed_step (hk : Coursed past o.jobs) (hs : o.step s = some (e, o')) :
    Coursed (e :: past) o'.jobs := by
  -- where an iteration is tells what it has shown so far, and the move adds one event to it
  cases Move.of_step hs with
  | begun reference => exact coursed_begun hk reference
  | failed fault hj =>
    refine coursed_move hk hj rfl fun shown hc => ?_
    cases hc
    exact .failed fault
  | skipped hj =>
    refine coursed_move hk hj rfl fun shown hc => ?_
    cases hc
    exact .skipped
  | resolved c hj =>
    refine coursed_move hk hj rfl fun shown hc => ?_
    cases hc
    exact .resolved c
  | made hj =>
    refine coursed_move hk hj rfl fun shown hc => ?_
    cases hc
    exact .made _ _
  | handed hj =>
    refine coursed_move hk hj rfl fun shown hc => ?_
    cases hc
    exact .handed _ _
  | replied reply hj =>
    refine coursed_move hk hj rfl fun shown hc => ?_
    cases hc
    exact .replied _ _ reply
  | givenUp hj ho => exact coursed_move hk hj rfl fun shown hc => .givenUp hc ho
  | other =>
    refine ⟨fun i job hj => ?_, fun e he i hi => ?_⟩
    · rw [courseOf_cons_of_ne (by simp [job?])]
      exact hk.course i job hj
    · rcases List.mem_cons.1 he with rfl | he
      · cases hi
      · exact hk.known e he i hi

theorem coursed_run (hk : Coursed past o.jobs) (hrun : o.run past ss = some (past', o')) :
    Coursed past' o'.jobs :=
  invariant_run (P := fun past o => Coursed past o.jobs) coursed_step hk hrun

/-- An iteration hands over one request at most. -/
theorem Coursed.handovers_nodup {jobs : List Job} (hk : Coursed past jobs) :
    ((handovers past).map Prod.fst).Nodup := by
  refine List.nodup_iff_count_le_one.2 fun i => ?_
  rw [count_handovers]
  by_cases hi : i < jobs.length
  · exact (hk.course i _ (List.getElem?_eq_getElem hi)).countP_handed
  · rw [hk.courseOf_eq_nil (Nat.le_of_not_lt hi), List.countP_nil]
    exact Nat.zero_le 1

/-- What is handed over was made before, by the same iteration. -/
theorem Coursed.made_of_handed {jobs : List Job} (hk : Coursed past jobs) {request : Request}
    (hh : .handed i request ∈ past) : .made i request ∈ past := by
  have hi := hk.known _ hh i rfl
  have hcourse := hk.course i _ (List.getElem?_eq_getElem hi)
  exact (mem_courseOf.1 (hcourse.made_of_handed (mem_courseOf.2 ⟨hh, rfl⟩))).1

/-! ## Commands are numbered one after another -/

/-- The numbers count up from 1, and the next one is to come. -/
structure Numbered (past : List OfficeEvent) (serial : UInt64) : Prop where
  numbers : serials past = (List.range' 1 (serials past).length).map UInt64.ofNat
  next : serial = UInt64.ofNat (1 + (serials past).length)

theorem numbered_count (hn : Numbered past o.serial) (he : e.serial? = some o.serial) :
    Numbered (e :: past) (o.serial + 1) := by
  refine ⟨?_, ?_⟩
  · rw [serials_cons_of_some he, List.length_append, List.length_singleton, List.range'_1_concat,
      List.map_append, ← hn.numbers, hn.next]
    rfl
  · rw [serials_cons_of_some he, List.length_append, List.length_singleton, ← Nat.add_assoc,
      UInt64.ofNat_add, ← hn.next]
    rfl

theorem numbered_of_none (hn : Numbered past o.serial) (he : e.serial? = none) :
    Numbered (e :: past) o.serial := by
  refine ⟨?_, ?_⟩
  · rw [serials_cons_of_none he]
    exact hn.numbers
  · rw [serials_cons_of_none he]
    exact hn.next

/-- **Every step keeps the numbers in order.** -/
theorem numbered_step (hn : Numbered past o.serial) (hs : o.step s = some (e, o')) :
    Numbered (e :: past) o'.serial := by
  -- a number is used up when a request is made, and by the commands of others
  cases Move.of_step hs with
  | made hj => exact numbered_count hn rfl
  | other => exact numbered_count hn rfl
  | begun | failed | skipped | resolved | handed | replied | givenUp =>
    exact numbered_of_none hn rfl

theorem numbered_run (hn : Numbered past o.serial) (hrun : o.run past ss = some (past', o')) :
    Numbered past' o'.serial :=
  invariant_run (P := fun past o => Numbered past o.serial) numbered_step hn hrun

section

variable {serial : UInt64} (hn : Numbered past serial)
  (hlt : (serials past).length < UInt64.size)

include hn hlt

/-- The numbers are 1, 2, 3 and so on, as long as they do not run over. -/
theorem Numbered.toNat_serials :
    (serials past).map UInt64.toNat = List.range' 1 (serials past).length := by
  rw [hn.numbers, List.length_map, List.length_range', List.map_map]
  refine (List.map_congr_left fun k hk => ?_).trans (List.map_id _)
  have hbound : 1 ≤ k ∧ k < 1 + (serials past).length := List.mem_range'_1.1 hk
  have hsize : k < UInt64.size := by omega
  exact UInt64.toNat_ofNat_of_lt' hsize

theorem Numbered.serials_lt : (serials past).Pairwise (· < ·) := by
  have hlt := List.pairwise_lt_range' (s := 1) (n := (serials past).length)
  rw [← hn.toNat_serials ‹_›, List.pairwise_map] at hlt
  exact hlt

/-- Of two commands the later one has the greater number. -/
theorem Numbered.requests_lt :
    (requests past).Pairwise fun a b => a.2.command.serial < b.2.command.serial := by
  have hlt := hn.serials_lt ‹_›
  rw [serials, List.pairwise_reverse, List.pairwise_filterMap] at hlt
  rw [requests, List.pairwise_reverse, List.pairwise_filterMap]
  refine hlt.imp fun {a b} hab x hx y hy => ?_
  exact hab _ (serial?_of_made? hx) _ (serial?_of_made? hy)

end

/-! ## All together -/

/-- What the history of an office tells, however its iterations interleave. -/
structure Orderly (past : List OfficeEvent) (o : Office) : Prop where
  /-- Every iteration keeps to its course. -/
  coursed : Coursed past o.jobs
  /-- Commands are numbered 1, 2, 3 and so on. -/
  numbers : (serials past).map UInt64.toNat = List.range' 1 (serials past).length
  /-- Of two requests the one that is made later has the greater number. -/
  increasing : (requests past).Pairwise fun a b => a.2.command.serial < b.2.command.serial
  /-- What is handed over was made before, by the same iteration. -/
  made : handovers past ⊆ requests past
  /-- No iteration hands over twice. -/
  once : ((handovers past).map fun x => x.1).Nodup
  /-- No number is handed over twice. -/
  distinct : ((handovers past).map fun x => x.2.command.serial).Nodup

/-- **An office keeps order while numbers last.** -/
theorem orderly_run (hrun : start.run [] ss = some (past, o))
    (hlt : (serials past).length < UInt64.size) : Orderly past o := by
  have hcoursed : Coursed past o.jobs := coursed_run ⟨by simp [start], by simp⟩ hrun
  have hnumbered : Numbered past o.serial := numbered_run ⟨rfl, rfl⟩ hrun
  have hincreasing := hnumbered.requests_lt hlt
  have hmade : handovers past ⊆ requests past := fun x hx =>
    mem_requests.2 (hcoursed.made_of_handed (mem_handovers.1 hx))
  refine ⟨hcoursed, hnumbered.toNat_serials hlt, hincreasing, hmade, hcoursed.handovers_nodup, ?_⟩
  have hnodup : ((requests past).map fun x => x.2.command.serial).Nodup :=
    List.pairwise_map.2 (hincreasing.imp UInt64.ne_of_lt)
  -- two handovers are of two iterations, so of two requests that were made
  have honce := List.pairwise_map.1 hcoursed.handovers_nodup
  refine List.pairwise_map.2 (honce.imp_of_mem fun {a b} ha hb hab heq => ?_)
  exact hab (congrArg Prod.fst (List.inj_on_of_nodup_map hnodup (hmade ha) (hmade hb) heq))

end Office

end Handoff
