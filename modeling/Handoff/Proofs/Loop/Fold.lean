import Handoff.Proofs.Loop.History
import Handoff.Proofs.Session.Log
/-!
# The loop does what a fold over the queue does

References put in before the loop begins are iterated over one after another, in ascending order, as
if `consumeOne` were called on the sorted list: the dispatcher sees the same requests and gives the
same replies, the service gets the same calls and its store changes alike. No iteration keeps another
one from its turn, however it ends. Only the log tells the two apart.

* `iterationsOf`: the iterations of a fold.
* `Follows`: the invariant: the iterations ended are those of a fold over their references.
* `follows_step`, `follows_run`: **what a loop does that is not disturbed, a fold does.**
* `next?_runAlone`: the loop left to itself goes on until it has to wait.
* `loop_follows_fold`: the loop and the fold.
-/

namespace Handoff

/-- The iteration of a reference at a desk. -/
def iterationOf (r : Resolver) (reference : Reference) (d : Desk) : Iteration where
  reference := reference
  exchange :=
    match (prepare r reference d).1 with
    | .inl _ => none
    | .inr request => some (request, d.replies.headD .accept)
  verdict := (consumeOne r reference d).1

/-- The iterations of one reference after another. -/
def iterationsOf (r : Resolver) : List Reference → Desk → List Iteration
  | [], _ => []
  | reference :: rest, d =>
    iterationOf r reference d :: iterationsOf r rest (consumeOne r reference d).2

section fold

variable {r : Resolver} {reference : Reference} {refs more : List Reference} {d : Desk}

theorem iterationsOf_append : iterationsOf r (refs ++ more) d =
    iterationsOf r refs d ++ iterationsOf r more (consumeAll r refs d).2 := by
  induction refs generalizing d with
  | nil => rfl
  | cons x xs ih => simp only [List.cons_append, iterationsOf, ih, consumeAll]

theorem consumeAll_append_desk : (consumeAll r (refs ++ more) d).2 =
    (consumeAll r more (consumeAll r refs d).2).2 := by
  induction refs generalizing d with
  | nil => rfl
  | cons x xs ih => simp only [List.cons_append, consumeAll, ih]

theorem verdicts_iterationsOf :
    (iterationsOf r refs d).map (·.verdict) = (consumeAll r refs d).1 := by
  induction refs generalizing d with
  | nil => rfl
  | cons x xs ih => simp only [iterationsOf, List.map_cons, ih, iterationOf, consumeAll]

/-- The iteration of a reference that there is no request for. -/
theorem iterationOf_inl {verdict : Verdict} (h : (prepare r reference d).1 = .inl verdict) :
    iterationOf r reference d = ⟨reference, none, verdict⟩ ∧
      (consumeOne r reference d).2 = (prepare r reference d).2 := by
  unfold iterationOf consumeOne
  rcases hp : prepare r reference d with ⟨result, d'⟩
  rw [hp] at h
  obtain rfl : result = .inl verdict := h
  exact ⟨rfl, rfl⟩

/-- The iteration of a reference whose request the dispatcher replies to. -/
theorem iterationOf_inr {request : Request} {d' : Desk}
    (h : prepare r reference d = (.inr request, d')) :
    iterationOf r reference d = ⟨reference, some (request, d'.replies.headD .accept),
        (conclude reference.taskId request d').1⟩ ∧
      (consumeOne r reference d).2 = (conclude reference.taskId request d').2 := by
  have hreplies := (Loop.prepare_requests_inr h).2
  unfold iterationOf consumeOne
  rw [h, hreplies]
  exact ⟨rfl, rfl⟩

end fold

namespace Loop

variable {l l' : Loop} {s : LoopStep} {ss : List LoopStep} {r : Resolver} {desk : Desk}
  {refs : List Reference} {its : List Iteration}

/-- A step that does not disturb the loop: nothing is put in, no take fails, and a stop comes only
once the queue is drained. -/
def Calm (l : Loop) : LoopStep → Prop
  | .put _ | .trouble _ => False
  | .requestStop | .dropHandle => l.queue.held = []
  | _ => True

theorem calm_of_own (h : s.isOwn) : l.Calm s := by
  cases s <;> trivial

/-- Along these steps nothing disturbs the loop. -/
def Undisturbed (l : Loop) : List LoopStep → Prop
  | [] => True
  | s :: ss => l.Calm s ∧ ∀ l', l.step s = some l' → l'.Undisturbed ss

/-- The iterations that have ended are those of a fold over their references; what is on the desk is
what the fold leaves there, or what it has there while a request waits for its reply; and what has
not been taken is held. -/
structure Follows (r : Resolver) (desk : Desk) (refs : List Reference) (l : Loop)
    (its : List Iteration) : Prop where
  resolver : l.resolver = r
  inOrder : its.map (·.reference) ++ l.phase.current ++ l.queue.held = refs
  ended : its = iterationsOf r (its.map (·.reference)) desk
  between : l.phase.pending = [] →
    l.desk.quiet = (consumeAll r (its.map (·.reference)) desk).2.quiet
  handing : ∀ reference request, l.phase = .handing reference request →
    ∃ d, prepare r reference (consumeAll r (its.map (·.reference)) desk).2 = (.inr request, d) ∧
      l.desk.quiet = d.quiet
  drained : l.stopReady = true ∨ l.phase.goesOn = false → l.queue.held = []
  well : l.phase ≠ .resting ∧ l.phase ≠ .crashed

@[simp]
theorem finish_desk {task : TaskId} {verdict : Verdict} :
    (l.finish task verdict).desk.quiet = l.desk.quiet := by
  cases verdict <;> rfl

@[simp]
theorem finish_resolver {task : TaskId} {verdict : Verdict} :
    (l.finish task verdict).resolver = l.resolver := by
  cases verdict <;> rfl

@[simp]
theorem finish_stopReady {task : TaskId} {verdict : Verdict} :
    (l.finish task verdict).stopReady = l.stopReady := by
  cases verdict <;> rfl

namespace Follows

/-- Between iterations the loop moves on, and may begin with the next one. -/
theorem moveOn (hf : Follows r desk refs l its) (hcur : l.phase.current = [])
    (hpend : l.phase.pending = []) (hres : l'.resolver = l.resolver)
    (hq : l'.phase.current ++ l'.queue.held = l.queue.held)
    (hh : ∀ reference request, l'.phase ≠ .handing reference request)
    (hdesk : l'.desk.quiet = l.desk.quiet)
    (hd : l'.stopReady = true ∨ l'.phase.goesOn = false → l'.queue.held = [])
    (hw : l'.phase ≠ .resting ∧ l'.phase ≠ .crashed) : Follows r desk refs l' its where
  resolver := hres.trans hf.resolver
  inOrder := by
    have h := hf.inOrder
    rw [hcur, List.append_nil] at h
    rw [List.append_assoc, hq, h]
  ended := hf.ended
  between _ := hdesk.trans (hf.between hpend)
  handing reference request hp := absurd hp (hh reference request)
  drained := hd
  well := hw

/-- An iteration ends as it does in the fold, and the loop goes back to its top. -/
theorem endOne (hf : Follows r desk refs l its) {i : Iteration}
    (hcur : l.phase.current = [i.reference])
    (hi : iterationOf r i.reference (consumeAll r (its.map (·.reference)) desk).2 = i)
    (hres : l'.resolver = l.resolver) (hp : l'.phase = .top) (hq : l'.queue = l.queue)
    (hs : l'.stopReady = l.stopReady)
    (hdesk : l'.desk.quiet = (consumeOne r i.reference
      (consumeAll r (its.map (·.reference)) desk).2).2.quiet) :
    Follows r desk refs l' (its ++ [i]) where
  resolver := hres.trans hf.resolver
  inOrder := by
    have h := hf.inOrder
    rw [hcur] at h
    rw [hp, hq, List.map_append]
    simpa [Phase.current] using h
  ended := by
    rw [List.map_append, iterationsOf_append, ← hf.ended]
    simp [iterationsOf, hi]
  between _ := by
    rw [hdesk, List.map_append, consumeAll_append_desk]
    rfl
  handing reference request h := by rw [hp] at h; cases h
  drained h := by
    rw [hq]
    rw [hs, hp] at h
    exact hf.drained (.inl (h.resolve_right (by simp [Phase.goesOn])))
  well := by simp [hp]

variable {reference : Reference} {request : Request} {verdict : Verdict} {d : Desk}

/-- The resolver finds at the loop's desk what it finds at the fold's. -/
theorem prepare_eq (hf : Follows r desk refs l its) (hb : r.registry.Blind)
    (hp : l.phase = .taken reference) {result : Verdict ⊕ Request}
    (hv : prepare l.resolver reference l.desk = (result, d)) :
    ∃ d', prepare r reference (consumeAll r (its.map (·.reference)) desk).2 = (result, d') ∧
      d.quiet = d'.quiet := by
  obtain ⟨hres, hdesk⟩ := prepare_quiet reference hb
    (hf.between (by rw [hp]; rfl))
  rw [← hf.resolver, hv, hf.resolver] at hres hdesk
  rcases hfold : prepare r reference (consumeAll r (its.map (·.reference)) desk).2 with ⟨result', d'⟩
  rw [hfold] at hres hdesk
  obtain rfl : result = result' := hres
  exact ⟨d', hfold, hdesk⟩

/-- An iteration without a request ends. -/
theorem withoutRequest (hf : Follows r desk refs l its) (hb : r.registry.Blind)
    (hp : l.phase = .taken reference)
    (hv : prepare l.resolver reference l.desk = (.inl verdict, d)) :
    Follows r desk refs ({ l with desk := d }.finish reference.taskId verdict)
      (its ++ [⟨reference, none, verdict⟩]) := by
  obtain ⟨d', hfold, hdesk⟩ := hf.prepare_eq hb hp hv
  have hverdict : (prepare r reference (consumeAll r (its.map (·.reference)) desk).2).1 =
      .inl verdict := by rw [hfold]
  obtain ⟨hi, hone⟩ := iterationOf_inl hverdict
  refine hf.endOne (by rw [hp]; rfl) hi finish_resolver finish_phase finish_queue
    finish_stopReady ?_
  rw [hone, hfold, finish_desk]
  exact hdesk

/-- A request is handed to the dispatcher. -/
theorem handOver (hf : Follows r desk refs l its) (hb : r.registry.Blind)
    (hp : l.phase = .taken reference)
    (hv : prepare l.resolver reference l.desk = (.inr request, d)) :
    Follows r desk refs ({ l with desk := d }.goTo (.handing reference request)) its where
  resolver := hf.resolver
  inOrder := by
    have h := hf.inOrder
    rw [hp] at h
    exact h
  ended := hf.ended
  between h := by cases h
  handing reference' request' h := by
    cases h
    exact hf.prepare_eq hb hp hv
  drained h := hf.drained (.inl (h.resolve_right (by simp [goTo, Phase.goesOn])))
  well := by simp [goTo]

/-- An iteration ends with the dispatcher's reply. -/
theorem withReply (hf : Follows r desk refs l its) (hp : l.phase = .handing reference request) :
    Follows r desk refs (l.getReply reference request)
      (its ++ [⟨reference, some (request, l.desk.replies.headD .accept),
        (conclude reference.taskId request l.desk).1⟩]) := by
  obtain ⟨d, hprep, hdesk⟩ := hf.handing reference request hp
  obtain ⟨hi, hone⟩ := iterationOf_inr hprep
  obtain ⟨hverdict, hquiet⟩ := conclude_quiet reference.taskId request hdesk
  have hreplies : l.desk.replies = d.replies := by
    simp only [Desk.quiet, Desk.mk.injEq] at hdesk
    exact hdesk.2.1
  refine hf.endOne (by rw [hp]; rfl) ?_ finish_resolver finish_phase finish_queue
    finish_stopReady ?_
  · rw [hi, hreplies, hverdict]
  · rw [hone, getReply, finish_desk]
    exact hquiet

end Follows

theorem endedAt_eq_nil (hres : s ≠ .resolve) (hrep : s ≠ .reply) : l.endedAt s = [] := by
  cases s <;> first | rfl | exact absurd rfl hres | exact absurd rfl hrep

/-- **What a loop does that is not disturbed, a fold does.** -/
theorem follows_step (hb : r.registry.Blind) (hf : Follows r desk refs l its) (hc : l.Calm s)
    (hs : l.step s = some l') : Follows r desk refs l' (its ++ l.endedAt s) := by
  have hmove := Move.of_step hs
  cases hmove with
  | put | trouble => exact hc.elim
  | close =>
    rw [endedAt_eq_nil (by simp) (by simp), List.append_nil]
    exact ⟨hf.resolver, hf.inOrder, hf.ended, hf.between, hf.handing, hf.drained, hf.well⟩
  | requestStop | dropHandle =>
    -- a stop comes only once the queue is drained
    rw [endedAt_eq_nil (by simp) (by simp), List.append_nil]
    exact ⟨hf.resolver, hf.inOrder, hf.ended, hf.between, hf.handing, fun _ => hc, hf.well⟩
  | begin hp | look hp | heedRequest hp =>
    rw [endedAt_eq_nil (by simp) (by simp), List.append_nil]
    exact hf.moveOn (by rw [hp]; rfl) (by rw [hp]; rfl) rfl rfl (by simp [goTo]) rfl
      (fun h => hf.drained (.inl (h.resolve_right (by simp [goTo, Phase.goesOn]))))
      (by simp [goTo])
  | lookStop hp hr =>
    rw [endedAt_eq_nil (by simp) (by simp), List.append_nil]
    exact hf.moveOn (by rw [hp]; rfl) (by rw [hp]; rfl) rfl rfl (by simp [leave, goTo]) rfl
      (fun _ => hf.drained (.inl (by simp [stopReady, hr]))) (by simp [leave, goTo])
  | heedDrop hp hr hd =>
    rw [endedAt_eq_nil (by simp) (by simp), List.append_nil]
    exact hf.moveOn (by rw [hp]; rfl) (by rw [hp]; rfl) rfl rfl (by simp [leave, goTo]) rfl
      (fun _ => hf.drained (.inl (by simp [stopReady, hd]))) (by simp [leave, goTo])
  | release hp hr =>
    rw [endedAt_eq_nil (by simp) (by simp), List.append_nil]
    exact hf.moveOn (by rw [hp]; rfl) (by rw [hp]; rfl) rfl rfl (by simp [leave, goTo]) rfl
      (fun _ => hf.drained (.inl hr)) (by simp [leave, goTo])
  | takeClosed hp hq hcl =>
    rw [endedAt_eq_nil (by simp) (by simp), List.append_nil]
    exact hf.moveOn (by rw [hp]; rfl) (by rw [hp]; rfl) rfl rfl (by simp [park, goTo]) rfl
      (fun _ => hq) (by simp [park, goTo])
  | take hp hq =>
    rw [endedAt_eq_nil (by simp) (by simp), List.append_nil]
    refine hf.moveOn (by rw [hp]; rfl) (by rw [hp]; rfl) rfl ?_ (by simp [goTo]) rfl ?_
      (by simp [goTo])
    · rw [hq]
      rfl
    · -- with the stop ready there would have been nothing to take
      intro h
      have hnil := hf.drained (.inl (h.resolve_right (by simp [goTo, Phase.goesOn])))
      rw [hq] at hnil
      cases hnil
  | goOn hp => exact absurd hp hf.well.1
  | @resolve reference verdict d hp hv =>
    have hended : l.endedAt .resolve = [⟨reference, none, verdict⟩] := by
      simp [endedAt, hp, hv]
    rw [hended]
    exact hf.withoutRequest hb hp hv
  | @resolveRequest reference request d hp hv =>
    have hended : l.endedAt .resolve = [] := by simp [endedAt, hp, hv]
    rw [hended, List.append_nil]
    exact hf.handOver hb hp hv
  | @reply reference request hp =>
    have hended : l.endedAt .reply = [⟨reference, some (request, l.desk.replies.headD .accept),
        (conclude reference.taskId request l.desk).1⟩] := by
      simp [endedAt, hp]
    rw [hended]
    exact hf.withReply hp

theorem follows_run (hb : r.registry.Blind) (hf : Follows r desk refs l its)
    (hu : l.Undisturbed ss) (hr : l.run ss = some l') :
    Follows r desk refs l' (its ++ l.ended ss) := by
  induction ss generalizing l its with
  | nil =>
    cases hr
    rw [ended, observe, List.append_nil]
    exact hf
  | cons s ss ih =>
    obtain ⟨l₁, hs, hr⟩ := Option.bind_eq_some_iff.1 hr
    have h := ih (follows_step hb hf hu.1 hs) (hu.2 l₁ hs) hr
    rw [ended, observe_cons hs, ← List.append_assoc]
    exact h

/-! ## The loop left to itself -/

/-- A bound on the steps that the loop makes by itself: a waiting loop that was asked to stop goes to
its top once more. -/
def rank (l : Loop) : Nat :=
  l.queue.size * 6 + phaseCost l.phase + if l.phase = .waiting ∧ l.stopRequested = true then 2 else 0

theorem rank_le_cost : l.rank ≤ l.cost := by
  unfold rank cost
  split <;> omega

theorem rank_finish {task : TaskId} {verdict : Verdict} :
    (l.finish task verdict).rank = l.queue.size * 6 + 5 := by
  simp [rank, phaseCost]

/-- The step that the loop makes by itself can be made. -/
theorem step_of_next? (hn : l.next? = some s) : ∃ l', l.step s = some l' := by
  refine Option.isSome_iff_exists.1 ?_
  unfold next? at hn
  split at hn
  · rename_i hp
    cases hn
    simp [step, hp]
  · rename_i hp
    cases hn
    simp [step, hp]
  · rename_i hp
    split at hn
    · rename_i hr
      cases hn
      simp [step, hp, hr]
    · split at hn <;> cases hn
      rename_i hempty
      cases hq : l.queue.held with
      | cons r rest => simp [step, hp, takeNext, Queue.take, hq]
      | nil =>
        have hc : l.queue.closed = true := by simpa [Queue.isEmpty, hq] using hempty
        simp [step, hp, takeNext, Queue.take, hq, hc]
  · rename_i hp
    cases hn
    simp [step, hp]
  · rename_i hp
    cases hn
    simp [step, hp]
  · rename_i hp
    cases hn
    simp [step, hp]
  · rename_i hp
    split at hn <;> cases hn
    rename_i hr
    simp [step, hp, hr]
  · cases hn
  · cases hn

theorem own_of_next? (hn : l.next? = some s) : s.isOwn := by
  unfold next? at hn
  repeat' split at hn
  all_goals cases hn <;> rfl

/-- **What the loop does by itself brings it nearer to where it has to wait.** -/
theorem rank_lt (hown : s.isOwn) (hs : l.step s = some l') : l'.rank < l.rank := by
  cases Move.of_step hs with
  | put | close | requestStop | dropHandle | trouble => cases hown
  | begin hp => simp [rank, hp, goTo, log, phaseCost]
  | lookStop hp hr => simp [rank, hp, leave, goTo, log, phaseCost]
  | look hp hr => simp [rank, hp, hr, goTo, phaseCost]
  | heedRequest hp hr => simp [rank, hp, hr, goTo, phaseCost]
  | heedDrop hp hr hd => simp [rank, hp, hr, leave, goTo, log, phaseCost]
  | take hp hq =>
    simp only [rank, goTo, log, Queue.size, phaseCost, hp, hq, List.length_cons, reduceCtorEq,
      false_and, if_false]
    omega
  | takeClosed hp hq hc =>
    simp only [rank, park, goTo, log, phaseCost, hp, reduceCtorEq, false_and, if_false]
    omega
  | resolve hp hv =>
    rw [rank_finish]
    simp [rank, hp, phaseCost]
  | resolveRequest hp hv => simp [rank, hp, goTo, phaseCost]
  | reply hp =>
    rw [getReply, rank_finish]
    simp [rank, hp, phaseCost]
  | goOn hp => simp [rank, hp, goTo, phaseCost]
  | release hp hr => simp [rank, hp, leave, goTo, log, phaseCost]

theorem next?_runFor {n : Nat} (hn : l.rank ≤ n) : (runFor n l).next? = none := by
  induction n generalizing l with
  | zero =>
    cases hs : l.next? with
    | none => exact hs
    | some s =>
      obtain ⟨l', hstep⟩ := step_of_next? hs
      have hlt := rank_lt (own_of_next? hs) hstep
      omega
  | succ n ih =>
    cases hs : l.next? with
    | none => simp [runFor, hs]
    | some s =>
      obtain ⟨l', hstep⟩ := step_of_next? hs
      have hlt := rank_lt (own_of_next? hs) hstep
      have hrun : runFor (n + 1) l = runFor n l' := by simp [runFor, hs, hstep]
      rw [hrun]
      exact ih (by omega)

/-- **The loop left to itself goes on until it has to wait for others, or has ended.** -/
theorem next?_runAlone (l : Loop) : l.runAlone.next? = none :=
  next?_runFor rank_le_cost

/-- What the loop does by itself does not disturb it. -/
theorem undisturbed_of_own (h : ∀ s ∈ ss, s.isOwn) : l.Undisturbed ss := by
  induction ss generalizing l with
  | nil => trivial
  | cons s ss ih =>
    obtain ⟨hs, hss⟩ := List.forall_mem_cons.1 h
    refine ⟨calm_of_own hs, fun _ _ => ih hss⟩

/-- The loop left to itself makes steps of its own. -/
theorem exists_own_runFor (n : Nat) (l : Loop) :
    ∃ own, (∀ s ∈ own, s.isOwn) ∧ l.run own = some (runFor n l) := by
  induction n generalizing l with
  | zero => exact ⟨[], List.forall_mem_nil _, rfl⟩
  | succ n ih =>
    cases hs : l.next? with
    | none => exact ⟨[], List.forall_mem_nil _, by simp [run, runFor, hs]⟩
    | some s =>
      obtain ⟨l₁, hstep⟩ := step_of_next? hs
      obtain ⟨own, hown, hrun⟩ := ih l₁
      refine ⟨s :: own, List.forall_mem_cons.2 ⟨own_of_next? hs, hown⟩, ?_⟩
      rw [run_cons hstep, hrun]
      simp [runFor, hs, hstep]

/-- What the loop does by itself is a run that nothing disturbs. -/
theorem exists_run_runFor (n : Nat) (l : Loop) :
    ∃ own, l.run own = some (runFor n l) ∧ l.Undisturbed own := by
  obtain ⟨own, hown, hrun⟩ := exists_own_runFor n l
  exact ⟨own, hrun, undisturbed_of_own hown⟩

/-- A loop that nothing disturbed has to wait, or has ended, only where nothing is left to do. -/
theorem Follows.idle (hf : Follows r desk refs l its) (hn : l.next? = none) :
    l.phase.current = [] ∧ l.phase.pending = [] ∧ l.queue.held = [] := by
  unfold next? at hn
  cases hp : l.phase with
  | waiting =>
    simp only [hp] at hn
    split at hn
    · cases hn
    · split at hn
      · rename_i hempty
        exact ⟨rfl, rfl, by simpa [Queue.isEmpty] using (Bool.and_eq_true_iff.1 hempty).1⟩
      · cases hn
  | parked | stopped => exact ⟨rfl, rfl, hf.drained (.inr (by rw [hp]; rfl))⟩
  | crashed => exact absurd hp hf.well.2
  | spawned | top | taken | handing | resting =>
    simp only [hp] at hn
    cases hn

/-! ## The loop and the fold -/

/-- References put into an open queue are all accepted, each at its place. -/
theorem run_puts (hc : l.queue.closed = false) :
    l.run (refs.map .put) = some { l with queue := { l.queue with
      held := refs.foldl (fun held r => Queue.insert r held) l.queue.held } } := by
  induction refs generalizing l with
  | nil => rfl
  | cons x xs ih =>
    have hs : l.step (.put x) =
        some { l with queue := { l.queue with held := Queue.insert x l.queue.held } } := by
      simp [step, Queue.put, hc]
    rw [List.map_cons, run_cons hs]
    exact ih (l := { l with queue := { l.queue with held := Queue.insert x l.queue.held } }) hc

/-- Nothing has ended yet. -/
theorem follows_spawn : Follows r desk refs (spawn r ⟨refs, false⟩ desk) [] where
  resolver := rfl
  inOrder := rfl
  ended := rfl
  between _ := rfl
  handing _ _ h := by cases h
  drained h := by simp [stopReady, spawn, Phase.goesOn] at h
  well := by simp [spawn]

/-- At every point the iterations ended are the first ones of the fold over all references. -/
theorem Follows.isPrefix (hf : Follows r desk refs l its) : its <+: iterationsOf r refs desk := by
  have h := hf.inOrder
  rw [List.append_assoc] at h
  rw [← h, iterationsOf_append, ← hf.ended]
  exact List.prefix_append ..

/-- **The loop does what a fold over the sorted references does.** Whatever was put in before the loop
began is taken in ascending order, with one iteration for each reference; at every point the
iterations ended are the first ones of the fold, with the same requests, replies and verdicts; and
left to itself the loop comes to the fold's last one, with the service and its store as the fold
leaves them. -/
theorem loop_follows_fold (hb : r.registry.Blind) (refs : List Reference) (desk : Desk) :
    ∃ start, (spawn r .empty desk).run (refs.map .put) = some start ∧
      ∀ ss l, start.Undisturbed ss → start.run ss = some l →
        (start.taken ss ++ l.queue.held = Queue.sorted refs ∧
          (start.ended ss).map (·.reference) ++ l.phase.current = start.taken ss ∧
          start.ended ss <+: iterationsOf r (Queue.sorted refs) desk) ∧
        (l.phase.current = [] →
          l.desk.quiet = (consumeAll r (start.taken ss) desk).2.quiet) ∧
        ∃ own, l.run own = some l.runAlone ∧ l.runAlone.next? = none ∧
          l.runAlone.queue.held = [] ∧ start.taken (ss ++ own) = Queue.sorted refs ∧
          start.ended (ss ++ own) = iterationsOf r (Queue.sorted refs) desk ∧
          (start.ended (ss ++ own)).map (·.reference) = Queue.sorted refs ∧
          (start.ended (ss ++ own)).map (·.verdict) = (consumeAll r (Queue.sorted refs) desk).1 ∧
          l.runAlone.desk.quiet = (consumeAll r (Queue.sorted refs) desk).2.quiet := by
  refine ⟨spawn r ⟨Queue.sorted refs, false⟩ desk, ?_, ?_⟩
  · rw [← Queue.foldl_insert]
    exact run_puts rfl
  intro ss l hu hr
  generalize hstart : spawn r ⟨Queue.sorted refs, false⟩ desk = start at hu hr ⊢
  have hf₀ : Follows r desk (Queue.sorted refs) start [] := hstart ▸ follows_spawn
  have hcur₀ : start.phase.current = [] := by rw [← hstart]; rfl
  have hf : Follows r desk (Queue.sorted refs) l (start.ended ss) := follows_run hb hf₀ hu hr
  have htaken := ended_append_current hr
  rw [hcur₀, List.nil_append] at htaken
  refine ⟨⟨?_, htaken, hf.isPrefix⟩, ?_, ?_⟩
  · rw [← htaken]
    exact hf.inOrder
  · intro hcur
    rw [hcur, List.append_nil] at htaken
    rw [← htaken]
    refine hf.between ?_
    cases hp : l.phase <;> first | rfl | (rw [hp] at hcur; cases hcur)
  · -- left to itself the loop takes what is held, as nothing disturbs it
    obtain ⟨own, hrun, hu'⟩ := exists_run_runFor l.cost l
    have hend := follows_run hb hf hu' hrun
    have happ : start.ended (ss ++ own) = start.ended ss ++ l.ended own := observe_append hr
    rw [← happ] at hend
    obtain ⟨hcur, hpend, hheld⟩ := hend.idle (next?_runAlone l)
    have hall : (start.ended (ss ++ own)).map (·.reference) = Queue.sorted refs := by
      have h := hend.inOrder
      rwa [hcur, hheld, List.append_nil, List.append_nil] at h
    have hrun' : start.run (ss ++ own) = some (runFor l.cost l) := by
      rw [run_append, hr]
      exact hrun
    have htaken' := ended_append_current hrun'
    rw [hcur, hcur₀, List.append_nil, List.nil_append, hall] at htaken'
    have hended := hend.ended
    rw [hall] at hended
    refine ⟨own, hrun, next?_runAlone l, hheld, htaken'.symm, hended, hall, ?_, ?_⟩
    · rw [hended, verdicts_iterationsOf]
    · have hdesk := hend.between hpend
      rwa [hall] at hdesk

/-- Tasks that need nothing but their process, its definition and its tenant. -/
def plainRecords (ids : List TaskId) : Snapshot :=
  { Snapshot.empty with
    tasks := ids.map fun id => ⟨id, "", "HTTP", "\x7b\"type\":\"\"\x7d", ⟨1⟩, ⟨1⟩, .kill, .standard,
      none, none, none, none, none, none, none⟩
    processes := [⟨⟨1⟩, ⟨1⟩, ⟨4⟩, ⟨1⟩, .standard, none, none, none⟩]
    definitions := [⟨⟨1⟩, ⟨1⟩, ⟨1⟩, "", none⟩]
    tenants := [⟨⟨4⟩, "", ""⟩] }

/-- A task that is not stored, one that was put in twice and is declined and then lost in a panic, and
one whose dispatcher fails: each gets its turn, in order, and the requests are numbered without a
gap. -/
theorem loop_follows_fold_no_success :
    let refs : List Reference := [.ofTask 4, .ofTask 3, .ofTask 1, .ofTask 3]
    let desk : Desk := .fresh (.fresh (.ofSnapshot (plainRecords [⟨3⟩, ⟨4⟩])) fun _ => none)
      [.decline, .panic (some "full"), .fail (.transport "lost")]
    ∃ start, (spawn ⟨.standard, .standard⟩ .empty desk).run (refs.map .put) = some start ∧
      ∃ own, start.run own = some start.runAlone ∧ start.runAlone.queue.held = [] ∧
        start.taken own = [.ofTask 1, .ofTask 3, .ofTask 3, .ofTask 4] ∧
        (start.ended own).map (·.verdict) = [.fault (.taskNotFound ⟨1⟩), .done .rejected,
          .panic "full", .fault (.dispatch (.transport "lost"))] ∧
        start.runAlone.desk.requests.map (·.command.serial) = [1, 2, 3] := by
  intro refs desk
  obtain ⟨start, hrun, hall⟩ :=
    loop_follows_fold (r := ⟨.standard, .standard⟩) blind_standard refs desk
  obtain ⟨-, -, own, hown, -, hheld, htaken, -, -, hverdicts, hdesk⟩ := hall [] start trivial rfl
  have hsorted : Queue.sorted refs = [.ofTask 1, .ofTask 3, .ofTask 3, .ofTask 4] := by decide
  rw [hsorted] at htaken hverdicts hdesk
  refine ⟨start, hrun, own, hown, hheld, htaken, ?_, ?_⟩
  · rw [List.nil_append] at hverdicts
    rw [hverdicts]
    decide +kernel
  · rw [Desk.requests_of_quiet hdesk]
    decide +kernel

end Loop

end Handoff
