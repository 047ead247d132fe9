import Handoff.Loop
import Handoff.Proofs.Queue.Order
/-!
# What a loop has done

The steps of a loop and of those around it leave a history: the references that the loop took, and
the iterations that have come to their end.

* `Move`, `Move.of_step`: the ways in which a loop and its surroundings move on.
* `taken`, `ended`: the references taken and the iterations ended along a run.
* `taken_append_held`: every reference is taken once, or is still held.
* `ended_append_current`: the iterations are those of the references taken, in that order, and the
  last one may be in flight.
* `requests_append`: the dispatcher sees one request at most for each iteration.
-/

namespace Handoff

/-- What became of a reference: the request that the dispatcher saw, if any, with the reply it gave,
and how the iteration ended. -/
structure Iteration where
  reference : Reference
  exchange : Option (Request × Reply)
  verdict : Verdict

/-- The request that the dispatcher saw. -/
def Iteration.request? (i : Iteration) : Option Request :=
  i.exchange.map (·.1)

/-- The reference in flight. -/
def Phase.current : Phase → List Reference
  | .taken r | .handing r _ => [r]
  | .spawned | .top | .waiting | .resting | .parked | .stopped | .crashed => []

/-- The request that waits for a reply. -/
def Phase.pending : Phase → List Request
  | .handing _ request => [request]
  | .spawned | .top | .waiting | .taken _ | .resting | .parked | .stopped | .crashed => []

/-- The loop has neither ended nor given the queue up. -/
def Phase.goesOn : Phase → Bool
  | .spawned | .top | .waiting | .taken _ | .handing _ _ | .resting => true
  | .parked | .stopped | .crashed => false

/-- The reference that a step puts into the queue. -/
def LoopStep.puts : LoopStep → List Reference
  | .put r => [r]
  | _ => []

namespace Loop

variable {l l' : Loop} {s : LoopStep} {ss ts : List LoopStep}

/-! ## The ways in which a loop moves on -/

/-- The ways in which a loop and its surroundings move on. -/
inductive Move (l : Loop) : LoopStep → Loop → Prop where
  | put (r : Reference) (hc : l.queue.closed = false) :
    Move l (.put r) { l with queue := { l.queue with held := Queue.insert r l.queue.held } }
  | close : Move l .close { l with queue := l.queue.close }
  | requestStop : Move l .requestStop { l with stopRequested := true }
  | dropHandle : Move l .dropHandle { l with handleDropped := true }
  | begin (hp : l.phase = .spawned) : Move l .begin ((l.log .started).goTo .top)
  | lookStop (hp : l.phase = .top) (hs : l.stopRequested = true) : Move l .look l.leave
  | look (hp : l.phase = .top) (hs : l.stopRequested = false) : Move l .look (l.goTo .waiting)
  | heedRequest (hp : l.phase = .waiting) (hs : l.stopRequested = true) :
    Move l .heed (l.goTo .top)
  | heedDrop (hp : l.phase = .waiting) (hs : l.stopRequested = false)
    (hd : l.handleDropped = true) : Move l .heed l.leave
  | take {r : Reference} {rest : List Reference} (hp : l.phase = .waiting)
    (hq : l.queue.held = r :: rest) :
    Move l .take (({ l with queue := { l.queue with held := rest } }.log
      (.dequeued r.taskId)).goTo (.taken r))
  | takeClosed (hp : l.phase = .waiting) (hq : l.queue.held = []) (hc : l.queue.closed = true) :
    Move l .take l.park
  | trouble (t : TakeTrouble) (hp : l.phase = .waiting) : Move l (.trouble t) (l.failTake t)
  | resolve {r : Reference} {verdict : Verdict} {desk : Desk} (hp : l.phase = .taken r)
    (hv : prepare l.resolver r l.desk = (.inl verdict, desk)) :
    Move l .resolve ({ l with desk := desk }.finish r.taskId verdict)
  | resolveRequest {r : Reference} {request : Request} {desk : Desk} (hp : l.phase = .taken r)
    (hv : prepare l.resolver r l.desk = (.inr request, desk)) :
    Move l .resolve ({ l with desk := desk }.goTo (.handing r request))
  | reply {r : Reference} {request : Request} (hp : l.phase = .handing r request) :
    Move l .reply (l.getReply r request)
  | goOn (hp : l.phase = .resting) : Move l .goOn (l.goTo .top)
  | release (hp : l.phase = .parked) (hs : l.stopReady = true) : Move l .release l.leave

/-- **Every step is one of the moves.** -/
theorem Move.of_step (hs : l.step s = some l') : Move l s l' := by
  cases s with
  | put r =>
    simp only [step, Queue.put] at hs
    split at hs <;> cases hs
    rename_i hput
    split at hput <;> cases hput
    rename_i hc
    exact .put r (by simpa using hc)
  | close => cases hs; exact .close
  | requestStop => cases hs; exact .requestStop
  | dropHandle => cases hs; exact .dropHandle
  | begin =>
    simp only [step] at hs
    split at hs <;> cases hs
    rename_i hp
    exact .begin hp
  | look =>
    simp only [step] at hs
    split at hs <;> cases hs
    rename_i hp
    split
    · rename_i hr
      exact .lookStop hp hr
    · rename_i hr
      exact .look hp (by simpa using hr)
  | heed =>
    simp only [step] at hs
    split at hs <;> cases hs
    rename_i hp
    obtain ⟨hp, hr⟩ := hp
    split
    · rename_i hr
      exact .heedRequest hp hr
    · rename_i hr'
      have hr' : l.stopRequested = false := by simpa using hr'
      exact .heedDrop hp hr' (by simpa [stopReady, hr'] using hr)
  | take =>
    simp only [step, takeNext, Queue.take] at hs
    split at hs
    swap
    · cases hs
    rename_i hp
    cases hq : l.queue.held with
    | cons r rest =>
      simp only [hq, Option.some.injEq] at hs
      subst hs
      exact .take hp hq
    | nil =>
      cases hc : l.queue.closed with
      | true =>
        simp only [hq, hc, if_true, Option.some.injEq] at hs
        subst hs
        exact .takeClosed hp hq hc
      | false => simp [hq, hc] at hs
  | trouble t =>
    simp only [step] at hs
    split at hs <;> cases hs
    rename_i hp
    exact .trouble t hp
  | resolve =>
    simp only [step] at hs
    split at hs <;> cases hs
    rename_i r hp
    unfold resolveTaken
    split
    · rename_i hv
      exact .resolve hp hv
    · rename_i hv
      exact .resolveRequest hp hv
  | reply =>
    simp only [step] at hs
    split at hs <;> cases hs
    rename_i hp
    exact .reply hp
  | goOn =>
    simp only [step] at hs
    split at hs <;> cases hs
    rename_i hp
    exact .goOn hp
  | release =>
    simp only [step] at hs
    split at hs <;> cases hs
    rename_i hp
    exact .release hp.1 hp.2

/-! ## Histories -/

/-- What an observer sees along a run. -/
def observe {α : Type} (what : Loop → LoopStep → List α) (l : Loop) : List LoopStep → List α
  | [] => []
  | s :: ss => what l s ++ (l.step s).elim [] fun l' => l'.observe what ss

/-- The reference that a step removes from the queue. -/
def takenAt (l : Loop) : LoopStep → List Reference
  | .take => l.queue.held.take 1
  | _ => []

/-- The iteration that a step ends: without a request where there is none to make, and otherwise
with the reply to it. -/
def endedAt (l : Loop) : LoopStep → List Iteration
  | .resolve =>
    match l.phase with
    | .taken r =>
      match (prepare l.resolver r l.desk).1 with
      | .inl verdict => [⟨r, none, verdict⟩]
      | .inr _ => []
    | _ => []
  | .reply =>
    match l.phase with
    | .handing r request =>
      [⟨r, some (request, l.desk.replies.headD .accept), (conclude r.taskId request l.desk).1⟩]
    | _ => []
  | _ => []

/-- A loop spawned on an empty store, all methods of which answer. -/
def bare (queue : Queue) : Loop :=
  spawn ⟨.standard, .standard⟩ queue (.fresh (.fresh .empty fun _ => none) [])

/-- The references taken along a run. -/
def taken (l : Loop) (ss : List LoopStep) : List Reference :=
  l.observe takenAt ss

/-- The iterations that came to their end along a run. -/
def ended (l : Loop) (ss : List LoopStep) : List Iteration :=
  l.observe endedAt ss

theorem run_append : l.run (ss ++ ts) = (l.run ss).bind fun l' => l'.run ts := by
  induction ss generalizing l with
  | nil => rfl
  | cons s ss ih =>
    simp only [List.cons_append, run]
    cases l.step s with
    | none => rfl
    | some l' => exact ih

theorem run_cons (hs : l.step s = some l') : l.run (s :: ss) = l'.run ss := by
  simp [run, hs]

section observe

variable {α : Type} {what : Loop → LoopStep → List α}

theorem observe_cons (hs : l.step s = some l') :
    l.observe what (s :: ss) = what l s ++ l'.observe what ss := by
  simp [observe, hs]

theorem observe_append (hr : l.run ss = some l') :
    l.observe what (ss ++ ts) = l.observe what ss ++ l'.observe what ts := by
  induction ss generalizing l with
  | nil =>
    cases hr
    rfl
  | cons s ss ih =>
    obtain ⟨l₁, hs, hr⟩ := Option.bind_eq_some_iff.1 hr
    rw [List.cons_append, observe_cons hs, observe_cons hs, ih hr, List.append_assoc]

/-- A run that starts at a state where nothing is seen, and that stays among such states. -/
theorem observe_eq_nil {P : Loop → Prop}
    (hstep : ∀ {l s l'}, P l → l.step s = some l' → P l' ∧ what l s = []) (hl : P l)
    (hr : l.run ss = some l') : l.observe what ss = [] := by
  induction ss generalizing l with
  | nil => rfl
  | cons s ss ih =>
    obtain ⟨l₁, hs, hr⟩ := Option.bind_eq_some_iff.1 hr
    obtain ⟨hl₁, hnil⟩ := hstep hl hs
    rw [observe_cons hs, hnil, ih hl₁ hr]
    rfl

end observe

/-! ## What the steps do to the queue, the reference in flight and the requests -/

@[simp]
theorem finish_phase {task : TaskId} {verdict : Verdict} : (l.finish task verdict).phase = .top := by
  cases verdict <;> rfl

@[simp]
theorem finish_queue {task : TaskId} {verdict : Verdict} :
    (l.finish task verdict).queue = l.queue := by
  cases verdict <;> rfl

@[simp]
theorem finish_requests {task : TaskId} {verdict : Verdict} :
    (l.finish task verdict).desk.requests = l.desk.requests := by
  cases verdict <;> rfl

@[simp]
theorem failTake_queue {t : TakeTrouble} : (l.failTake t).queue = l.queue := by
  rcases t with (_ | _ | _) | _ <;> rfl

@[simp]
theorem failTake_requests {t : TakeTrouble} : (l.failTake t).desk.requests = l.desk.requests := by
  rcases t with (_ | _ | _) | _ <;> rfl

/-- A take that failed leaves nothing in flight. -/
theorem failTake_phase {t : TakeTrouble} : (l.failTake t).phase = .parked ∨
    (l.failTake t).phase = .resting ∨ (l.failTake t).phase = .crashed := by
  rcases t with (_ | _ | _) | _ <;> simp [failTake, park, goTo]

/-- Without a request to make, the dispatcher sees none. -/
theorem prepare_requests_inl {r : Resolver} {reference : Reference} {d d' : Desk} {verdict : Verdict}
    (h : prepare r reference d = (.inl verdict, d')) :
    d'.requests = d.requests ∧ d'.replies = d.replies := by
  unfold prepare at h
  split at h <;> cases h <;> exact ⟨rfl, rfl⟩

/-- A request is seen by the dispatcher as soon as it is made. -/
theorem prepare_requests_inr {r : Resolver} {reference : Reference} {d d' : Desk}
    {request : Request} (h : prepare r reference d = (.inr request, d')) :
    d'.requests = d.requests ++ [request] ∧ d'.replies = d.replies := by
  unfold prepare at h
  split at h <;> cases h
  exact ⟨rfl, rfl⟩

theorem conclude_requests {task : TaskId} {request : Request} {d : Desk} :
    (conclude task request d).2.requests = d.requests := by
  unfold conclude
  cases d.replies.headD .accept <;> rfl

theorem taken_append_held_step (hs : l.step s = some l') :
    (l.takenAt s ++ l'.queue.held).Perm (s.puts ++ l.queue.held) := by
  cases Move.of_step hs with
  | put r hc => exact Queue.insert_perm r l.queue.held
  | @take r rest hp hq =>
    simp only [takenAt, LoopStep.puts, hq]
    exact List.Perm.refl _
  | takeClosed hp hq hc =>
    have hpark : l.park.queue = l.queue := rfl
    simp only [takenAt, LoopStep.puts, hpark, hq]
    exact List.Perm.refl _
  | trouble t hp =>
    simp only [failTake_queue]
    exact List.Perm.refl _
  | resolve hp hv =>
    simp only [finish_queue]
    exact List.Perm.refl _
  | reply hp =>
    simp only [getReply, finish_queue]
    exact List.Perm.refl _
  | _ => exact List.Perm.refl _

theorem ended_append_current_step (hs : l.step s = some l') :
    (l.endedAt s).map (·.reference) ++ l'.phase.current = l.phase.current ++ l.takenAt s := by
  cases Move.of_step hs with
  | take hp hq => simp [endedAt, takenAt, hp, hq, goTo, Phase.current]
  | takeClosed hp hq hc => simp [endedAt, takenAt, hp, hq, park, goTo, Phase.current]
  | trouble t hp =>
    rcases failTake_phase (l := l) (t := t) with h | h | h <;>
      simp [endedAt, takenAt, hp, h, Phase.current]
  | resolve hp hv => simp [endedAt, takenAt, hp, hv, Phase.current]
  | resolveRequest hp hv => simp [endedAt, takenAt, hp, hv, goTo, Phase.current]
  | reply hp => simp [endedAt, takenAt, hp, getReply, Phase.current]
  | put | close | requestStop | dropHandle => simp [endedAt, takenAt]
  | begin hp | look hp hs | heedRequest hp hs | goOn hp =>
    simp [endedAt, takenAt, hp, goTo, Phase.current]
  | lookStop hp hs | heedDrop hp hs hd | release hp hs =>
    simp [endedAt, takenAt, hp, leave, goTo, Phase.current]

theorem requests_append_step (hs : l.step s = some l') :
    ∃ new, l'.desk.requests = l.desk.requests ++ new ∧
      l.phase.pending ++ new = (l.endedAt s).filterMap (·.request?) ++ l'.phase.pending := by
  cases Move.of_step hs with
  | trouble t hp =>
    refine ⟨[], by simp, ?_⟩
    rcases failTake_phase (l := l) (t := t) with h | h | h <;>
      simp [endedAt, hp, h, Phase.pending]
  | resolve hp hv =>
    refine ⟨[], ?_, ?_⟩
    · simp [(prepare_requests_inl hv).1]
    · simp [endedAt, hp, hv, Phase.pending, Iteration.request?]
  | @resolveRequest r request desk hp hv =>
    -- the one step at which the dispatcher sees a request
    refine ⟨[request], (prepare_requests_inr hv).1, ?_⟩
    simp [endedAt, hp, hv, goTo, Phase.pending]
  | reply hp =>
    refine ⟨[], ?_, ?_⟩
    · simp [getReply, conclude_requests]
    · simp [endedAt, hp, getReply, Phase.pending, Iteration.request?]
  | put | close | requestStop | dropHandle => exact ⟨[], by simp, by simp [endedAt]⟩
  | begin hp | look hp hs | heedRequest hp hs | goOn hp | take hp hq =>
    exact ⟨[], by simp [goTo, log, Desk.log], by simp [endedAt, hp, goTo, Phase.pending]⟩
  | takeClosed hp hq hc =>
    exact ⟨[], by simp [park, goTo, log, Desk.log],
      by simp [endedAt, hp, park, goTo, Phase.pending]⟩
  | lookStop hp hs | heedDrop hp hs hd | release hp hs =>
    exact ⟨[], by simp [leave, goTo, log, Desk.log],
      by simp [endedAt, hp, leave, goTo, Phase.pending]⟩

/-! ## What holds along every run -/

open scoped List in
/-- **Every reference is taken once, or is still held.** -/
theorem taken_append_held (hr : l.run ss = some l') :
    (l.taken ss ++ l'.queue.held).Perm (ss.flatMap LoopStep.puts ++ l.queue.held) := by
  induction ss generalizing l with
  | nil =>
    cases hr
    exact List.Perm.refl _
  | cons s ss ih =>
    obtain ⟨l₁, hs, hr⟩ := Option.bind_eq_some_iff.1 hr
    rw [taken, observe_cons hs, List.flatMap_cons]
    calc l.takenAt s ++ l₁.taken ss ++ l'.queue.held
        = l.takenAt s ++ (l₁.taken ss ++ l'.queue.held) := List.append_assoc ..
      _ ~ l.takenAt s ++ (ss.flatMap LoopStep.puts ++ l₁.queue.held) := (ih hr).append_left _
      _ ~ ss.flatMap LoopStep.puts ++ (l.takenAt s ++ l₁.queue.held) := List.perm_append_comm_assoc ..
      _ ~ ss.flatMap LoopStep.puts ++ (s.puts ++ l.queue.held) :=
          (taken_append_held_step hs).append_left _
      _ ~ s.puts ++ (ss.flatMap LoopStep.puts ++ l.queue.held) := List.perm_append_comm_assoc ..
      _ = s.puts ++ ss.flatMap LoopStep.puts ++ l.queue.held := (List.append_assoc ..).symm

/-- **Iterations end one for each reference taken, in the order in which these were taken**; the last
one may be in flight. -/
theorem ended_append_current (hr : l.run ss = some l') :
    (l.ended ss).map (·.reference) ++ l'.phase.current = l.phase.current ++ l.taken ss := by
  induction ss generalizing l with
  | nil =>
    cases hr
    simp [ended, taken, observe]
  | cons s ss ih =>
    obtain ⟨l₁, hs, hr⟩ := Option.bind_eq_some_iff.1 hr
    have hstep := ended_append_current_step hs
    rw [ended, taken, observe_cons hs, observe_cons hs, List.map_append, List.append_assoc]
    change _ ++ ((l₁.ended ss).map (·.reference) ++ _) = _ ++ (_ ++ l₁.taken ss)
    rw [ih hr, ← List.append_assoc, hstep, List.append_assoc]

/-- **The dispatcher sees the requests of the iterations, each once**, and that of the one in
flight. -/
theorem requests_append (hr : l.run ss = some l') :
    ∃ new, l'.desk.requests = l.desk.requests ++ new ∧
      l.phase.pending ++ new = (l.ended ss).filterMap (·.request?) ++ l'.phase.pending := by
  induction ss generalizing l with
  | nil =>
    cases hr
    exact ⟨[], by simp, by simp [ended, observe]⟩
  | cons s ss ih =>
    obtain ⟨l₁, hs, hr⟩ := Option.bind_eq_some_iff.1 hr
    obtain ⟨new, hnew, hpend⟩ := requests_append_step hs
    obtain ⟨more, hmore, hpend'⟩ := ih hr
    refine ⟨new ++ more, by rw [hmore, hnew, List.append_assoc], ?_⟩
    rw [ended, observe_cons hs, List.filterMap_append, ← List.append_assoc, hpend,
      List.append_assoc, hpend', List.append_assoc]
    rfl

end Loop

end Handoff
