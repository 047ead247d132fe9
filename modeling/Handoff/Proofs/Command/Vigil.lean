import Handoff.Proofs.Command.Requests
import Handoff.Proofs.Loop.Fold
import Handoff.Proofs.Loop.Stop
import Handoff.Vigil
/-!
# The vigil ends no earlier than the last iteration

The vigil asks the loop to stop when it finds the queue empty, while the last iteration may still be in
flight. Whatever the order of steps, the loop ends that iteration first, and no reference is left.

* `Vigil.Follows`: the invariant: the loop follows a fold over the references, and no stop is asked
  for before the queue is empty.
* `Vigil.follows_step`, `Vigil.follows_run`: **every step keeps it, and so does every run.**
* `Vigil.Follows.requests_prefix`, `Vigil.Follows.requests_eq`: what was printed so far, and in the
  end.
* `Vigil.rank_lt`, `Vigil.work_le`: all steps but those of an idle vigil bring the end nearer.
* `Vigil.Follows.exists_end`: every run can be brought to its end.
-/

namespace Handoff

namespace Vigil

variable {v v' : Vigil} {s : VigilStep} {ss ts : List VigilStep} {r : Resolver} {desk : Desk}
  {refs : List Reference} {its : List Iteration}

/-! ## Runs -/

theorem run_cons (hs : v.step s = some v') : v.run (s :: ss) = v'.run ss := by
  rw [run, hs]
  rfl

theorem run_append (hr : v.run ss = some v') : v.run (ss ++ ts) = v'.run ts := by
  induction ss generalizing v with
  | nil =>
    cases hr
    rfl
  | cons s ss ih =>
    obtain ⟨v₁, hs, hr⟩ := Option.bind_eq_some_iff.1 hr
    rw [List.cons_append, run_cons hs, ih hr]

/-- What the loop does by itself may go on under the vigil. -/
theorem run_loop {l l' : Loop} {own : List LoopStep} (phase : VigilPhase)
    (hown : ∀ s ∈ own, s.isOwn) (hr : l.run own = some l') :
    (⟨phase, l⟩ : Vigil).run (own.map .loop) = some ⟨phase, l'⟩ := by
  induction own generalizing l with
  | nil =>
    cases hr
    rfl
  | cons s own ih =>
    obtain ⟨hs, hown⟩ := List.forall_mem_cons.1 hown
    obtain ⟨l₁, hstep, hr⟩ := Option.bind_eq_some_iff.1 hr
    have hone : (⟨phase, l⟩ : Vigil).step (.loop s) = some ⟨phase, l₁⟩ := by
      rw [step, if_pos hs, hstep]
      rfl
    rw [List.map_cons, run_cons hone]
    exact ih hown hr

/-- The ways in which a vigil and its loop move on. -/
inductive Move (v : Vigil) : VigilStep → Vigil → Prop where
  | empty (hp : v.phase = .looking) (hq : v.loop.queue.held = []) :
    Move v .look { v with phase := .stopping }
  | rest (hp : v.phase = .looking) (hq : v.loop.queue.held ≠ []) :
    Move v .look { v with phase := .resting }
  | wake (hp : v.phase = .resting) : Move v .wake { v with phase := .looking }
  | stop (hp : v.phase = .stopping) :
    Move v .stop ⟨.joining, { v.loop with stopRequested := true }⟩
  | join (hp : v.phase = .joining) (hl : v.loop.hasEnded) : Move v .join { v with phase := .done }
  | loop {own : LoopStep} {l : Loop} (hown : own.isOwn) (hl : v.loop.step own = some l) :
    Move v (.loop own) { v with loop := l }

/-- Every step is one of the moves. -/
theorem Move.of_step (hs : v.step s = some v') : Move v s v' := by
  cases s with
  | look =>
    simp only [step] at hs
    split at hs <;> cases hs
    rename_i hp
    by_cases hq : v.loop.queue.held = []
    · have hempty : v.loop.queue.isEmpty = true := List.isEmpty_iff.2 hq
      rw [if_pos hempty]
      exact .empty hp hq
    · have hempty : ¬v.loop.queue.isEmpty = true := fun h => hq (List.isEmpty_iff.1 h)
      rw [if_neg hempty]
      exact .rest hp hq
  | wake =>
    simp only [step] at hs
    split at hs <;> cases hs
    rename_i hp
    exact .wake hp
  | stop =>
    simp only [step] at hs
    split at hs <;> cases hs
    rename_i hp
    exact .stop hp
  | join =>
    simp only [step] at hs
    split at hs <;> cases hs
    rename_i hp
    exact .join hp.1 hp.2
  | loop own =>
    simp only [step] at hs
    split at hs
    · rename_i hown
      obtain ⟨l, hl, rfl⟩ := Option.map_eq_some_iff.1 hs
      exact .loop hown hl
    · cases hs

/-! ## What every run keeps -/

/-- The loop follows a fold over the references; no stop is asked for before the queue is empty; the
vigil waits for the end of the loop only after it has asked for it, and is over only then. -/
structure Follows (r : Resolver) (desk : Desk) (refs : List Reference) (v : Vigil)
    (its : List Iteration) : Prop where
  loop : v.loop.Follows r desk refs its
  emptied : v.phase ≠ .looking → v.phase ≠ .resting → v.loop.queue.held = []
  asked : v.phase = .joining → v.loop.stopRequested = true
  ended : v.phase = .done → v.loop.phase = .stopped

/-- A step that the loop makes by itself adds nothing to the queue, does not take a request to stop
back, and does not follow the end. -/
theorem kept_of_own {l l' : Loop} {own : LoopStep} (hown : own.isOwn) (hs : l.step own = some l') :
    (l.queue.held = [] → l'.queue.held = []) ∧ l'.stopRequested = l.stopRequested ∧
      l.phase ≠ .stopped := by
  cases Loop.Move.of_step hs with
  | put | close | requestStop | dropHandle | trouble => cases hown
  | take hp hq =>
    exact ⟨by simp [hq], rfl, by simp [hp]⟩
  | resolve hp hv =>
    rw [Loop.finish_queue, Loop.finish_stopRequested]
    exact ⟨id, rfl, by simp [hp]⟩
  | reply hp =>
    rw [Loop.getReply, Loop.finish_queue, Loop.finish_stopRequested]
    exact ⟨id, rfl, by simp [hp]⟩
  | begin hp | lookStop hp _ | look hp _ | heedRequest hp _ | heedDrop hp _ _ | takeClosed hp _ _
  | resolveRequest hp _ | goOn hp | release hp _ =>
    exact ⟨id, rfl, by simp [hp]⟩

/-- **Every step keeps the invariant.** -/
theorem follows_step (hb : r.registry.Blind) (hf : Follows r desk refs v its)
    (hs : v.step s = some v') : ∃ more, Follows r desk refs v' (its ++ more) := by
  cases Move.of_step hs with
  | empty hp hq =>
    refine ⟨[], ?_⟩
    rw [List.append_nil]
    exact ⟨hf.loop, fun _ _ => hq, nofun, nofun⟩
  | rest hp hq =>
    refine ⟨[], ?_⟩
    rw [List.append_nil]
    exact ⟨hf.loop, fun _ h => absurd rfl h, nofun, nofun⟩
  | wake hp =>
    refine ⟨[], ?_⟩
    rw [List.append_nil]
    exact ⟨hf.loop, fun h => absurd rfl h, nofun, nofun⟩
  | stop hp =>
    -- the queue is empty, so that the stop disturbs nothing
    have hheld : v.loop.queue.held = [] := hf.emptied (by rw [hp]; nofun) (by rw [hp]; nofun)
    have hloop := Loop.follows_step hb hf.loop (s := .requestStop) hheld rfl
    exact ⟨_, hloop, fun _ _ => hheld, fun _ => rfl, nofun⟩
  | join hp hl =>
    refine ⟨[], ?_⟩
    rw [List.append_nil]
    refine ⟨hf.loop, fun _ _ => hf.emptied (by rw [hp]; nofun) (by rw [hp]; nofun), nofun, ?_⟩
    intro _
    have hended : v.loop.phase = .stopped ∨ v.loop.phase = .crashed := by
      simpa [Loop.hasEnded] using hl
    exact hended.resolve_right hf.loop.well.2
  | @loop own l hown hl =>
    obtain ⟨hheld, hstop, hphase⟩ := kept_of_own hown hl
    refine ⟨_, Loop.follows_step hb hf.loop (Loop.calm_of_own hown) hl, ?_, ?_, ?_⟩
    · exact fun hlooking hresting => hheld (hf.emptied hlooking hresting)
    · exact fun hp => hstop.trans (hf.asked hp)
    · exact fun hp => absurd (hf.ended hp) hphase

/-- **Every run keeps the invariant**, whatever the order of its steps. -/
theorem follows_run (hb : r.registry.Blind) (hf : Follows r desk refs v its)
    (hr : v.run ss = some v') : ∃ its', Follows r desk refs v' its' := by
  induction ss generalizing v its with
  | nil =>
    cases hr
    exact ⟨its, hf⟩
  | cons s ss ih =>
    obtain ⟨v₁, hs, hr⟩ := Option.bind_eq_some_iff.1 hr
    obtain ⟨more, hf₁⟩ := follows_step hb hf hs
    exact ih hf₁ hr

/-! ## What is printed -/

/-- What was seen of a fold's requests so far are the first ones of all. -/
theorem Follows.requests_prefix (hf : Follows r desk refs v its) :
    v.loop.desk.requests <+: (consumeAll r refs desk).2.requests := by
  have horder := hf.loop.inOrder
  rw [List.append_assoc] at horder
  cases hpend : v.loop.phase.pending with
  | nil =>
    rw [Desk.requests_of_quiet (hf.loop.between hpend), ← horder, consumeAll_append_desk]
    exact requests_prefix_consumeAll ..
  | cons request rest =>
    -- the request in flight is the next one of the fold
    obtain ⟨reference, request, hp⟩ : ∃ reference request,
        v.loop.phase = .handing reference request := by
      cases hp : v.loop.phase <;> rw [hp] at hpend <;> first | exact ⟨_, _, rfl⟩ | cases hpend
    obtain ⟨d, hprepare, hdesk⟩ := hf.loop.handing reference request hp
    rw [hp] at horder
    obtain ⟨-, hone⟩ := iterationOf_inr hprepare
    have hnext : d.requests = (consumeOne r reference
        (consumeAll r (its.map (·.reference)) desk).2).2.requests := by
      rw [hone, Loop.conclude_requests]
    rw [Desk.requests_of_quiet hdesk, hnext, ← horder, consumeAll_append_desk]
    exact requests_prefix_consumeAll ..

/-- Once the vigil is over, all requests of the fold have been made. -/
theorem Follows.requests_eq (hf : Follows r desk refs v its) (hover : v.phase = .done) :
    v.loop.desk.requests = (consumeAll r refs desk).2.requests := by
  have hphase := hf.ended hover
  have hheld := hf.emptied (by rw [hover]; nofun) (by rw [hover]; nofun)
  have horder := hf.loop.inOrder
  rw [hheld, hphase] at horder
  rw [Desk.requests_of_quiet (hf.loop.between (by rw [hphase]; rfl)), ← horder]
  simp only [Phase.current, List.append_nil]

/-! ## How it comes to an end -/

/-- What the vigil has to do yet: asking for the stop makes up to two steps of the loop possible. -/
def toDo : VigilPhase → Nat
  | .looking => 5
  | .resting => 5
  | .stopping => 4
  | .joining => 1
  | .done => 0

/-- A bound on the steps to the end, looks and rests apart. -/
def rank (v : Vigil) : Nat :=
  v.loop.rank + toDo v.phase

/-- Looks and rests bring the end no nearer, and put it no farther away. -/
theorem rank_le_of_poll (hpoll : s.isPoll) (hs : v.step s = some v') : v'.rank ≤ v.rank := by
  cases Move.of_step hs with
  | empty hp hq | rest hp hq | wake hp => simp [rank, toDo, hp]
  | stop | join | loop => cases hpoll

/-- **All other steps bring the end nearer.** -/
theorem rank_lt (hpoll : s.isPoll = false) (hs : v.step s = some v') : v'.rank < v.rank := by
  cases Move.of_step hs with
  | empty | rest | wake => cases hpoll
  | stop hp =>
    simp only [rank, Loop.rank, toDo, hp]
    split <;> split <;> omega
  | join hp hl => simp [rank, toDo, hp]
  | loop hown hl => exact Nat.add_lt_add_right (Loop.rank_lt hown hl) _

/-- A run works no longer than its rank allows, however often the vigil looks meanwhile. -/
theorem work_le (hr : v.run ss = some v') :
    (ss.filter fun s => !s.isPoll).length + v'.rank ≤ v.rank := by
  induction ss generalizing v with
  | nil =>
    cases hr
    exact Nat.le_of_eq (Nat.zero_add _)
  | cons s ss ih =>
    obtain ⟨v₁, hs, hr⟩ := Option.bind_eq_some_iff.1 hr
    have hrest := ih hr
    -- a poll is not counted and keeps the rank, work is counted and lowers it
    cases hpoll : s.isPoll with
    | true =>
      have hone := rank_le_of_poll hpoll hs
      rw [List.filter_cons_of_neg (by rw [hpoll]; nofun)]
      omega
    | false =>
      have hone := rank_lt hpoll hs
      rw [List.filter_cons_of_pos (by rw [hpoll]; rfl), List.length_cons]
      omega

/-- A loop that was asked to stop and has no step to make has ended. -/
theorem hasEnded_of_next? {l : Loop} (hn : l.next? = none) (hs : l.stopRequested = true) :
    l.hasEnded := by
  have hready : l.stopReady = true := by rw [Loop.stopReady, hs]; rfl
  unfold Loop.next? at hn
  cases hp : l.phase with
  | stopped | crashed =>
    rw [Loop.hasEnded, hp]
    rfl
  | spawned | top | waiting | taken | handing | resting | parked =>
    simp [hp, hready] at hn

/-- A vigil that is not over and not resting can bring its end nearer. -/
theorem Follows.exists_step (hf : Follows r desk refs v its) (hover : v.phase ≠ .done)
    (hrest : v.phase ≠ .resting) :
    ∃ s v', v.step s = some v' ∧ v'.rank < v.rank ∧ v'.phase ≠ .resting := by
  cases hn : v.loop.next? with
  | some own =>
    -- the loop has a step to make
    have hown := Loop.own_of_next? hn
    obtain ⟨l, hl⟩ := Loop.step_of_next? hn
    have hs : v.step (.loop own) = some { v with loop := l } := by
      rw [step, if_pos hown, hl, Option.map_some]
    exact ⟨_, _, hs, rank_lt rfl hs, hrest⟩
  | none =>
    -- the loop waits or has ended, with the queue empty
    obtain ⟨-, -, hheld⟩ := hf.loop.idle hn
    have hempty : v.loop.queue.isEmpty = true := List.isEmpty_iff.2 hheld
    cases hp : v.phase with
    | looking =>
      have hs : v.step .look = some { v with phase := .stopping } := by
        rw [step, if_pos hp, if_pos hempty]
      exact ⟨_, _, hs, by simp [rank, toDo, hp], by simp⟩
    | stopping =>
      have hs : v.step .stop = some ⟨.joining, { v.loop with stopRequested := true }⟩ := by
        rw [step, if_pos hp, Loop.step, Option.map_some]
      exact ⟨_, _, hs, rank_lt rfl hs, by simp⟩
    | joining =>
      have hended := hasEnded_of_next? hn (hf.asked hp)
      have hs : v.step .join = some { v with phase := .done } := by
        rw [step, if_pos ⟨hp, hended⟩]
      exact ⟨_, _, hs, rank_lt rfl hs, by simp⟩
    | resting => exact absurd hp hrest
    | done => exact absurd hp hover

theorem Follows.exists_end_of_not_resting (hb : r.registry.Blind) {n : Nat} (hn : v.rank ≤ n)
    (hf : Follows r desk refs v its) (hrest : v.phase ≠ .resting) :
    ∃ more v', v.run more = some v' ∧ v'.phase = .done ∧ more.length ≤ n := by
  induction n generalizing v its with
  | zero =>
    by_cases hover : v.phase = .done
    · exact ⟨[], v, rfl, hover, Nat.le_refl 0⟩
    · obtain ⟨s, v', hs, hlt, -⟩ := hf.exists_step hover hrest
      omega
  | succ n ih =>
    by_cases hover : v.phase = .done
    · exact ⟨[], v, rfl, hover, Nat.zero_le _⟩
    · obtain ⟨s, v₁, hs, hlt, hrest₁⟩ := hf.exists_step hover hrest
      obtain ⟨more, hf₁⟩ := follows_step hb hf hs
      obtain ⟨steps, v', hr, hover', hlength⟩ := ih (by omega) hf₁ hrest₁
      exact ⟨s :: steps, v', (run_cons hs).trans hr, hover', Nat.succ_le_succ hlength⟩

/-- **Every run can be brought to its end**, by no more steps than its rank allows and one to get up
from a rest. -/
theorem Follows.exists_end (hb : r.registry.Blind) (hf : Follows r desk refs v its) :
    ∃ more v', v.run more = some v' ∧ v'.phase = .done ∧ more.length ≤ v.rank + 1 := by
  by_cases hrest : v.phase = .resting
  · have hs : v.step .wake = some { v with phase := .looking } := by
      rw [step, if_pos hrest]
    obtain ⟨_, hf₁⟩ := follows_step hb hf hs
    have hrank := rank_le_of_poll rfl hs
    obtain ⟨more, v', hr, hover, hlength⟩ := hf₁.exists_end_of_not_resting hb hrank nofun
    exact ⟨.wake :: more, v', (run_cons hs).trans hr, hover, Nat.succ_le_succ hlength⟩
  · obtain ⟨more, v', hr, hover, hlength⟩ := hf.exists_end_of_not_resting hb (Nat.le_refl _) hrest
    exact ⟨more, v', hr, hover, Nat.le_succ_of_le hlength⟩

end Vigil

end Handoff
