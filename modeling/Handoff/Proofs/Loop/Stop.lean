import Handoff.Proofs.Loop.History
/-!
# The stop

Whoever asks the loop to stop sets a flag; whoever lets go of the handle does not. The loop looks at
the flag before it waits for a reference. While it waits, the stop and a reference may be ready at
once, and then either may come first.

* `Past`: the loop is past its last take.
* `takes_nothing_iff_past`: **nothing more is taken, whatever happens, just where the loop is past
  its last take.**
* `taken_length_le_one`: once the stop was requested, one more reference is taken at most.
* `finishes`: an iteration in flight can always come to its end.
* `stop_takes_nothing_iff`: the stop, the iteration in flight and the references not taken, together.
* `stop_races_take`: a waiting loop may take a reference after the stop was requested.
-/

namespace Handoff

namespace Loop

variable {l l' : Loop} {s : LoopStep} {ss : List LoopStep}

/-- The loop is past its last take: there will be nothing to take, or it has ended, or it is going to
look at a flag that is set before it waits again. -/
def Past (l : Loop) : Prop :=
  (l.queue.closed = true ∧ l.queue.held = []) ∨ l.phase.goesOn = false ∨
    (l.stopRequested = true ∧ l.phase ≠ .waiting)

/-! ## Nothing more is taken -/

@[simp]
theorem finish_stopRequested {task : TaskId} {verdict : Verdict} :
    (l.finish task verdict).stopRequested = l.stopRequested := by
  cases verdict <;> rfl

@[simp]
theorem failTake_stopRequested {t : TakeTrouble} :
    (l.failTake t).stopRequested = l.stopRequested := by
  rcases t with (_ | _ | _) | _ <;> rfl

/-- A flag that is set stays set. -/
theorem stopRequested_step (hl : l.stopRequested = true) (hs : l.step s = some l') :
    l'.stopRequested = true := by
  cases Move.of_step hs with
  | requestStop => rfl
  | trouble t hp => rw [failTake_stopRequested, hl]
  | resolve hp hv => rw [finish_stopRequested, hl]
  | reply hp => rw [getReply, finish_stopRequested, hl]
  | _ => exact hl

/-- A queue that is closed and empty stays so. -/
theorem drained_step (hl : l.queue.closed = true ∧ l.queue.held = []) (hs : l.step s = some l') :
    l'.queue.closed = true ∧ l'.queue.held = [] := by
  cases Move.of_step hs with
  | put r hc => rw [hl.1] at hc; cases hc
  | close => exact ⟨rfl, hl.2⟩
  | take hp hq => rw [hl.2] at hq; cases hq
  | trouble t hp => rwa [failTake_queue]
  | resolve hp hv => rwa [finish_queue]
  | reply hp => rwa [getReply, finish_queue]
  | _ => exact hl

/-- A loop that has ended, or given the queue up, stays so. -/
theorem goesOn_step (hl : l.phase.goesOn = false) (hs : l.step s = some l') :
    l'.phase.goesOn = false := by
  cases Move.of_step hs with
  | put | close | requestStop | dropHandle => exact hl
  | release => rfl
  | begin hp | lookStop hp | look hp | heedRequest hp | heedDrop hp | take hp | takeClosed hp
  | trouble _ hp | resolve hp | resolveRequest hp | reply hp | goOn hp =>
    rw [hp] at hl
    cases hl

/-- Only a waiting loop looks for a reference, and it comes to wait only where no flag is set. -/
theorem not_waiting_step (hl : l.stopRequested = true) (hp : l.phase ≠ .waiting)
    (hs : l.step s = some l') : l'.phase ≠ .waiting := by
  cases Move.of_step hs with
  | put | close | requestStop | dropHandle => exact hp
  | look _ hr => rw [hl] at hr; cases hr
  | heedRequest hp' | heedDrop hp' | take hp' | takeClosed hp' | trouble _ hp' =>
    exact absurd hp' hp
  | resolve hp' hv => simp
  | reply hp' => simp [getReply]
  | begin | lookStop | resolveRequest | goOn | release => simp [goTo, leave]

theorem waiting_of_take (hs : l.step s = some l') (ht : l.takenAt s ≠ []) :
    l.phase = .waiting ∧ l'.phase ≠ .waiting := by
  cases Move.of_step hs with
  | take hp hq => exact ⟨hp, by simp [goTo]⟩
  | takeClosed hp hq => simp [takenAt, hq] at ht
  | _ => exact absurd rfl ht

/-- **A loop past its last take takes nothing, and stays there.** -/
theorem past_step (hl : l.Past) (hs : l.step s = some l') : l'.Past ∧ l.takenAt s = [] := by
  -- the queue has nothing to take, the loop is over, or it is to look at a flag that is set
  rcases hl with hd | hg | ⟨hr, hp⟩
  · refine ⟨.inl (drained_step hd hs), ?_⟩
    cases s <;> simp [takenAt, hd.2]
  · refine ⟨.inr (.inl (goesOn_step hg hs)), ?_⟩
    by_contra ht
    rw [(waiting_of_take hs ht).1] at hg
    cases hg
  · refine ⟨.inr (.inr ⟨stopRequested_step hr hs, not_waiting_step hr hp hs⟩), ?_⟩
    by_contra ht
    exact hp (waiting_of_take hs ht).1

theorem taken_eq_nil_of_past (hl : l.Past) (hr : l.run ss = some l') : l.taken ss = [] :=
  observe_eq_nil (P := Past) past_step hl hr

/-! ## Where something may still be taken -/

/-- A loop that waits takes the first reference there is. -/
theorem takes_of_held {r : Reference} {rest : List Reference} (hp : l.phase = .waiting)
    (hq : l.queue.held = r :: rest) : ∃ l', l.run [.take] = some l' ∧ l.taken [.take] = [r] := by
  have hs : l.step .take = some (({ l with queue := { l.queue with held := rest } }.log
      (.dequeued r.taskId)).goTo (.taken r)) := by
    simp [step, hp, takeNext, Queue.take, hq]
  refine ⟨_, run_cons hs, ?_⟩
  rw [taken, observe_cons hs]
  simp [observe, takenAt, hq]

/-- A loop that waits takes a reference, if there is one or somebody puts one in. -/
theorem takes_of_waiting (hp : l.phase = .waiting)
    (hq : l.queue.held ≠ [] ∨ l.queue.closed = false) :
    ∃ ss l', l.run ss = some l' ∧ l.taken ss ≠ [] := by
  cases hh : l.queue.held with
  | cons r rest =>
    obtain ⟨l', hr, ht⟩ := takes_of_held hp hh
    exact ⟨[.take], l', hr, by simp [ht]⟩
  | nil =>
    -- somebody may put one in, as the queue is open
    have hc : l.queue.closed = false := hq.resolve_left (fun h => h hh)
    obtain ⟨l₁, hs, hp₁, hq₁⟩ : ∃ l₁, l.step (.put (.ofTask 1)) = some l₁ ∧
        l₁.phase = .waiting ∧ l₁.queue.held = [.ofTask 1] :=
      ⟨{ l with queue := { l.queue with held := Queue.insert (.ofTask 1) l.queue.held } },
        by simp [step, Queue.put, hc], hp, by simp [hh, Queue.insert]⟩
    obtain ⟨l', hr, ht⟩ := takes_of_held hp₁ hq₁
    refine ⟨[.put (.ofTask 1), .take], l', (run_cons hs).trans hr, ?_⟩
    rw [taken, observe_cons hs]
    change _ ++ l₁.taken [.take] ≠ []
    simp [ht]

/-- An iteration in flight comes to its end by steps of the loop alone. -/
theorem finishes {r : Reference} (hc : l.phase.current = [r]) :
    ∃ own l', (∀ s ∈ own, s = .resolve ∨ s = .reply) ∧ l.run own = some l' ∧ l'.phase = .top ∧
      l'.queue = l.queue ∧ l'.stopRequested = l.stopRequested ∧
      (l.ended own).map (·.reference) = [r] := by
  have reply {l : Loop} {r' : Reference} {request : Request} (hp : l.phase = .handing r' request)
      (hr : r' = r) : ∃ l', l.run [.reply] = some l' ∧ l'.phase = .top ∧
        l'.queue = l.queue ∧ l'.stopRequested = l.stopRequested ∧
        (l.ended [.reply]).map (·.reference) = [r] := by
    have hs : l.step .reply = some (l.getReply r' request) := by simp [step, hp]
    refine ⟨_, run_cons hs, by simp [getReply], by simp [getReply], by simp [getReply], ?_⟩
    rw [ended, observe_cons hs]
    simp [observe, endedAt, hp, hr]
  cases hp : l.phase with
  | handing r' request =>
    obtain rfl : r' = r := by simpa [hp, Phase.current] using hc
    obtain ⟨l', h⟩ := reply hp rfl
    exact ⟨[.reply], l', by simp, h⟩
  | taken r' =>
    obtain rfl : r' = r := by simpa [hp, Phase.current] using hc
    have hs : l.step .resolve = some (l.resolveTaken r') := by simp [step, hp]
    unfold resolveTaken at hs
    split at hs
    · rename_i verdict desk hv
      refine ⟨[.resolve], _, by simp, run_cons hs, by simp, by simp, by simp, ?_⟩
      rw [ended, observe_cons hs]
      simp [observe, endedAt, hp, hv]
    · rename_i request desk hv
      obtain ⟨l', hrun, hp', hq', hr', he⟩ := reply (l := { l with desk := desk }.goTo
        (.handing r' request)) rfl rfl
      refine ⟨[.resolve, .reply], l', by simp, (run_cons hs).trans hrun, hp', hq', hr', ?_⟩
      rw [ended, observe_cons hs, List.map_append]
      change _ ++ (Loop.ended _ [.reply]).map _ = _
      rw [he]
      simp [endedAt, hp, hv]
  | spawned | top | waiting | resting | parked | stopped | crashed =>
    rw [hp] at hc
    cases hc

/-- A loop that goes on, with no flag set, comes to wait for a reference. -/
theorem waits_of_goesOn (hg : l.phase.goesOn = true) (hr : l.stopRequested = false) :
    ∃ ss l', l.run ss = some l' ∧ l'.phase = .waiting ∧ l'.queue = l.queue := by
  have look {l : Loop} (hp : l.phase = .top) (hr : l.stopRequested = false) :
      l.run [.look] = some (l.goTo .waiting) := by simp [run, step, hp, hr]
  cases hp : l.phase with
  | waiting => exact ⟨[], l, rfl, hp, rfl⟩
  | top => exact ⟨[.look], _, look hp hr, rfl, rfl⟩
  | spawned =>
    have hs : l.step .begin = some ((l.log .started).goTo .top) := by simp [step, hp]
    exact ⟨[.begin, .look], _, (run_cons hs).trans (look rfl hr), rfl, rfl⟩
  | resting =>
    have hs : l.step .goOn = some (l.goTo .top) := by simp [step, hp]
    exact ⟨[.goOn, .look], _, (run_cons hs).trans (look rfl hr), rfl, rfl⟩
  | taken r | handing r _ =>
    obtain ⟨own, l₁, -, hrun, hp₁, hq₁, hr₁, -⟩ := finishes (l := l) (r := r)
      (by rw [hp]; rfl)
    refine ⟨own ++ [.look], l₁.goTo .waiting, ?_, rfl, hq₁⟩
    rw [run_append, hrun]
    exact look hp₁ (hr₁.trans hr)
  | parked | stopped | crashed =>
    rw [hp] at hg
    cases hg

/-- **Nothing more is taken, whatever happens, just where the loop is past its last take.** -/
theorem takes_nothing_iff_past :
    (∀ ss l', l.run ss = some l' → l.taken ss = []) ↔ l.Past := by
  constructor
  · intro hnone
    by_contra hl
    simp only [Past, not_or, not_and] at hl
    obtain ⟨hq, hg, hp⟩ := hl
    have hq : l.queue.held ≠ [] ∨ l.queue.closed = false := by
      by_cases hc : l.queue.closed = true
      · exact .inl (hq hc)
      · exact .inr (by simpa using hc)
    have hg : l.phase.goesOn = true := by simpa using hg
    -- it waits already, or no flag keeps it from coming to wait
    obtain ⟨ss, l₁, hr, hp₁, hq₁⟩ : ∃ ss l₁, l.run ss = some l₁ ∧ l₁.phase = .waiting ∧
        l₁.queue = l.queue := by
      by_cases hr : l.stopRequested = true
      · exact ⟨[], l, rfl, not_not.1 (hp hr), rfl⟩
      · exact waits_of_goesOn hg (by simpa using hr)
    obtain ⟨ts, l₂, hr₂, ht⟩ := takes_of_waiting hp₁ (hq₁ ▸ hq)
    have hnil := hnone (ss ++ ts) l₂ (by rw [run_append, hr]; exact hr₂)
    rw [taken, observe_append hr, List.append_eq_nil_iff] at hnil
    exact ht hnil.2
  · intro hl ss l' hr
    exact taken_eq_nil_of_past hl hr

/-- **Once the stop was requested, one more reference is taken at most.** -/
theorem taken_length_le_one (hl : l.stopRequested = true) (hr : l.run ss = some l') :
    (l.taken ss).length ≤ 1 := by
  induction ss generalizing l with
  | nil => simp [taken, observe]
  | cons s ss ih =>
    obtain ⟨l₁, hs, hr⟩ := Option.bind_eq_some_iff.1 hr
    rw [taken, observe_cons hs, List.length_append]
    have hl₁ := stopRequested_step hl hs
    by_cases ht : l.takenAt s = []
    · rw [ht, List.length_nil, Nat.zero_add]
      exact ih hl₁ hr
    · -- that was the one: the loop looks at the flag before it waits again
      have hpast : l₁.Past := .inr (.inr ⟨hl₁, (waiting_of_take hs ht).2⟩)
      have hnil : l₁.observe takenAt ss = [] := taken_eq_nil_of_past hpast hr
      have hone : (l.takenAt s).length ≤ 1 := by
        cases s <;> simp [takenAt]
      rw [hnil, List.length_nil]
      exact hone

/-- **The stop, the iteration in flight and the references not taken.** From any state of the loop
nothing more is taken, whatever happens, just where the loop is past its last take; once the stop was
requested one more reference is taken at most; the iteration in flight can come to its end; and along
every run each reference in flight or taken has its one iteration, each iteration one request at
most, and every reference that was not taken is held. -/
theorem stop_takes_nothing_iff (l : Loop) :
    ((∀ ss l', l.run ss = some l' → l.taken ss = []) ↔ l.Past) ∧
    (l.stopRequested = true → ∀ ss l', l.run ss = some l' → (l.taken ss).length ≤ 1) ∧
    (∀ r, l.phase.current = [r] → ∃ own l', (∀ s ∈ own, s = .resolve ∨ s = .reply) ∧
      l.run own = some l' ∧ l'.phase = .top ∧ (l.ended own).map (·.reference) = [r]) ∧
    (∀ ss l', l.run ss = some l' →
      (l.ended ss).map (·.reference) ++ l'.phase.current = l.phase.current ++ l.taken ss ∧
      (∃ new, l'.desk.requests = l.desk.requests ++ new ∧
        l.phase.pending ++ new = (l.ended ss).filterMap (·.request?) ++ l'.phase.pending) ∧
      (l.taken ss ++ l'.queue.held).Perm (ss.flatMap LoopStep.puts ++ l.queue.held)) := by
  refine ⟨takes_nothing_iff_past, ?_, ?_, ?_⟩
  · intro hr ss l' hrun
    exact taken_length_le_one hr hrun
  · intro r hc
    obtain ⟨own, l', hown, hrun, hp, -, -, he⟩ := finishes hc
    exact ⟨own, l', hown, hrun, hp, he⟩
  · intro ss l' hrun
    exact ⟨ended_append_current hrun, requests_append hrun, taken_append_held hrun⟩

/-- **The stop races the take**: a loop that waits may take a reference after the stop was
requested. -/
theorem stop_races_take : ¬ ∀ (resolver : Resolver) (queue : Queue) (desk : Desk)
    (ss ts : List LoopStep) (l l' : Loop), (spawn resolver queue desk).run ss = some l →
      l.stopReady = true → l.run ts = some l' → l.taken ts = [] := by
  intro hall
  have hnil := hall _ ⟨[.ofTask 1], false⟩ _ [.begin, .look, .requestStop] [.take] _ _
    (show (bare _).run _ = _ from rfl) rfl rfl
  cases hnil

end Loop

end Handoff
