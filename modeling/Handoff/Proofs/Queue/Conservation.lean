import Handoff.Proofs.Queue.Moves
import Handoff.Proofs.Queue.Order
/-!
# Nothing is lost in a queue, and nothing comes out twice

Whatever calls share a queue, and however their steps are interleaved, each call does its work on
the queue at one moment, under the lock. Seen from the queue the calls come one after another.

* `Queue.serve`: what a call does to the queue, all at once.
* `effect_of_step`: **every step serves one call all at once, or leaves the queue alone.**
* `kept_run`: in every reachable state the references accepted are those returned together with
  those held, and these are held in ascending order.
* `outOf_append_held`: while nothing is put, references come out in the order in which they are held.
* `conserved_in_order`: the laws of a shared queue, together.
-/

namespace Handoff

/-- What a call does to the queue, all at once: its result, and the queue after it. A taker that
finds nothing has no result yet. -/
def Queue.serve (q : Queue) : Errand → Option (CallResult × Queue)
  | .take =>
    match q.take with
    | .reference r rest => some (.got r, rest)
    | .closed => some (.refused .closed, q)
    | .nothing => none
  | .put r =>
    match q.put r with
    | .ok q' => some (.accepted, q')
    | .error fault => some (.refused fault, q)
  | .putText raw =>
    match q.putText raw with
    | .ok q' => some (.accepted, q')
    | .error fault => some (.refused fault, q)
  | .close => some (.accepted, q.close)

/-- What can come of a call: the cases of `Queue.serve`. -/
inductive Queue.Served (q : Queue) : Errand → CallResult → Queue → Prop where
  | got {r : Reference} {rest : List Reference} (hq : q.held = r :: rest) :
    Served q .take (.got r) { q with held := rest }
  | drained (hc : q.closed = true) (hq : q.held = []) : Served q .take (.refused .closed) q
  | put {errand : Errand} {r : Reference} (he : errand.brings? = some r) (hc : q.closed = false) :
    Served q errand .accepted { q with held := insert r q.held }
  | shut {errand : Errand} {r : Reference} (he : errand.brings? = some r) (hc : q.closed = true) :
    Served q errand (.refused .closed) q
  | malformed {raw : String} (hraw : Reference.read? raw = none) :
    Served q (.putText raw) (.refused (.malformed raw)) q
  | close : Served q .close .accepted q.close

/-- The reference that a result hands out. -/
def CallResult.handed : CallResult → List Reference
  | .got r => [r]
  | .accepted | .refused _ => []

/-- What a call is for, and what it has come to so far. -/
structure Fate where
  errand : Errand
  result : Option CallResult
  deriving DecidableEq

/-- The reference that a call has brought into the queue. -/
def Fate.accepted? : Fate → Option Reference
  | ⟨errand, some .accepted⟩ => errand.brings?
  | _ => none

/-- The reference that a call has got from the queue. -/
def Fate.returned? : Fate → Option Reference
  | ⟨_, some (.got r)⟩ => some r
  | _ => none

theorem Queue.Served.of_serve {q q' : Queue} {errand : Errand} {result : CallResult}
    (h : q.serve errand = some (result, q')) : q.Served errand result q' := by
  -- a put of a reference, however it was given
  have key : ∀ {r}, errand.brings? = some r → (match q.put r with
      | .ok q₁ => some (CallResult.accepted, q₁)
      | .error fault => some (.refused fault, q)) = some (result, q') →
      q.Served errand result q' := by
    intro r he h
    unfold Queue.put at h
    split at h
    · rename_i hp
      split at hp <;> cases hp
      rename_i hc
      cases h
      exact .put he (by simpa using hc)
    · rename_i hp
      split at hp <;> cases hp
      rename_i hc
      cases h
      exact .shut he hc
  cases errand with
  | take =>
    simp only [Queue.serve, Queue.take] at h
    cases hq : q.held with
    | nil =>
      rw [hq] at h
      by_cases hc : q.closed = true
      · simp only [hc, if_true] at h
        cases h
        exact .drained hc hq
      · simp only [hc] at h
        cases h
    | cons r rest =>
      rw [hq] at h
      cases h
      exact .got hq
  | put r => exact key rfl h
  | putText raw =>
    simp only [Queue.serve, Queue.putText] at h
    cases hraw : Reference.read? raw with
    | none =>
      rw [hraw] at h
      cases h
      exact .malformed hraw
    | some r =>
      rw [hraw] at h
      exact key hraw h
  | close =>
    cases h
    exact .close

namespace Queue.Served

variable {q q' : Queue} {errand : Errand} {result : CallResult}

theorem ascending (h : q.Served errand result q') (ha : Ascending q.held) : Ascending q'.held := by
  cases h with
  | got hq => exact (ascending_cons.1 (hq ▸ ha)).2
  | put => exact insert_ascending ha
  | drained | shut | malformed | close => exact ha

/-- What is accepted comes in, and what is returned goes out. -/
theorem balance (h : q.Served errand result q') :
    ((Fate.accepted? ⟨errand, some result⟩).toList ++ q.held).Perm
      ((Fate.returned? ⟨errand, some result⟩).toList ++ q'.held) := by
  cases h with
  | got hq =>
    rw [hq]
    exact List.Perm.refl _
  | @put _ r he =>
    have h := (insert_perm r q.held).symm
    simpa [Fate.accepted?, Fate.returned?, he] using h
  | drained | shut | malformed | close => exact List.Perm.refl _

theorem drained_of_refused (h : q.Served .take (.refused .closed) q') :
    q'.closed = true ∧ q'.held = [] := by
  cases h with
  | drained hc hq => exact ⟨hc, hq⟩
  | shut he => cases he

/-- A closed queue takes nothing in, so once it is empty it stays so. -/
theorem stays_drained (h : q.Served errand result q') (hd : q.closed = true ∧ q.held = []) :
    q'.closed = true ∧ q'.held = [] := by
  cases h with
  | got hq =>
    rw [hq] at hd
    cases hd.2
  | put he hc =>
    rw [hc] at hd
    cases hd.1
  | drained | shut | malformed => exact hd
  | close => exact ⟨rfl, hd.2⟩

end Queue.Served

namespace Hall

/-- The fates of all calls so far. -/
def fates (h : Hall) : List Fate :=
  h.callers.map fun c => ⟨c.errand, c.stage.result?⟩

/-- The references that puts have brought into the queue. -/
def accepted (h : Hall) : List Reference :=
  h.fates.filterMap Fate.accepted?

/-- The references that takes have got from the queue. -/
def returned (h : Hall) : List Reference :=
  h.fates.filterMap Fate.returned?

/-- The reference that a step hands out to a taker. -/
def handed (h : Hall) : HallStep → List Reference
  | .act i =>
    match h.callers[i]? with
    | some ⟨.take, .inside (some _)⟩ => h.queue.held.take 1
    | _ => []
  | _ => []

/-- The references that a run hands out, one after another. -/
def outOf (h : Hall) : List HallStep → List Reference
  | [] => []
  | s :: ss => h.handed s ++ ((h.step s).elim [] fun h' => h'.outOf ss)

variable {h h' h₁ h₂ : Hall} {s : HallStep} {ss : List HallStep} {i j : Nat} {errand : Errand}
  {stage : Stage} {ticket : Ticket} {r : Reference}

/-! ## Seen from the queue, one call after another -/

theorem fates_move {c : Caller} (hi : h.callers[i]? = some c) :
    (h.move i stage).fates = h.fates.set i ⟨c.errand, stage.result?⟩ := by
  apply List.ext_getElem?
  intro j
  by_cases hj : i = j
  · subst hj
    have hl : i < h.callers.length := (List.getElem?_eq_some_iff.1 hi).1
    rw [List.getElem?_set_self (by simpa [fates] using hl)]
    simp [fates, callers_move_self hi]
  · rw [List.getElem?_set_ne hj]
    simp [fates, callers_move_of_ne hj]

theorem fate_of {c : Caller} (hi : h.callers[i]? = some c) :
    h.fates[i]? = some ⟨c.errand, c.stage.result?⟩ := by
  simp [fates, hi]

/-- A call that moves on without a result keeps its fate. -/
theorem fates_move_eq (hi : h.fates[i]? = some ⟨errand, stage.result?⟩) :
    (h.move i stage).fates = h.fates := by
  obtain ⟨c, hc, rfl, hs⟩ : ∃ c, h.callers[i]? = some c ∧ c.errand = errand ∧
      c.stage.result? = stage.result? := by simpa [fates] using hi
  obtain ⟨hl, hi⟩ := List.getElem?_eq_some_iff.1 (hs ▸ fate_of hc)
  rw [fates_move hc, ← hi, List.set_getElem_self]

theorem fates_ringFor : (h.ringFor ticket i).fates = h.fates := by
  apply List.ext_getElem?
  intro j
  by_cases hj : i = j
  · subst hj
    cases hi : h.callers[i]? with
    | none => simp [fates, ringFor, hi]
    | some c => simp [fates, callers_ringFor_self hi, hi, result?_mark]
  · simp [fates, callers_ringFor_of_ne hj]

theorem ringOne_fates_queue : h.ringOne.fates = h.fates ∧ h.ringOne.queue = h.queue := by
  unfold ringOne
  split
  · exact ⟨rfl, rfl⟩
  · exact ⟨fates_ringFor, rfl⟩

theorem ringAll_fates_queue : h.ringAll.fates = h.fates ∧ h.ringAll.queue = h.queue := by
  have key : ∀ (is : List Nat) (h : Hall),
      (is.foldl (fun h i => h.ringFor .rungAll i) h).fates = h.fates ∧
        (is.foldl (fun h i => h.ringFor .rungAll i) h).queue = h.queue := by
    intro is
    induction is with
    | nil => intro h; exact ⟨rfl, rfl⟩
    | cons i is ih =>
      intro h
      rw [List.foldl_cons, (ih _).1, (ih _).2]
      exact ⟨fates_ringFor, rfl⟩
  exact key h.waiters { h with waiters := [] }

theorem handIn_fates_queue :
    (h.handIn i ticket).fates = h.fates ∧ (h.handIn i ticket).queue = h.queue := by
  cases ticket with
  | rungAlone => exact ringOne_fates_queue
  | waiting | rungAll | usedStored => exact ⟨rfl, rfl⟩

theorem register_fates_queue (hi : h.fates[i]? = some ⟨errand, none⟩) :
    (h.register i).fates = h.fates ∧ (h.register i).queue = h.queue := by
  unfold register
  split
  · exact ⟨fates_move_eq (h := { h with stored := false }) hi, rfl⟩
  · exact ⟨fates_move_eq (h := { h with waiters := h.waiters ++ [i] }) hi, rfl⟩

/-- What a step does, seen from the queue: a new call, nothing, or the whole work of one call. -/
inductive Effect (h : Hall) (s : HallStep) (h' : Hall) : Prop where
  | called (errand : Errand) (hq : h'.queue = h.queue) (hf : h'.fates = h.fates ++ [⟨errand, none⟩])
    (ho : h.handed s = [])
  | quiet (hq : h'.queue = h.queue) (hf : h'.fates = h.fates) (ho : h.handed s = [])
  | served {i : Nat} {errand : Errand} {result : CallResult}
    (hi : h.fates[i]? = some ⟨errand, none⟩)
    (hs : h.queue.serve errand = some (result, h'.queue))
    (hf : h'.fates = h.fates.set i ⟨errand, some result⟩) (ho : h.handed s = result.handed)

/-- A call that gets its result at its work under the lock. -/
theorem Effect.of_act {q : Queue} {result : CallResult} {held : Option Ticket}
    (hi : h.callers[i]? = some ⟨errand, .inside held⟩)
    (hq : h.queue.serve errand = some (result, q)) (hs : stage.result? = some result)
    (ho : h.handed (.act i) = result.handed) :
    Effect h (.act i) ({ h with queue := q }.unlock.move i stage) := by
  have hfate : h.fates[i]? = some ⟨errand, none⟩ := fate_of hi
  refine .served hfate hq ?_ ho
  exact (fates_move (h := { h with queue := q }.unlock) hi).trans (by rw [hs])

theorem Effect.of_actTake (hi : h.callers[i]? = some ⟨.take, .inside (some ticket)⟩) :
    Effect h (.act i) (h.actTake i ticket) := by
  have ho : h.handed (.act i) = h.queue.held.take 1 := by simp [handed, hi]
  rcases actTake_cases h i ticket with ⟨r, rest, hq, heq⟩ | ⟨hq, hc, heq⟩ | ⟨hq, hc, heq⟩
  · have hserve : h.queue.serve .take = some (.got r, { h.queue with held := rest }) := by
      simp [Queue.serve, Queue.take, hq]
    rw [heq]
    exact .of_act hi hserve rfl (by rw [ho, hq]; rfl)
  · have hserve : h.queue.serve .take = some (.refused .closed, h.queue) := by
      simp [Queue.serve, Queue.take, hq, hc]
    rw [heq]
    exact .of_act hi hserve rfl (by rw [ho, hq]; rfl)
  · rw [heq]
    exact .quiet rfl (fates_move_eq (h := h.unlock) (fate_of hi)) (by rw [ho, hq]; rfl)

theorem Effect.of_actPut {held : Option Ticket} (hi : h.callers[i]? = some ⟨errand, .inside held⟩)
    (hr : errand.brings? = some r) : Effect h (.act i) (h.actPut i r) := by
  have he : errand ≠ .take := by rintro rfl; cases hr
  have ho : h.handed (.act i) = [] := by
    simp only [handed, hi]
    cases errand with
    | take => exact absurd rfl he
    | put | putText | close => rfl
  have hserve : h.queue.serve errand = match h.queue.put r with
      | .ok q => some (.accepted, q)
      | .error fault => some (.refused fault, h.queue) := by
    cases errand with
    | take | close => cases hr
    | put r' => cases hr; rfl
    | putText raw =>
      have hraw : Reference.read? raw = some r := hr
      simp only [Queue.serve, Queue.putText, hraw]
  rcases actPut_cases h i r with ⟨hc, heq⟩ | ⟨hc, heq⟩
  · have hput : h.queue.put r = .ok { h.queue with held := Queue.insert r h.queue.held } := by
      simp [Queue.put, hc]
    rw [heq]
    exact .of_act hi (by rw [hserve, hput]) rfl ho
  · have hput : h.queue.put r = .error .closed := by simp [Queue.put, hc]
    rw [heq]
    exact .of_act (q := h.queue) hi (by rw [hserve, hput]) rfl ho

/-- **Every step serves one call all at once, or leaves the queue alone.** -/
theorem effect_of_step (hstep : h.step s = some h') : Effect h s h' := by
  cases Move.of_step hstep with
  | call errand => exact .called errand rfl (by simp [fates, Stage.result?]) rfl
  | armTake hi =>
    obtain ⟨hf, hq⟩ := register_fates_queue (fate_of hi)
    exact .quiet hq hf rfl
  | @armMalformed i raw hi hraw =>
    have hserve : h.queue.serve (.putText raw) = some (.refused (.malformed raw), h.queue) := by
      simp only [Queue.serve, Queue.putText, hraw]
    exact .served (fate_of hi) hserve (fates_move hi) rfl
  | armOther hi _ => exact .quiet rfl (fates_move_eq (fate_of hi)) rfl
  | block hi => exact .quiet rfl (fates_move_eq (fate_of hi)) rfl
  | @enter i errand stage ticket hi hs =>
    have hfate : h.fates[i]? = some ⟨errand, none⟩ := by
      rcases hs with rfl | rfl <;> exact fate_of hi
    exact .quiet rfl (fates_move_eq (h := { h with lock := some i }) hfate) rfl
  | actTake hi => exact .of_actTake hi
  | actPut hi hr => exact .of_actPut hi hr
  | actClose hi => exact .of_act hi rfl rfl (by simp [handed, hi, CallResult.handed])
  | @ringAll i result hi =>
    obtain ⟨hf, hq⟩ := ringAll_fates_queue (h := h)
    exact .quiet hq ((fates_move_eq (hf ▸ fate_of hi)).trans hf) rfl
  | @ringOne i errand result hi _ =>
    obtain ⟨hf, hq⟩ := ringOne_fates_queue (h := h)
    exact .quiet hq ((fates_move_eq (hf ▸ fate_of hi)).trans hf) rfl
  | wake hi _ => exact .quiet rfl (fates_move_eq (fate_of hi)) rfl
  | leave hi =>
    obtain ⟨hf, hq⟩ := handIn_fates_queue
    exact .quiet hq (hf.trans (fates_move_eq (fate_of hi))) rfl
  | giveUp hi => exact .quiet rfl (fates_move_eq (fate_of hi)) rfl
  | @giveUpTicket i errand stage ticket hi hs =>
    obtain ⟨hf, hq⟩ := handIn_fates_queue
    have hfate : h.fates[i]? = some ⟨errand, none⟩ := by
      rcases hs with rfl | rfl <;> exact fate_of hi
    exact .quiet hq (hf.trans (fates_move_eq hfate)) rfl

/-! ## What holds in every reachable state -/

/-- The references accepted are those returned and those held, these in ascending order; and a taker
was told that the queue is closed only when nothing was left. -/
structure Kept (h : Hall) : Prop where
  ascending : Ascending h.queue.held
  balance : h.accepted.Perm (h.returned ++ h.queue.held)
  drained : ∀ i : Nat, h.fates[i]? = some ⟨.take, some (.refused .closed)⟩ →
    h.queue.closed = true ∧ h.queue.held = []

theorem kept_empty : Kept empty :=
  ⟨List.Pairwise.nil, List.Perm.refl _, by intro i hi; simp [empty, fates] at hi⟩

/-- One entry of a list of fates comes to count. -/
theorem filterMap_set_perm {α β : Type} {f : α → Option β} {l : List α} {i : Nat} {a b : α}
    (hi : l[i]? = some a) (ha : f a = none) :
    ((l.set i b).filterMap f).Perm ((f b).toList ++ l.filterMap f) := by
  induction l generalizing i with
  | nil => simp at hi
  | cons x xs ih =>
    cases i with
    | zero =>
      obtain rfl : x = a := by simpa using hi
      cases hb : f b <;> simp [ha, hb]
    | succ i =>
      have h := ih (by simpa using hi)
      cases hx : f x with
      | none => simpa [hx] using h
      | some y =>
        simp only [List.set_cons_succ, List.filterMap_cons, hx]
        exact (h.cons y).trans List.perm_middle.symm

theorem accepted_of_served {result : CallResult} (hi : h.fates[i]? = some ⟨errand, none⟩)
    (hf : h'.fates = h.fates.set i ⟨errand, some result⟩) :
    h'.accepted.Perm ((Fate.accepted? ⟨errand, some result⟩).toList ++ h.accepted) := by
  unfold accepted
  rw [hf]
  exact filterMap_set_perm hi rfl

theorem returned_of_served {result : CallResult} (hi : h.fates[i]? = some ⟨errand, none⟩)
    (hf : h'.fates = h.fates.set i ⟨errand, some result⟩) :
    h'.returned.Perm ((Fate.returned? ⟨errand, some result⟩).toList ++ h.returned) := by
  unfold returned
  rw [hf]
  exact filterMap_set_perm hi rfl

theorem accepted_of_quiet (hf : h'.fates = h.fates) : h'.accepted = h.accepted := by
  unfold accepted
  rw [hf]

theorem returned_of_quiet (hf : h'.fates = h.fates) : h'.returned = h.returned := by
  unfold returned
  rw [hf]

open scoped List in
/-- **A step keeps the balance.** -/
theorem kept_step (hk : Kept h) (hs : h.step s = some h') : Kept h' := by
  cases effect_of_step hs with
  | called errand hq hf _ =>
    have ha : h'.accepted = h.accepted := by simp [accepted, hf, Fate.accepted?]
    have hr : h'.returned = h.returned := by simp [returned, hf, Fate.returned?]
    refine ⟨hq ▸ hk.ascending, by rw [ha, hr, hq]; exact hk.balance, ?_⟩
    intro i hi
    rw [hf, List.getElem?_append] at hi
    split at hi
    · rw [hq]
      exact hk.drained i hi
    · -- the new call has no result yet
      simp [List.getElem?_singleton] at hi
  | quiet hq hf _ =>
    refine ⟨hq ▸ hk.ascending, ?_, ?_⟩
    · rw [accepted_of_quiet hf, returned_of_quiet hf, hq]
      exact hk.balance
    · rw [hf, hq]
      exact hk.drained
  | @served i errand result hi hserve hf _ =>
    have hserved := Queue.Served.of_serve hserve
    refine ⟨hserved.ascending hk.ascending, ?_, ?_⟩
    · have ha := accepted_of_served hi hf
      have hr := returned_of_served hi hf
      calc h'.accepted
        _ ~ (Fate.accepted? ⟨errand, some result⟩).toList ++ h.accepted := ha
        _ ~ (Fate.accepted? ⟨errand, some result⟩).toList ++ (h.returned ++ h.queue.held) :=
          hk.balance.append_left _
        _ ~ h.returned ++ ((Fate.accepted? ⟨errand, some result⟩).toList ++ h.queue.held) :=
          List.perm_append_comm_assoc _ _ _
        _ ~ h.returned ++ ((Fate.returned? ⟨errand, some result⟩).toList ++ h'.queue.held) :=
          hserved.balance.append_left _
        _ ~ (Fate.returned? ⟨errand, some result⟩).toList ++ (h.returned ++ h'.queue.held) :=
          List.perm_append_comm_assoc _ _ _
        _ = ((Fate.returned? ⟨errand, some result⟩).toList ++ h.returned) ++ h'.queue.held :=
          (List.append_assoc _ _ _).symm
        _ ~ h'.returned ++ h'.queue.held := hr.symm.append_right _
    · intro j hj
      rw [hf, List.getElem?_set] at hj
      split at hj
      · -- the call served was the one refused
        split at hj
        · cases hj
          exact hserved.drained_of_refused
        · cases hj
      · -- an earlier one was: the queue takes nothing in any more
        exact hserved.stays_drained (hk.drained j hj)

/-- The balance holds in every state that a run leads to. -/
theorem kept_run (hk : Kept h) (hr : h.run ss = some h') : Kept h' := by
  induction ss generalizing h with
  | nil =>
    cases hr
    exact hk
  | cons s ss ih =>
    obtain ⟨h₁, hs, hr⟩ := Option.bind_eq_some_iff.1 hr
    exact ih (kept_step hk hs) hr

/-! ## Coming out in order -/

/-- A step hands out from the front of what is held, or it takes one reference in. -/
theorem handed_append_held (hs : h.step s = some h') :
    (h.handed s ++ h'.queue.held = h.queue.held ∧ h'.accepted.length = h.accepted.length) ∨
      h'.accepted.length = h.accepted.length + 1 := by
  cases effect_of_step hs with
  | called errand hq hf ho =>
    refine .inl ⟨by rw [ho, hq]; rfl, ?_⟩
    simp [accepted, hf, Fate.accepted?]
  | quiet hq hf ho => exact .inl ⟨by rw [ho, hq]; rfl, by rw [accepted_of_quiet hf]⟩
  | @served i errand result hi hserve hf ho =>
    have hl := (accepted_of_served hi hf).length_eq
    have hserved := Queue.Served.of_serve hserve
    rw [ho]
    generalize h'.queue = q at hserved ⊢
    cases hserved with
    | got hq => exact .inl ⟨hq.symm, hl⟩
    | @put _ r he =>
      right
      simpa [Fate.accepted?, he, Nat.add_comm] using hl
    | drained | shut | malformed | close =>
      exact .inl ⟨rfl, by simpa [Fate.accepted?, Errand.brings?] using hl⟩

theorem accepted_length_le (hr : h.run ss = some h') : h.accepted.length ≤ h'.accepted.length := by
  induction ss generalizing h with
  | nil =>
    cases hr
    exact Nat.le_refl _
  | cons s ss ih =>
    obtain ⟨h₁, hs, hr⟩ := Option.bind_eq_some_iff.1 hr
    have := ih hr
    rcases handed_append_held hs with ⟨-, hl⟩ | hl <;> omega

/-- **While nothing is put, references come out in the order in which they are held.** -/
theorem outOf_append_held (hr : h.run ss = some h')
    (hl : h'.accepted.length = h.accepted.length) :
    h.outOf ss ++ h'.queue.held = h.queue.held := by
  induction ss generalizing h with
  | nil =>
    cases hr
    rfl
  | cons s ss ih =>
    obtain ⟨h₁, hs, hr⟩ := Option.bind_eq_some_iff.1 hr
    have hle := accepted_length_le hr
    -- a step that took a reference in would leave more accepted than there are in the end
    rcases handed_append_held hs with ⟨hh, hl₁⟩ | hl₁
    · rw [outOf, hs, Option.elim_some, List.append_assoc, ih hr (by omega), hh]
    · omega

/-- A run that puts nothing and leaves the queue empty. -/
def Drains (h : Hall) (ss : List HallStep) : Prop :=
  ∃ h', h.run ss = some h' ∧ h'.accepted.length = h.accepted.length ∧ h'.queue.held = []

theorem outOf_of_drains (hd : h.Drains ss) : h.outOf ss = h.queue.held := by
  obtain ⟨h', hr, hl, hn⟩ := hd
  have h := outOf_append_held hr hl
  rwa [hn, List.append_nil] at h

/-- What is held depends only on what was accepted and what was returned. -/
theorem held_eq_of_perm (h₁k : Kept h₁) (h₂k : Kept h₂) (ha : h₁.accepted.Perm h₂.accepted)
    (hr : h₁.returned.Perm h₂.returned) : h₁.queue.held = h₂.queue.held := by
  have h₁p := h₁k.balance.symm.trans (ha.trans h₂k.balance)
  have h₂p := h₁p.trans (hr.symm.append_right _)
  exact Queue.eq_of_perm ((List.perm_append_left_iff _).1 h₂p) h₁k.ascending h₂k.ascending

/-- A call that gets its result in a step was served in it. -/
theorem served_of_step {result : CallResult} (hs : h.step s = some h')
    (hi : h.fates[i]? = some ⟨errand, none⟩) (hi' : h'.fates[i]? = some ⟨errand, some result⟩) :
    h.queue.Served errand result h'.queue ∧ h.handed s = result.handed := by
  cases effect_of_step hs with
  | called _ _ hf _ =>
    rw [hf, List.getElem?_append_left (List.getElem?_eq_some_iff.1 hi).1, hi] at hi'
    cases hi'
  | quiet _ hf _ =>
    rw [hf, hi] at hi'
    cases hi'
  | @served j errand' result' hj hserve hf ho =>
    rw [hf] at hi'
    -- one call is served in a step, so it is this one
    by_cases hij : j = i
    · subst hij
      rw [hj] at hi
      cases hi
      rw [List.getElem?_set_self (List.getElem?_eq_some_iff.1 hj).1] at hi'
      cases hi'
      exact ⟨.of_serve hserve, ho⟩
    · rw [List.getElem?_set_ne hij, hi] at hi'
      cases hi'

/-- What a step may do to the references in the queue. -/
structure Lawful (h : Hall) (s : HallStep) (h' : Hall) : Prop where
  /-- What a call gets is a smallest reference, and it alone is removed. -/
  got : ∀ (i : Nat) errand r,
    h.fates[i]? = some ⟨errand, none⟩ → h'.fates[i]? = some ⟨errand, some (.got r)⟩ →
      h.handed s = [r] ∧ h.queue.held = r :: h'.queue.held ∧ ∀ x ∈ h.queue.held, r.le x
  /-- A call that gives up changes nothing. -/
  given_up : ∀ i, s = .giveUp i → h'.queue = h.queue ∧ h'.fates = h.fates
  /-- A put is accepted until the queue is closed; afterwards it is refused and changes nothing. -/
  put : ∀ (i : Nat) errand r result, errand.brings? = some r →
    h.fates[i]? = some ⟨errand, none⟩ → h'.fates[i]? = some ⟨errand, some result⟩ →
      if h.queue.closed then result = .refused .closed ∧ h'.queue = h.queue
      else result = .accepted ∧ h'.queue = { h.queue with held := Queue.insert r h.queue.held }
  /-- A text that is no reference is refused and changes nothing. -/
  malformed : ∀ (i : Nat) raw result, Reference.read? raw = none →
    h.fates[i]? = some ⟨.putText raw, none⟩ → h'.fates[i]? = some ⟨.putText raw, some result⟩ →
      result = .refused (.malformed raw) ∧ h'.queue = h.queue
  /-- A take is refused only by a queue that is closed and empty. -/
  take_refused : ∀ (i : Nat) fault,
    h.fates[i]? = some ⟨.take, none⟩ → h'.fates[i]? = some ⟨.take, some (.refused fault)⟩ →
      fault = .closed ∧ h.queue.closed = true ∧ h.queue.held = [] ∧ h'.queue = h.queue

theorem given_up (hs : h.step (.giveUp i) = some h') :
    h'.queue = h.queue ∧ h'.fates = h.fates := by
  cases Move.of_step hs with
  | giveUp hi => exact ⟨rfl, fates_move_eq (fate_of hi)⟩
  | @giveUpTicket i errand stage ticket hi hstage =>
    have hfate : h.fates[i]? = some ⟨errand, none⟩ := by
      rcases hstage with rfl | rfl <;> exact fate_of hi
    obtain ⟨hf, hq⟩ := handIn_fates_queue
    exact ⟨hq, hf.trans (fates_move_eq hfate)⟩

theorem lawful_of_step (hk : Kept h) (hs : h.step s = some h') : Lawful h s h' where
  got i errand r hi hi' := by
    obtain ⟨hserved, ho⟩ := served_of_step hs hi hi'
    generalize h'.queue = q at hserved ⊢
    cases hserved with
    | @got _ rest hq =>
      refine ⟨ho, hq, ?_⟩
      intro x hx
      rw [hq] at hx
      rcases List.mem_cons.1 hx with rfl | hx
      · exact Reference.le_refl x
      · exact (Queue.ascending_cons.1 (hq ▸ hk.ascending)).1 x hx
  given_up i hi := given_up (hi ▸ hs)
  put i errand r result he hi hi' := by
    obtain ⟨hserved, -⟩ := served_of_step hs hi hi'
    generalize h'.queue = q at hserved ⊢
    cases hserved with
    | got | drained | close => cases he
    | put he' hc =>
      cases he.symm.trans he'
      simp [hc]
    | shut _ hc => simp [hc]
    | malformed hraw => cases hraw.symm.trans he
  malformed i raw result hraw hi hi' := by
    obtain ⟨hserved, -⟩ := served_of_step hs hi hi'
    generalize h'.queue = q at hserved ⊢
    cases hserved with
    | put he | shut he => cases hraw.symm.trans he
    | malformed => exact ⟨rfl, rfl⟩
  take_refused i fault hi hi' := by
    obtain ⟨hserved, -⟩ := served_of_step hs hi hi'
    generalize h'.queue = q at hserved ⊢
    cases hserved with
    | drained hc hq => exact ⟨rfl, hc, hq, rfl⟩
    | shut he => cases he

/-- **A shared queue loses nothing, gives nothing twice and keeps the order.** After any run of any
calls, cancelled or not: what was accepted is what was returned and what is held; every further step
is lawful; a taker that was told of the close finds everything accepted returned; and without puts
the queue hands out in ascending order, alike after all runs that accepted and returned alike. -/
theorem conserved_in_order (hr : empty.run ss = some h) :
    h.accepted.Perm (h.returned ++ h.queue.held) ∧
    (∀ s h', h.step s = some h' → Lawful h s h') ∧
    (∀ i : Nat, h.fates[i]? = some ⟨.take, some (.refused .closed)⟩ →
      h.queue.closed = true ∧ h.accepted.Perm h.returned) ∧
    (∀ ts h', h.run ts = some h' → h'.accepted.length = h.accepted.length →
      h.outOf ts ++ h'.queue.held = h.queue.held ∧ Ascending h.queue.held) ∧
    (∀ ss₂ h₂, empty.run ss₂ = some h₂ → h.accepted.Perm h₂.accepted →
      h.returned.Perm h₂.returned → ∀ ts ts₂, h.Drains ts → h₂.Drains ts₂ →
        h.outOf ts = h₂.outOf ts₂) := by
  have hk : Kept h := kept_run kept_empty hr
  refine ⟨hk.balance, fun _ _ => lawful_of_step hk, ?_, ?_, ?_⟩
  · intro i hi
    obtain ⟨hc, hn⟩ := hk.drained i hi
    have hb := hk.balance
    rw [hn, List.append_nil] at hb
    exact ⟨hc, hb⟩
  · intro ts h' ht hl
    exact ⟨outOf_append_held ht hl, hk.ascending⟩
  · intro ss₂ h₂ hr₂ ha hret ts ts₂ hd hd₂
    rw [outOf_of_drains hd, outOf_of_drains hd₂]
    exact held_eq_of_perm hk (kept_run kept_empty hr₂) ha hret

/-- Two references put in either order come out alike, and a close is told when they are out. -/
theorem conserved_in_order_two_puts :
    let puts : Hall := ⟨⟨[.ofTask 1, .ofTask 2], false⟩, none, true, [],
      [⟨.put (.ofTask 2), .done .accepted⟩, ⟨.put (.ofTask 1), .done .accepted⟩]⟩
    let swapped : Hall := ⟨⟨[.ofTask 1, .ofTask 2], false⟩, none, true, [],
      [⟨.put (.ofTask 1), .done .accepted⟩, ⟨.put (.ofTask 2), .done .accepted⟩]⟩
    let shut : Hall := ⟨⟨[], true⟩, none, false, [],
      [⟨.close, .done .accepted⟩, ⟨.take, .done (.refused .closed)⟩]⟩
    let takes := alone .take 2 ++ alone .take 3
    empty.run (alone (.put (.ofTask 2)) 0 ++ alone (.put (.ofTask 1)) 1) = some puts ∧
    puts.accepted.Perm (puts.returned ++ puts.queue.held) ∧
    Lawful puts (.call .take) { puts with callers := puts.callers ++ [⟨.take, .ready⟩] } ∧
    (shut.queue.closed = true ∧ shut.accepted.Perm shut.returned) ∧
    (puts.outOf takes ++ [] = puts.queue.held ∧ Ascending puts.queue.held) ∧
    puts.outOf takes = swapped.outOf takes := by
  intro puts swapped shut takes
  have hputs : empty.run (alone (.put (.ofTask 2)) 0 ++ alone (.put (.ofTask 1)) 1) =
    some puts := by decide
  have hswapped : empty.run (alone (.put (.ofTask 1)) 0 ++ alone (.put (.ofTask 2)) 1) =
    some swapped := by decide
  have hshut : empty.run (alone .close 0 ++ alone .take 1) = some shut := by decide
  obtain ⟨hb, hl, -, ho, hd⟩ := conserved_in_order hputs
  refine ⟨hputs, hb, hl _ _ rfl, (conserved_in_order hshut).2.2.1 1 rfl, ?_, ?_⟩
  · exact ho takes ⟨⟨[], false⟩, none, false, [], puts.callers ++
      [⟨.take, .done (.got (.ofTask 1))⟩, ⟨.take, .done (.got (.ofTask 2))⟩]⟩ (by decide) (by decide)
  · refine hd _ _ hswapped (List.Perm.swap _ _ []) (List.Perm.refl _) _ _ ?_ ?_
    · exact ⟨⟨⟨[], false⟩, none, false, [], puts.callers ++
        [⟨.take, .done (.got (.ofTask 1))⟩, ⟨.take, .done (.got (.ofTask 2))⟩]⟩, by decide⟩
    · exact ⟨⟨⟨[], false⟩, none, false, [], swapped.callers ++
        [⟨.take, .done (.got (.ofTask 1))⟩, ⟨.take, .done (.got (.ofTask 2))⟩]⟩, by decide⟩

end Hall

end Handoff
