import Handoff.Queue.Waiting
import Mathlib.Data.List.Basic
/-!
# The steps of calls, one by one

`Hall.step` decides from where a call is whether it can make a step. Here its answers are listed:
one case for each way in which a call can move on, with what the call needs for it.

* `Move`: the cases.
* `Move.of_step`: **every step is one of them.**
* `actTake_cases`, `actPut_cases`: what the work under the lock comes to.
* `callers_move_self`, `callers_ringFor_self`: what becomes of the callers.
-/

namespace Handoff

/-- The ticket that a taker holds where it is. -/
def Stage.ticket? : Stage → Option Ticket
  | .entering ticket | .blocked ticket | .inside ticket => ticket
  | .parked ticket | .leaving ticket _ => some ticket
  | .ready | .ringing _ | .done _ | .givenUp => none

/-- What a call has come to, once it is past its work on the queue. -/
def Stage.result? : Stage → Option CallResult
  | .ringing result | .leaving _ result | .done result => some result
  | .ready | .entering _ | .blocked _ | .inside _ | .parked _ | .givenUp => none

/-- The reference that an errand brings to the queue. -/
def Errand.brings? : Errand → Option Reference
  | .put r => some r
  | .putText raw => Reference.read? raw
  | .take | .close => none

namespace Hall

variable {h h' : Hall} {s : HallStep} {i j : Nat} {errand : Errand} {stage : Stage}
  {ticket : Ticket} {r : Reference}

/-- The ways in which a call moves on. -/
inductive Move (h : Hall) : HallStep → Hall → Prop where
  | call (errand : Errand) :
    Move h (.call errand) { h with callers := h.callers ++ [⟨errand, .ready⟩] }
  | armTake {i : Nat} (hi : h.callers[i]? = some ⟨.take, .ready⟩) :
    Move h (.arm i) (h.register i)
  | armMalformed {i : Nat} {raw : String} (hi : h.callers[i]? = some ⟨.putText raw, .ready⟩)
    (hraw : Reference.read? raw = none) :
    Move h (.arm i) (h.move i (.done (.refused (.malformed raw))))
  | armOther {i : Nat} {errand : Errand} (hi : h.callers[i]? = some ⟨errand, .ready⟩)
    (he : errand ≠ .take) :
    Move h (.arm i) (h.move i (.entering none))
  | block {i : Nat} {errand : Errand} {ticket : Option Ticket}
    (hi : h.callers[i]? = some ⟨errand, .entering ticket⟩) :
    Move h (.block i) (h.move i (.blocked ticket))
  | enter {i : Nat} {errand : Errand} {stage : Stage} {ticket : Option Ticket}
    (hi : h.callers[i]? = some ⟨errand, stage⟩)
    (hs : stage = .entering ticket ∨ stage = .blocked ticket) :
    Move h (.enter i) ({ h with lock := some i }.move i (.inside ticket))
  | actTake {i : Nat} {ticket : Ticket}
    (hi : h.callers[i]? = some ⟨.take, .inside (some ticket)⟩) :
    Move h (.act i) (h.actTake i ticket)
  | actPut {i : Nat} {errand : Errand} {ticket : Option Ticket} {r : Reference}
    (hi : h.callers[i]? = some ⟨errand, .inside ticket⟩) (hr : errand.brings? = some r) :
    Move h (.act i) (h.actPut i r)
  | actClose {i : Nat} {ticket : Option Ticket}
    (hi : h.callers[i]? = some ⟨.close, .inside ticket⟩) :
    Move h (.act i) ({ h with queue := h.queue.close }.unlock.move i (.ringing .accepted))
  | ringAll {i : Nat} {result : CallResult} (hi : h.callers[i]? = some ⟨.close, .ringing result⟩) :
    Move h (.ring i) (h.ringAll.move i (.done result))
  | ringOne {i : Nat} {errand : Errand} {result : CallResult}
    (hi : h.callers[i]? = some ⟨errand, .ringing result⟩) (he : errand ≠ .close) :
    Move h (.ring i) (h.ringOne.move i (.done result))
  | wake {i : Nat} {errand : Errand} {ticket : Ticket}
    (hi : h.callers[i]? = some ⟨errand, .parked ticket⟩) (ht : ticket ≠ .waiting) :
    Move h (.wake i) (h.move i .ready)
  | leave {i : Nat} {errand : Errand} {ticket : Ticket} {result : CallResult}
    (hi : h.callers[i]? = some ⟨errand, .leaving ticket result⟩) :
    Move h (.leave i) ((h.move i (.done result)).handIn i ticket)
  | giveUp {i : Nat} {errand : Errand} (hi : h.callers[i]? = some ⟨errand, .blocked none⟩) :
    Move h (.giveUp i) (h.move i .givenUp)
  | giveUpTicket {i : Nat} {errand : Errand} {stage : Stage} {ticket : Ticket}
    (hi : h.callers[i]? = some ⟨errand, stage⟩)
    (hs : stage = .blocked (some ticket) ∨ stage = .parked ticket) :
    Move h (.giveUp i) ((h.move i .givenUp).handIn i ticket)

/-- **Every step is one of the moves.** -/
theorem Move.of_step (hs : h.step s = some h') : Move h s h' := by
  cases s with
  | call errand =>
    simp only [step, Option.some.injEq] at hs
    subst hs
    exact .call errand
  | arm i =>
    simp only [step] at hs
    split at hs
    · rename_i hi
      cases hs
      exact .armTake hi
    · rename_i raw hi
      split at hs <;> cases hs
      · exact .armOther hi (by simp)
      · rename_i hraw
        exact .armMalformed hi hraw
    · rename_i errand hne _ hi
      cases hs
      exact .armOther hi hne
    · cases hs
  | block i =>
    simp only [step] at hs
    split at hs <;> cases hs
    rename_i hi _
    exact .block hi
  | enter i =>
    simp only [step] at hs
    split at hs <;> cases hs
    · rename_i hi _
      exact .enter hi (.inl rfl)
    · rename_i hi _
      exact .enter hi (.inr rfl)
  | act i =>
    simp only [step] at hs
    split at hs
    · rename_i hi
      cases hs
      exact .actTake hi
    · rename_i hi
      cases hs
      exact .actPut hi rfl
    · rename_i hi
      obtain ⟨r, hr, rfl⟩ := Option.map_eq_some_iff.1 hs
      exact .actPut hi hr
    · rename_i hi
      cases hs
      exact .actClose hi
    · cases hs
  | ring i =>
    simp only [step] at hs
    split at hs
    · rename_i hi
      cases hs
      exact .ringAll hi
    · rename_i errand result hne hi
      cases hs
      exact .ringOne hi hne
    · cases hs
  | wake i =>
    simp only [step] at hs
    split at hs
    · cases hs
    · rename_i errand ticket hne hi
      cases hs
      exact .wake hi hne
    · cases hs
  | leave i =>
    simp only [step] at hs
    split at hs <;> cases hs
    rename_i hi
    exact .leave hi
  | giveUp i =>
    simp only [step] at hs
    split at hs <;> cases hs
    · rename_i hi
      exact .giveUp hi
    · rename_i hi
      exact .giveUpTicket hi (.inl rfl)
    · rename_i hi
      exact .giveUpTicket hi (.inr rfl)

/-- A taker finds a reference, or that there will be none any more, or nothing yet. -/
theorem actTake_cases (h : Hall) (i : Nat) (ticket : Ticket) :
    (∃ r rest, h.queue.held = r :: rest ∧ h.actTake i ticket =
      ({ h with queue := { h.queue with held := rest } }.unlock.move i (.leaving ticket (.got r)))) ∨
    (h.queue.held = [] ∧ h.queue.closed = true ∧
      h.actTake i ticket = h.unlock.move i (.leaving ticket (.refused .closed))) ∨
    (h.queue.held = [] ∧ h.queue.closed = false ∧
      h.actTake i ticket = h.unlock.move i (.parked ticket)) := by
  unfold actTake Queue.take
  cases hq : h.queue.held with
  | cons r rest => exact .inl ⟨r, rest, rfl, rfl⟩
  | nil =>
    cases hc : h.queue.closed with
    | true => exact .inr (.inl ⟨rfl, rfl, rfl⟩)
    | false => exact .inr (.inr ⟨rfl, rfl, rfl⟩)

/-- A put is accepted by an open queue, and refused by a closed one. -/
theorem actPut_cases (h : Hall) (i : Nat) (r : Reference) :
    (h.queue.closed = false ∧ h.actPut i r =
      ({ h with queue := { h.queue with held := Queue.insert r h.queue.held } }.unlock.move i
        (.ringing .accepted))) ∨
    (h.queue.closed = true ∧ h.actPut i r = h.unlock.move i (.done (.refused .closed))) := by
  unfold actPut Queue.put
  by_cases hc : h.queue.closed = true
  · rw [if_pos hc]
    exact .inr ⟨hc, rfl⟩
  · rw [if_neg hc]
    exact .inl ⟨by simpa using hc, rfl⟩

/-- The steps of a put, a take or a close that nobody disturbs. -/
def alone (errand : Errand) (i : Nat) : List HallStep :=
  [.call errand, .arm i, .enter i, .act i] ++
    match errand with
    | .take => [.leave i]
    | .put _ | .putText _ | .close => [.ring i]

/-! ## What becomes of the callers -/

theorem callers_move_self {c : Caller} (hi : h.callers[i]? = some c) :
    (h.move i stage).callers[i]? = some ⟨c.errand, stage⟩ := by
  simp [move, hi]

theorem callers_move_of_ne (hj : i ≠ j) : (h.move i stage).callers[j]? = h.callers[j]? := by
  simp [move, hj]

theorem callers_ringFor_self {c : Caller} (hi : h.callers[i]? = some c) :
    (h.ringFor ticket i).callers[i]? = some ⟨c.errand, mark ticket c.stage⟩ := by
  simp [ringFor, hi]

theorem callers_ringFor_of_ne (hj : i ≠ j) :
    (h.ringFor ticket i).callers[j]? = h.callers[j]? := by
  simp [ringFor, hj]

/-- A mark changes the ticket of a taker that holds one, and nothing else. -/
theorem ticket?_mark : (mark ticket stage).ticket? = stage.ticket?.map fun _ => ticket := by
  rcases stage with _ | (_ | _) | (_ | _) | (_ | _) | _ | _ | _ | _ | _ <;> rfl

theorem result?_mark : (mark ticket stage).result? = stage.result? := by
  rcases stage with _ | (_ | _) | (_ | _) | (_ | _) | _ | _ | _ | _ | _ <;> rfl

end Hall

end Handoff
