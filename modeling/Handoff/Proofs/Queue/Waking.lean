import Handoff.Proofs.Queue.Bell
import Handoff.Proofs.Queue.Order
import Mathlib.Algebra.GroupWithZero.Nat
import Mathlib.Data.Finset.Card
/-!
# Takers that wait, and rings that get lost

A put rings the bell for one taker. The ring is on its way until a taker has looked at the queue on
its account: it is still to be given, or it was given to a taker that has not woken to it, or a taker
has woken to it and is on its way back to the queue. While a taker waits unheard, there are at least
as many rings on their way as there are references in the queue.

A taker that gives up hands in a ring it has not woken to. A ring that it has woken to it cannot
hand in: if it gives up on its way back, while it waits for the lock, that ring is lost.

* `Heard`: as many rings on their way, or lost, as references held.
* `stranded_le_lost`: **at rest, no taker waits at a closed queue, and no more references wait with
  it than rings were lost.**
* `lost_ring_strands`: one lost ring is enough to strand a taker.
-/

namespace Handoff

/-- The rings that a call has on their way: the one that it is about to give, or the one that was
given to it alone. -/
def Caller.rings (c : Caller) : Nat :=
  match c.errand, c.stage with
  | .close, .ringing _ => 0
  | _, .ringing _ => 1
  | _, stage => if stage.ticket? = some .rungAlone then 1 else 0

/-- A call that makes no step by itself: a taker that waits, a call that is over, or one that has
not come to the queue yet; none that has a ring to give. -/
def Caller.AtRest (c : Caller) : Prop :=
  if c.errand = .take then
    c.stage = .parked .waiting ∨ (∃ result, c.stage = .done result) ∨ c.stage = .givenUp
  else ∀ result, c.stage ≠ .ringing result

/-- What an observer of a run remembers: the takers that have woken to a ring for them alone and are
on their way back to the queue, and how many of those have given up instead. -/
structure Watch where
  carriers : Finset Nat
  lost : Nat

/-- The rings that takers are on their way back with, and those lost. -/
def Watch.borne (w : Watch) : Nat :=
  w.carriers.card + w.lost

/-- What the observer notes at a step. -/
def Watch.next (w : Watch) (h : Hall) : HallStep → Watch
  | .wake i =>
    match h.callers[i]? with
    | some ⟨_, .parked .rungAlone⟩ => { w with carriers := insert i w.carriers }
    | _ => w
  | .act i => { w with carriers := w.carriers.erase i }
  | .giveUp i => if i ∈ w.carriers then ⟨w.carriers.erase i, w.lost + 1⟩ else w
  | .call _ | .arm _ | .block _ | .enter _ | .ring _ | .leave _ => w

namespace Hall

/-- What the observer has noted at the end of a run. -/
def watch (h : Hall) (w : Watch) : List HallStep → Watch
  | [] => w
  | s :: ss => (h.step s).elim w fun h' => h'.watch (w.next h s) ss

/-- The number of takers that gave up on their way back to the queue, after they had woken to a ring
for them alone. -/
def lostRings (h : Hall) (ss : List HallStep) : Nat :=
  (h.watch ⟨∅, 0⟩ ss).lost

/-- All rings that calls have on their way. -/
def rings (h : Hall) : Nat :=
  (h.callers.map Caller.rings).sum

/-- No call makes a step by itself. -/
def Quiescent (h : Hall) : Prop :=
  ∀ c ∈ h.callers, c.AtRest

variable {h h' : Hall} {s : HallStep} {ss : List HallStep} {w : Watch} {i j k : Nat}
  {errand : Errand} {stage : Stage} {ticket : Ticket} {r : Reference} {c : Caller}

/-! ## The rings on their way -/

/-- One entry of a list comes to weigh something else. -/
theorem sum_map_modify {α : Type} {l : List α} {i : Nat} {a : α} (weight : α → Nat) (f : α → α)
    (hi : l[i]? = some a) :
    ((l.modify i f).map weight).sum + weight a = (l.map weight).sum + weight (f a) := by
  induction l generalizing i with
  | nil => simp at hi
  | cons x xs ih =>
    cases i with
    | zero =>
      obtain rfl : x = a := by simpa using hi
      simp only [List.modify_zero_cons, List.map_cons, List.sum_cons]
      omega
    | succ i =>
      have h := ih (by simpa using hi)
      simp only [List.modify_succ_cons, List.map_cons, List.sum_cons]
      omega

theorem rings_move (stage : Stage) (hi : h.callers[i]? = some c) :
    (h.move i stage).rings + c.rings = h.rings + Caller.rings ⟨c.errand, stage⟩ :=
  sum_map_modify Caller.rings (fun c => { c with stage := stage }) hi

theorem rings_ringFor (ticket : Ticket) (hi : h.callers[i]? = some c) :
    (h.ringFor ticket i).rings + c.rings = h.rings + Caller.rings ⟨c.errand, mark ticket c.stage⟩ :=
  sum_map_modify Caller.rings (fun c => { c with stage := mark ticket c.stage }) hi

/-- A taker with a ticket has a ring on its way if that was for it alone. -/
theorem rings_of_ticket (ticket : Ticket) {c : Caller} (ht : c.stage.ticket? = some ticket) :
    c.rings = if ticket = .rungAlone then 1 else 0 := by
  obtain ⟨errand, stage⟩ := c
  rcases stage with _ | _ | _ | _ | _ | _ | _ | _ | _ <;> simp_all [Stage.ticket?, Caller.rings]

theorem rings_of_no_ticket {c : Caller} (ht : c.stage.ticket? = none)
    (hr : ∀ result, c.stage ≠ .ringing result) : c.rings = 0 := by
  obtain ⟨errand, stage⟩ := c
  rcases stage with _ | _ | _ | _ | _ | _ | _ | _ | _ <;> simp_all [Stage.ticket?, Caller.rings]

/-- While somebody waits, a ring for one goes to a taker, and so is still on its way. -/
theorem rings_ringOne (hb : Bell h) (hws : h.waiters ≠ []) : h.ringOne.rings = h.rings + 1 := by
  obtain ⟨i, rest, hws⟩ := List.exists_cons_of_ne_nil hws
  have hi : h.ticketOf i = some .waiting := (hb.waiting i).1 (by simp [hws])
  obtain ⟨c, hc, ht⟩ := Option.bind_eq_some_iff.1 hi
  have hm := rings_ringFor (h := { h with waiters := rest }) .rungAlone hc
  have hmark : (Caller.mk c.errand (mark .rungAlone c.stage)).rings = 1 := by
    refine rings_of_ticket .rungAlone ?_
    rw [ticket?_mark, ht]
    rfl
  rw [rings_of_ticket .waiting ht, hmark] at hm
  rw [ringOne_cons hws]
  exact hm

/-! ## What holds in every reachable state -/

/-- **While somebody waits, as many rings are on their way, or lost, as references are held**; and
if the queue is closed, somebody has still to ring for all. -/
structure Heard (h : Hall) (w : Watch) : Prop where
  bell : Bell h
  carriers : ∀ i ∈ w.carriers, h.Searching i
  enough : h.Parked → h.queue.held.length ≤ h.rings + w.borne
  closing : h.Parked → h.queue.closed = true → h.Closing

theorem heard_empty : Heard empty ⟨∅, 0⟩ where
  bell := ⟨by intro i; simp [empty, ticketOf], List.nodup_nil, by simp [empty], by
    intro i c hi; simp [empty] at hi⟩
  carriers := by simp
  enough := by rintro ⟨i, errand, hi⟩; simp [empty] at hi
  closing := by rintro ⟨i, errand, hi⟩; simp [empty] at hi

theorem borne_erase_of_notMem (hi : i ∉ w.carriers) :
    ({ w with carriers := w.carriers.erase i } : Watch) = w := by
  rw [Finset.erase_eq_of_notMem hi]

theorem borne_le_erase : w.borne ≤ ({ w with carriers := w.carriers.erase i } : Watch).borne + 1 := by
  have hcard : w.carriers.card - 1 ≤ (w.carriers.erase i).card := Finset.pred_card_le_card_erase
  simp only [Watch.borne]
  omega

namespace Heard

variable {w' : Watch}

theorem notMem_carriers (hh : Heard h w) (hi : h.callers[i]? = some c)
    (hn : c.errand = .take → c.stage.searching = false) : i ∉ w.carriers := by
  intro hw
  obtain ⟨stage, hi', hs⟩ := hh.carriers i hw
  rw [hi] at hi'
  cases hi'
  rw [hn rfl] at hs
  cases hs

/-- A step that leaves the queue alone, makes nobody wait, and loses no ring. -/
theorem quiet (hh : Heard h w) (hq : h'.queue = h.queue) (hb : Bell h')
    (hp : h'.Parked → h.Parked) (hc : h.Closing → h'.Closing)
    (hs : ∀ j ∈ w'.carriers, h'.Searching j)
    (hr : h'.Parked → h.rings + w.borne ≤ h'.rings + w'.borne) : Heard h' w' where
  bell := hb
  carriers := hs
  enough hp' := by
    rw [hq]
    exact (hh.enough (hp hp')).trans (hr hp')
  closing hp' hcl := hc (hh.closing (hp hp') (hq ▸ hcl))

/-- One call moves on. -/
theorem moved (hh : Heard h w) (hi : h.callers[i]? = some c) (hb : Bell (h.move i stage))
    (hp : stage ≠ .parked .waiting) (hc : c.errand = .close → ∀ result, c.stage ≠ .ringing result)
    (hs : ∀ j ∈ w'.carriers, (h.move i stage).Searching j)
    (hr : c.rings + w.borne ≤ Caller.rings ⟨c.errand, stage⟩ + w'.borne) :
    Heard (h.move i stage) w' := by
  refine hh.quiet rfl hb (parked_of_move hp) (closing_move · hi hc) hs fun _ => ?_
  have hm := rings_move stage hi
  omega

/-- A call does its work under the lock. -/
theorem acted {q : Queue} (hh : Heard h w) (hi : h.callers[i]? = some c)
    (hw : stage.ticket? = some .waiting ↔ c.stage.ticket? = some .waiting)
    (ht : stage.ticket? ≠ none → c.errand = .take)
    (he : ({ h with queue := q }.unlock.move i stage).Parked → q.held.length ≤
      ({ h with queue := q }.unlock.move i stage).rings +
        ({ w with carriers := w.carriers.erase i } : Watch).borne)
    (hc : ({ h with queue := q }.unlock.move i stage).Parked → q.closed = true →
      ({ h with queue := q }.unlock.move i stage).Closing) :
    Heard ({ h with queue := q }.unlock.move i stage)
      { w with carriers := w.carriers.erase i } where
  bell := by
    have hb : Bell { h with queue := q }.unlock :=
      ⟨hh.bell.waiting, hh.bell.nodup, hh.bell.stored, hh.bell.taker⟩
    exact hb.move hi hw ht
  carriers j hj := by
    obtain ⟨hji, hj⟩ := Finset.mem_erase.1 hj
    exact searching_move (h := { h with queue := q }.unlock) (hh.carriers j hj)
      fun hij => absurd hij.symm hji
  enough := he
  closing := hc

/-- A taker that looks at the queue uses up the ring it came with, and takes a reference for it. -/
theorem actTake (hh : Heard h w) (hi : h.callers[i]? = some ⟨.take, .inside (some ticket)⟩) :
    Heard (h.actTake i ticket) { w with carriers := w.carriers.erase i } := by
  rcases actTake_cases h i ticket with ⟨r, rest, hq, heq⟩ | ⟨hq, hc, heq⟩ | ⟨hq, hc, heq⟩
  · -- one reference less, and at most one ring less
    rw [heq]
    refine hh.acted hi Iff.rfl (fun _ => rfl) ?_ ?_
    · intro hp
      have hen := hh.enough (parked_of_move (h := h.unlock) (by simp) hp)
      rw [hq, List.length_cons] at hen
      have hm := rings_move (h := { h with queue := { h.queue with held := rest } }.unlock)
        (.leaving ticket (.got r)) hi
      rw [rings_of_ticket ticket rfl, rings_of_ticket ticket rfl] at hm
      have hb := borne_le_erase (w := w) (i := i)
      change rest.length ≤ _
      change _ = h.rings + _ at hm
      omega
    · intro hp hcl
      have hcl' := hh.closing (parked_of_move (h := h.unlock) (by simp) hp) hcl
      exact closing_move (h := { h with queue := { h.queue with held := rest } }.unlock) hcl' hi
        (by simp)
  · -- nothing is held, so no ring is needed
    rw [heq]
    refine hh.acted (q := h.queue) hi Iff.rfl (fun _ => rfl) ?_ ?_
    · intro _
      rw [hq]
      exact Nat.zero_le _
    · intro hp _
      have hcl := hh.closing (parked_of_move (h := h.unlock) (by simp) hp) hc
      exact closing_move (h := h.unlock) hcl hi (by simp)
  · -- the taker is about to wait, at a queue that is empty and open
    rw [heq]
    refine hh.acted (q := h.queue) hi Iff.rfl (fun _ => rfl) ?_ ?_
    · intro _
      rw [hq]
      exact Nat.zero_le _
    · intro _ hcl
      rw [hc] at hcl
      cases hcl

/-- A reference put in comes with a ring to give. -/
theorem actPut {held : Option Ticket} (hh : Heard h w)
    (hi : h.callers[i]? = some ⟨errand, .inside held⟩) (hr : errand.brings? = some r) :
    Heard (h.actPut i r) { w with carriers := w.carriers.erase i } := by
  have he : errand ≠ .take := by rintro rfl; cases hr
  have hcl : errand ≠ .close := by rintro rfl; cases hr
  have hheld : held = none := by
    by_contra hne
    exact he (hh.bell.taker i _ hi hne)
  subst hheld
  have hni : i ∉ w.carriers := hh.notMem_carriers hi (fun h => absurd h he)
  rcases actPut_cases h i r with ⟨hc, heq⟩ | ⟨hc, heq⟩
  · -- accepted: one reference more, and one ring to give
    rw [heq]
    refine hh.acted hi (by simp [Stage.ticket?]) (by simp [Stage.ticket?]) ?_ ?_
    · intro hp
      have hen := hh.enough (parked_of_move (h := h.unlock) (by simp) hp)
      have hm := rings_move
        (h := { h with queue := { h.queue with held := Queue.insert r h.queue.held } }.unlock)
        (.ringing .accepted) hi
      have h₀ : Caller.rings ⟨errand, .inside none⟩ = 0 := rings_of_no_ticket rfl (by simp)
      have h₁ : Caller.rings ⟨errand, .ringing .accepted⟩ = 1 := by
        cases errand <;> first | rfl | exact absurd rfl hcl
      rw [h₀, h₁] at hm
      change _ = h.rings + _ at hm
      rw [borne_erase_of_notMem hni]
      change (Queue.insert r h.queue.held).length ≤ _
      rw [Queue.length_insert]
      omega
    · intro _ hcl'
      change h.queue.closed = true at hcl'
      rw [hc] at hcl'
      cases hcl'
  · rw [heq]
    refine hh.acted (q := h.queue) hi (by simp [Stage.ticket?]) (by simp [Stage.ticket?]) ?_ ?_
    · intro hp
      have hen := hh.enough (parked_of_move (h := h.unlock) (by simp) hp)
      have hm := rings_move (h := h.unlock) (.done (.refused .closed)) hi
      rw [rings_of_no_ticket (c := ⟨errand, .inside none⟩) rfl (by simp),
        rings_of_no_ticket (c := ⟨errand, .done _⟩) rfl (by simp)] at hm
      change _ = h.rings + _ at hm
      rw [borne_erase_of_notMem hni]
      change _ ≤ (h.unlock.move i (.done (.refused .closed))).rings + _
      omega
    · intro hp _
      have hcl' := hh.closing (parked_of_move (h := h.unlock) (by simp) hp) hc
      exact closing_move (h := h.unlock) hcl' hi (by simp)

/-- Whoever closes the queue is about to ring for all. -/
theorem actClose {held : Option Ticket} (hh : Heard h w)
    (hi : h.callers[i]? = some ⟨.close, .inside held⟩) :
    Heard ({ h with queue := h.queue.close }.unlock.move i (.ringing .accepted))
      { w with carriers := w.carriers.erase i } := by
  have hheld : held = none := by
    by_contra hne
    cases hh.bell.taker i _ hi hne
  subst hheld
  have hni : i ∉ w.carriers := hh.notMem_carriers hi (by simp)
  refine hh.acted hi (by simp [Stage.ticket?]) (by simp [Stage.ticket?]) ?_ ?_
  · intro hp
    have hen := hh.enough (parked_of_move (h := h.unlock) (by simp) hp)
    have hm := rings_move (h := { h with queue := h.queue.close }.unlock)
      (.ringing .accepted) hi
    rw [rings_of_no_ticket (c := ⟨.close, .inside none⟩) rfl (by simp)] at hm
    change _ = h.rings + 0 at hm
    rw [borne_erase_of_notMem hni]
    change h.queue.held.length ≤ _
    omega
  · intro _ _
    exact ⟨i, .accepted, callers_move_self (h := { h with queue := h.queue.close }.unlock) hi⟩

/-- A taker that leaves with a ring it has not woken to passes it on. -/
theorem handIn (hh : Heard h w) (hi : h.callers[i]? = some c)
    (hc : c.stage.ticket? = some ticket) (hs : stage.ticket? = none)
    (hr : ∀ result, stage ≠ .ringing result)
    (hcar : ∀ j ∈ w'.carriers, j ≠ i ∧ j ∈ w.carriers) (hw : w.borne ≤ w'.borne) :
    Heard ((h.move i stage).handIn i ticket) w' := by
  have hp : stage ≠ .parked .waiting := by rintro rfl; cases hs
  have hring : ∀ result, c.stage ≠ .ringing result := by
    intro result heq
    rw [heq] at hc
    cases hc
  have hm := rings_move stage hi
  rw [rings_of_ticket ticket hc, rings_of_no_ticket (c := ⟨c.errand, stage⟩) hs hr] at hm
  refine hh.quiet marked_handIn.queue (hh.bell.handIn hi hc hs)
    (fun hp' => parked_of_move hp (marked_handIn.parked hp'))
    (fun hcl => marked_handIn.closing (closing_move hcl hi fun _ => hring)) ?_ ?_
  · intro j hj
    obtain ⟨hji, hj⟩ := hcar j hj
    exact marked_handIn.searching (searching_move (hh.carriers j hj) fun hij => absurd hij.symm hji)
  · intro hp'
    cases ticket with
    | rungAlone =>
      -- somebody waits, so the ring is not stored but goes to the next
      have hb : Bell (h.move i stage) := hh.bell.move hi (by simp [hc, hs]) (by simp [hs])
      have hws := waiters_ne_nil hb (marked_ringOne.parked hp')
      have h₁ := rings_ringOne hb hws
      change _ ≤ (h.move i stage).ringOne.rings + _
      simp only [if_true] at hm
      omega
    | waiting | rungAll | usedStored =>
      change _ ≤ (h.move i stage).rings + _
      simp only [reduceCtorEq, if_false] at hm
      omega

/-- A put rings the bell for one taker. -/
theorem ringOne {result : CallResult} (hh : Heard h w)
    (hi : h.callers[i]? = some ⟨errand, .ringing result⟩) (he : errand ≠ .close) :
    Heard (h.ringOne.move i (.done result)) w := by
  -- the ring changes no call without a ticket
  have hi' : h.ringOne.callers[i]? = some ⟨errand, .ringing result⟩ := by
    rcases marked_ringOne.callers (h := h) i with hj | ⟨ticket, -, hj⟩
    · exact hj.trans hi
    · rw [hj, hi]
      rfl
  have hni : i ∉ w.carriers := hh.notMem_carriers hi (fun _ => rfl)
  refine hh.quiet marked_ringOne.queue (hh.bell.ringOne.move hi' (by simp [Stage.ticket?])
    (by simp [Stage.ticket?])) (fun hp => marked_ringOne.parked (parked_of_move (by simp) hp))
    (fun hcl => closing_move (marked_ringOne.closing hcl) hi' fun h => absurd h he) ?_ ?_
  · intro j hj
    exact searching_move (marked_ringOne.searching (hh.carriers j hj))
      fun hij => absurd (hij ▸ hj) hni
  · intro hp
    -- the ring given is now that of a taker
    have hp' := marked_ringOne.parked (parked_of_move (by simp) hp)
    have h₁ := rings_ringOne hh.bell (waiters_ne_nil hh.bell hp')
    have hm := rings_move (.done result) hi'
    have hr : Caller.rings ⟨errand, .ringing result⟩ = 1 := by
      cases errand <;> first | rfl | exact absurd rfl he
    rw [hr, rings_of_no_ticket (c := ⟨errand, .done result⟩) rfl (by simp)] at hm
    omega

/-- A close rings for all, and then nobody waits. -/
theorem ringAll {result : CallResult} (hh : Heard h w)
    (hi : h.callers[i]? = some ⟨.close, .ringing result⟩) :
    Heard (h.ringAll.move i (.done result)) w := by
  have hi' : h.ringAll.callers[i]? = some ⟨.close, .ringing result⟩ := by
    rcases marked_ringAll.callers (h := h) i with hj | ⟨ticket, -, hj⟩
    · exact hj.trans hi
    · rw [hj, hi]
      rfl
  have hni : i ∉ w.carriers := hh.notMem_carriers hi (fun _ => rfl)
  have hnp : ¬ (h.ringAll.move i (.done result)).Parked := by
    intro hp
    exact not_parked_ringAll hh.bell (parked_of_move (by simp) hp)
  refine ⟨hh.bell.ringAll.move hi' (by simp [Stage.ticket?]) (by simp [Stage.ticket?]), ?_,
    fun hp => absurd hp hnp, fun hp => absurd hp hnp⟩
  intro j hj
  exact searching_move (marked_ringAll.searching (hh.carriers j hj))
    fun hij => absurd (hij ▸ hj) hni

/-- A new call is neither waiting nor has it a ring to give. -/
theorem call (hh : Heard h w) (errand : Errand) :
    Heard { h with callers := h.callers ++ [⟨errand, .ready⟩] } w := by
  have hold {j : Nat} {c : Caller} (hj : h.callers[j]? = some c) :
      (h.callers ++ [⟨errand, .ready⟩])[j]? = some c :=
    (List.getElem?_append_left (List.getElem?_eq_some_iff.1 hj).1).trans hj
  refine hh.quiet rfl hh.bell.call ?_ ?_ ?_ ?_
  · rintro ⟨j, errand', hj⟩
    rcases callers_call hj with hold | ⟨-, hnew⟩
    · exact ⟨j, errand', hold⟩
    · cases hnew
  · rintro ⟨j, result, hj⟩
    exact ⟨j, result, hold hj⟩
  · intro j hj
    obtain ⟨stage, hj, hs⟩ := hh.carriers j hj
    exact ⟨stage, hold hj, hs⟩
  · intro _
    have hr : Caller.rings ⟨errand, .ready⟩ = 0 := rings_of_no_ticket rfl (by simp)
    simp [rings, hr]

/-- A taker registers. -/
theorem register (hh : Heard h w) (hi : h.callers[i]? = some ⟨.take, .ready⟩) :
    Heard (h.register i) w := by
  have hb := hh.bell.register hi
  have hs {stage : Stage} (hs : stage.searching = true) :
      ∀ j ∈ w.carriers, (h.move i stage).Searching j :=
    fun j hj => searching_move (hh.carriers j hj) fun _ => hs
  unfold Hall.register at hb ⊢
  split at hb
  · rename_i hst
    rw [if_pos hst]
    have hh' : Heard (h.move i (.entering (some .usedStored))) w :=
      hh.moved hi (hh.bell.move hi (by simp [Stage.ticket?]) fun _ => rfl) (by simp) (by simp)
        (hs rfl) (by simp [Caller.rings, Stage.ticket?])
    exact ⟨hb, hh'.carriers, hh'.enough, hh'.closing⟩
  · rename_i hst
    rw [if_neg hst]
    refine hh.quiet rfl hb (parked_of_move (by simp)) (closing_move · hi (by simp)) (hs rfl) ?_
    intro _
    have hm := rings_move (.entering (some .waiting)) hi
    rw [rings_of_no_ticket (c := ⟨.take, .ready⟩) rfl (by simp),
      rings_of_ticket .waiting rfl] at hm
    simp only [reduceCtorEq, if_false] at hm
    change _ ≤ (h.move i (.entering (some .waiting))).rings + _
    omega

/-- A call on its way to the queue comes nearer to it, and keeps its ticket. -/
theorem approach {from_ : Stage} (hh : Heard h w) (hi : h.callers[i]? = some ⟨errand, from_⟩)
    (hf : from_.searching = true) (hs : stage.searching = true)
    (ht : stage.ticket? = from_.ticket?) : Heard (h.move i stage) w := by
  have hring {stage : Stage} (hs : stage.searching = true) : ∀ result, stage ≠ .ringing result := by
    rintro result rfl
    cases hs
  refine hh.moved hi (hh.bell.move hi (by rw [ht]) ?_) (by rintro rfl; cases hs)
    (fun _ => hring hf) ?_ ?_
  · intro hne
    exact hh.bell.taker i _ hi (ht ▸ hne)
  · intro j hj
    exact searching_move (hh.carriers j hj) fun _ => hs
  · apply Nat.le_of_eq
    congr 1
    cases hf' : from_.ticket? with
    | some ticket => rw [rings_of_ticket ticket hf', rings_of_ticket ticket (ht.trans hf')]
    | none => rw [rings_of_no_ticket hf' (hring hf), rings_of_no_ticket (ht.trans hf') (hring hs)]

/-- A taker wakes: a ring that was for it alone it now bears. -/
theorem wake (hh : Heard h w) (hi : h.callers[i]? = some ⟨errand, .parked ticket⟩)
    (hne : ticket ≠ .waiting) : Heard (h.move i .ready) (w.next h (.wake i)) := by
  obtain rfl : errand = .take := hh.bell.taker i _ hi (by simp [Stage.ticket?])
  have hb : Bell (h.move i .ready) :=
    hh.bell.move hi (by simp [Stage.ticket?, hne]) (by simp [Stage.ticket?])
  have hni : i ∉ w.carriers := hh.notMem_carriers hi (fun _ => rfl)
  have hself : (h.move i .ready).Searching i := ⟨.ready, callers_move_self hi, rfl⟩
  have hcar {j : Nat} (hj : j ∈ w.carriers) : (h.move i .ready).Searching j :=
    searching_move (hh.carriers j hj) fun _ => rfl
  have h₀ : Caller.rings ⟨.take, .ready⟩ = 0 := rings_of_no_ticket rfl (by simp)
  cases ticket with
  | waiting => exact absurd rfl hne
  | rungAlone =>
    -- the ring moves from the ticket to the observer's notes
    have hw : w.next h (.wake i) = { w with carriers := insert i w.carriers } := by
      simp [Watch.next, hi]
    rw [hw]
    refine hh.moved hi hb (by simp) (by simp) ?_ ?_
    · intro j hj
      rcases Finset.mem_insert.1 hj with rfl | hj
      · exact hself
      · exact hcar hj
    · rw [rings_of_ticket .rungAlone rfl, h₀]
      simp only [Watch.borne, Finset.card_insert_of_notMem hni, if_true]
      omega
  | rungAll | usedStored =>
    have hw : w.next h (.wake i) = w := by simp [Watch.next, hi]
    rw [hw]
    exact hh.moved hi hb (by simp) (by simp) (fun j hj => hcar hj)
      (by simp [Caller.rings, Stage.ticket?])

/-- A taker gives up: if it was on its way back with a ring, that ring is lost. -/
theorem next_giveUp (w : Watch) (h : Hall) (i : Nat) :
    (∀ j ∈ (w.next h (.giveUp i)).carriers, j ≠ i ∧ j ∈ w.carriers) ∧
      w.borne ≤ (w.next h (.giveUp i)).borne := by
  simp only [Watch.next]
  split
  · rename_i hi
    refine ⟨fun j hj => Finset.mem_erase.1 hj, ?_⟩
    have hcard := Finset.card_erase_add_one hi
    simp only [Watch.borne]
    omega
  · rename_i hi
    refine ⟨fun j hj => ⟨?_, hj⟩, le_rfl⟩
    rintro rfl
    exact hi hj

end Heard

theorem heard_step (hh : Heard h w) (hs : h.step s = some h') : Heard h' (w.next h s) := by
  cases Move.of_step hs with
  | call errand => exact hh.call errand
  | armTake hi => exact hh.register hi
  | armMalformed hi _ =>
    have hni := hh.notMem_carriers hi (by simp)
    refine hh.moved hi (hh.bell.move hi (by simp [Stage.ticket?]) (by simp [Stage.ticket?]))
      (by simp) (by simp) ?_ (by simp [Watch.next, Caller.rings, Stage.ticket?])
    intro j hj
    exact searching_move (hh.carriers j hj) fun hij => absurd (hij ▸ hj) hni
  | armOther hi _ => exact hh.approach hi rfl rfl rfl
  | block hi => exact hh.approach hi rfl rfl rfl
  | @enter i errand stage ticket hi hst =>
    have hh' : Heard { h with lock := some i } w :=
      ⟨⟨hh.bell.waiting, hh.bell.nodup, hh.bell.stored, hh.bell.taker⟩, hh.carriers, hh.enough,
        hh.closing⟩
    rcases hst with rfl | rfl <;> exact hh'.approach hi rfl rfl rfl
  | actTake hi => exact hh.actTake hi
  | actPut hi hr => exact hh.actPut hi hr
  | actClose hi => exact hh.actClose hi
  | ringAll hi => exact hh.ringAll hi
  | ringOne hi he => exact hh.ringOne hi he
  | wake hi hne => exact hh.wake hi hne
  | leave hi =>
    -- a taker that has its result is past its search
    have hni := hh.notMem_carriers hi (fun _ => rfl)
    refine hh.handIn hi rfl rfl (by simp) ?_ le_rfl
    intro j hj
    refine ⟨?_, hj⟩
    rintro rfl
    exact hni hj
  | @giveUp i errand hi =>
    obtain ⟨hcar, hw⟩ := Heard.next_giveUp w h i
    refine hh.moved hi (hh.bell.move hi (by simp [Stage.ticket?]) (by simp [Stage.ticket?]))
      (by simp) (by simp) ?_ ?_
    · intro j hj
      obtain ⟨hji, hj⟩ := hcar j hj
      exact searching_move (hh.carriers j hj) fun hij => absurd hij.symm hji
    · rw [rings_of_no_ticket (c := ⟨errand, .blocked none⟩) rfl (by simp)]
      omega
  | @giveUpTicket i errand stage ticket hi hst =>
    obtain ⟨hcar, hw⟩ := Heard.next_giveUp w h i
    refine hh.handIn hi ?_ rfl (by simp) hcar hw
    rcases hst with rfl | rfl <;> rfl

theorem heard_run (hh : Heard h w) (hr : h.run ss = some h') : Heard h' (h.watch w ss) := by
  induction ss generalizing h w with
  | nil =>
    cases hr
    exact hh
  | cons s ss ih =>
    obtain ⟨h₁, hs, hr⟩ := Option.bind_eq_some_iff.1 hr
    have hw : h.watch w (s :: ss) = h₁.watch (w.next h s) ss := by simp [watch, hs]
    rw [hw]
    exact ih (heard_step hh hs) hr

/-! ## At rest -/

/-- Where no call makes a step by itself, no ring is on its way. -/
theorem rings_of_quiescent (hb : Bell h) (hq : h.Quiescent) : h.rings = 0 := by
  refine List.sum_eq_zero_iff_forall_eq_nat.2 ?_
  intro n hn
  obtain ⟨c, hc, rfl⟩ := List.mem_map.1 hn
  have hr := hq c hc
  obtain ⟨j, hj⟩ := List.getElem?_of_mem hc
  unfold Caller.AtRest at hr
  split at hr
  · rcases hr with hst | ⟨result, hst⟩ | hst <;> simp [Caller.rings, hst, Stage.ticket?]
  · rename_i he
    refine rings_of_no_ticket ?_ hr
    by_contra hne
    exact he (hb.taker j c hj hne)

theorem not_searching_of_quiescent (hq : h.Quiescent) : ¬ h.Searching j := by
  rintro ⟨stage, hj, hs⟩
  have hr := hq _ (List.mem_of_getElem? hj)
  simp only [Caller.AtRest, if_true] at hr
  rcases hr with rfl | ⟨result, rfl⟩ | rfl <;> cases hs

theorem not_closing_of_quiescent (hq : h.Quiescent) : ¬ h.Closing := by
  rintro ⟨j, result, hj⟩
  have hr := hq _ (List.mem_of_getElem? hj)
  simp only [Caller.AtRest, reduceCtorEq, if_false] at hr
  exact hr result rfl

/-- **At rest, no taker waits at a closed queue, and no more references wait with it than takers
gave up on their way back to the queue with a ring.** So where no such ring is lost, no taker waits
unheard while there is a reference for it. -/
theorem stranded_le_lost (hr : empty.run ss = some h) (hq : h.Quiescent) (hp : h.Parked) :
    h.queue.closed = false ∧ h.queue.held.length ≤ empty.lostRings ss := by
  have hh := heard_run heard_empty hr
  have hnc : (empty.watch ⟨∅, 0⟩ ss).carriers = ∅ := by
    rw [Finset.eq_empty_iff_forall_notMem]
    intro j hj
    exact not_searching_of_quiescent hq (hh.carriers j hj)
  constructor
  · -- whoever closed the queue would have a ring to give
    by_contra hc
    exact not_closing_of_quiescent hq (hh.closing hp (by simpa using hc))
  · have hen := hh.enough hp
    rw [rings_of_quiescent hh.bell hq, Watch.borne, hnc, Finset.card_empty] at hen
    unfold lostRings
    omega

/-- Three takers wait; a put rings for the first, which wakes and finds the lock held by another put,
and gives up; that put rings for the second. -/
def strandingRun : List HallStep :=
  [.call .take, .arm 0, .enter 0, .act 0, .call .take, .arm 1, .enter 1, .act 1,
    .call .take, .arm 2, .enter 2, .act 2] ++
  alone (.put (.ofTask 1)) 3 ++
  [.call (.put (.ofTask 2)), .arm 4, .enter 4, .wake 0, .arm 0, .block 0, .act 4, .giveUp 0,
    .ring 4, .wake 1, .arm 1, .enter 1, .act 1, .leave 1]

/-- The third taker waits, though there is a reference for it. -/
def stranded : Hall :=
  ⟨⟨[.ofTask 2], false⟩, none, false, [2],
    [⟨.take, .givenUp⟩, ⟨.take, .done (.got (.ofTask 1))⟩, ⟨.take, .parked .waiting⟩,
      ⟨.put (.ofTask 1), .done .accepted⟩, ⟨.put (.ofTask 2), .done .accepted⟩]⟩

theorem run_strandingRun : empty.run strandingRun = some stranded := by
  decide

theorem quiescent_stranded : stranded.Quiescent := by
  simp [Quiescent, stranded, Caller.AtRest]

theorem parked_stranded : stranded.Parked :=
  ⟨2, .take, rfl⟩

/-- With one ring lost, one reference is left to a taker that waits. -/
theorem stranded_le_lost_one : empty.run strandingRun = some stranded ∧ stranded.Quiescent ∧
    stranded.Parked ∧ stranded.queue.held.length = 1 ∧ empty.lostRings strandingRun = 1 ∧
    (stranded.queue.closed = false ∧
      stranded.queue.held.length ≤ empty.lostRings strandingRun) :=
  ⟨run_strandingRun, quiescent_stranded, parked_stranded, rfl, by decide,
    stranded_le_lost run_strandingRun quiescent_stranded parked_stranded⟩

/-- **A lost ring strands a taker**: at rest, a taker may wait unheard while the queue holds a
reference. -/
theorem lost_ring_strands : ¬ ∀ (ss : List HallStep) (h : Hall), empty.run ss = some h →
    h.Quiescent → h.Parked → h.queue.held = [] ∧ h.queue.closed = false := by
  intro hall
  have hnil := (hall strandingRun stranded run_strandingRun quiescent_stranded parked_stranded).1
  cases hnil

end Hall

end Handoff
