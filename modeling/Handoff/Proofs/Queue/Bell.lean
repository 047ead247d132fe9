import Handoff.Proofs.Queue.Moves
/-!
# The bell

Takers that find nothing wait for the bell. A ring changes the tickets of takers, and nothing else
about calls; and through every step the bell knows exactly those takers that wait.

* `Marked`: between two states, calls got rings and nothing else happened to them.
* `Bell`: the waiters of the bell are the takers whose ticket says that they wait.
* `Bell.ringOne`, `Bell.ringAll`, `Bell.handIn`, `Bell.register`: the bell through each of its
  operations.
* `not_parked_ringAll`: once the bell has rung for all, nobody waits.
-/

namespace Handoff

/-- A taker on its way to the queue, with nothing to wait for but the lock. -/
def Stage.searching : Stage → Bool
  | .ready | .entering _ | .blocked _ | .inside _ => true
  | .parked _ | .ringing _ | .leaving _ _ | .done _ | .givenUp => false

namespace Hall

/-- The ticket of a caller. -/
def ticketOf (h : Hall) (i : Nat) : Option Ticket :=
  h.callers[i]?.bind (·.stage.ticket?)

/-- A taker is on its way to the queue. -/
def Searching (h : Hall) (i : Nat) : Prop :=
  ∃ stage, h.callers[i]? = some ⟨.take, stage⟩ ∧ stage.searching = true

/-- Some call waits for a ring, and the bell has not rung for it. -/
def Parked (h : Hall) : Prop :=
  ∃ (i : Nat) (errand : Errand), h.callers[i]? = some ⟨errand, .parked .waiting⟩

/-- Somebody has closed the queue and has still to ring for all. -/
def Closing (h : Hall) : Prop :=
  ∃ (i : Nat) (result : CallResult), h.callers[i]? = some ⟨.close, .ringing result⟩

variable {h h' : Hall} {i j : Nat} {errand : Errand} {stage : Stage} {ticket : Ticket} {c : Caller}

/-! ## What becomes of callers that move on -/

/-- The callers after a new call. -/
theorem callers_call (hj : (h.callers ++ [⟨errand, .ready⟩])[j]? = some c) :
    h.callers[j]? = some c ∨ (j = h.callers.length ∧ c = ⟨errand, .ready⟩) := by
  rcases Nat.lt_or_ge j h.callers.length with hlt | hge
  · exact .inl ((List.getElem?_append_left hlt).symm.trans hj)
  · rw [List.getElem?_append_right hge, List.getElem?_singleton] at hj
    split at hj <;> cases hj
    exact .inr ⟨by omega, rfl⟩

theorem parked_of_move (hs : stage ≠ .parked .waiting) (hp : (h.move i stage).Parked) :
    h.Parked := by
  obtain ⟨j, errand, hj⟩ := hp
  by_cases hij : i = j
  · subst hij
    cases hi : h.callers[i]? with
    | none => simp [move, hi] at hj
    | some c =>
      rw [callers_move_self hi] at hj
      cases hj
      exact absurd rfl hs
  · rw [callers_move_of_ne hij] at hj
    exact ⟨j, errand, hj⟩

theorem searching_move (hj : h.Searching j) (hij : i = j → stage.searching = true) :
    (h.move i stage).Searching j := by
  obtain ⟨stage', hj, hs⟩ := hj
  by_cases heq : i = j
  · subst heq
    exact ⟨stage, callers_move_self hj, hij rfl⟩
  · exact ⟨stage', (callers_move_of_ne heq).trans hj, hs⟩

theorem closing_move (hc : h.Closing) (hi : h.callers[i]? = some c)
    (hn : c.errand = .close → ∀ result, c.stage ≠ .ringing result) : (h.move i stage).Closing := by
  obtain ⟨j, result, hj⟩ := hc
  have hij : i ≠ j := by
    rintro rfl
    rw [hi] at hj
    cases hj
    exact hn rfl result rfl
  exact ⟨j, result, (callers_move_of_ne hij).trans hj⟩

/-! ## The waiters of the bell -/

/-- The waiters of the bell are the takers whose ticket says that they wait, each of them once; a
ring is in store only where nobody waits; and only takers have tickets. -/
structure Bell (h : Hall) : Prop where
  waiting : ∀ i, i ∈ h.waiters ↔ h.ticketOf i = some .waiting
  nodup : h.waiters.Nodup
  stored : h.stored = true → h.waiters = []
  taker : ∀ (i : Nat) c, h.callers[i]? = some c → c.stage.ticket? ≠ none → c.errand = .take

theorem ticketOf_move (hi : h.callers[i]? = some c) :
    (h.move i stage).ticketOf j = if i = j then stage.ticket? else h.ticketOf j := by
  unfold ticketOf
  split
  · rename_i hj
    rw [← hj, callers_move_self hi]
    rfl
  · rename_i hj
    rw [callers_move_of_ne hj]

theorem ticketOf_ringFor :
    (h.ringFor ticket i).ticketOf j =
      if i = j then (h.ticketOf j).map (fun _ => ticket) else h.ticketOf j := by
  unfold ticketOf
  split
  · rename_i hj
    subst hj
    cases hi : h.callers[i]? with
    | none => simp [ringFor, hi]
    | some c => rw [callers_ringFor_self hi]; exact ticket?_mark
  · rename_i hj
    rw [callers_ringFor_of_ne hj]

theorem ticketOf_eq (hi : h.callers[i]? = some c) : h.ticketOf i = c.stage.ticket? := by
  simp [ticketOf, hi]

/-- A call that moves on and waits as before. -/
theorem Bell.move (hb : Bell h) (hi : h.callers[i]? = some c)
    (hw : stage.ticket? = some .waiting ↔ c.stage.ticket? = some .waiting)
    (ht : stage.ticket? ≠ none → c.errand = .take) : Bell (h.move i stage) where
  waiting j := by
    rw [ticketOf_move hi]
    split
    · rename_i hj
      rw [hw, ← hj, ← ticketOf_eq hi]
      exact hb.waiting i
    · exact hb.waiting j
  nodup := hb.nodup
  stored := hb.stored
  taker j c' hj ht' := by
    by_cases hij : i = j
    · subst hij
      rw [callers_move_self hi] at hj
      cases hj
      exact ht ht'
    · rw [callers_move_of_ne hij] at hj
      exact hb.taker j c' hj ht'

theorem ringOne_nil (hws : h.waiters = []) : h.ringOne = { h with stored := true } := by
  unfold ringOne
  rw [hws]

theorem ringOne_cons {rest : List Nat} (hws : h.waiters = i :: rest) :
    h.ringOne = ({ h with waiters := rest } : Hall).ringFor .rungAlone i := by
  unfold ringOne
  rw [hws]

/-! ## Rings change the tickets of takers, and nothing else about calls -/

/-- Between two states, calls got rings and nothing else happened to them. -/
structure Marked (h h' : Hall) : Prop where
  queue : h'.queue = h.queue
  callers : ∀ j : Nat, h'.callers[j]? = h.callers[j]? ∨ ∃ ticket, ticket ≠ .waiting ∧
    h'.callers[j]? = h.callers[j]?.map fun c => ⟨c.errand, mark ticket c.stage⟩

theorem mark_mark {ticket' : Ticket} : mark ticket (mark ticket' stage) = mark ticket stage := by
  rcases stage with _ | (_ | _) | (_ | _) | (_ | _) | _ | _ | _ | _ | _ <;> rfl

theorem Marked.refl (h : Hall) : Marked h h :=
  ⟨rfl, fun _ => .inl rfl⟩

theorem Marked.trans {h₁ h₂ h₃ : Hall} (h₁₂ : Marked h₁ h₂) (h₂₃ : Marked h₂ h₃) :
    Marked h₁ h₃ := by
  refine ⟨h₂₃.queue.trans h₁₂.queue, fun j => ?_⟩
  rcases h₂₃.callers j with hj | ⟨ticket, hne, hj⟩
  · rw [hj]
    exact h₁₂.callers j
  · refine .inr ⟨ticket, hne, ?_⟩
    rw [hj]
    rcases h₁₂.callers j with hj' | ⟨ticket', _, hj'⟩
    · rw [hj']
    · rw [hj', Option.map_map]
      simp [Function.comp_def, mark_mark]

theorem marked_ringFor (ht : ticket ≠ .waiting) : Marked h (h.ringFor ticket i) := by
  refine ⟨rfl, fun j => ?_⟩
  by_cases hij : i = j
  · subst hij
    refine .inr ⟨ticket, ht, ?_⟩
    simp [ringFor]
  · exact .inl (callers_ringFor_of_ne hij)

theorem marked_ringOne : Marked h h.ringOne := by
  cases hws : h.waiters with
  | nil =>
    rw [ringOne_nil hws]
    exact ⟨rfl, fun _ => .inl rfl⟩
  | cons i rest =>
    rw [ringOne_cons hws]
    have hm : Marked h { h with waiters := rest } := ⟨rfl, fun _ => .inl rfl⟩
    exact hm.trans (marked_ringFor (by simp))

theorem marked_foldl_ringFor {is : List Nat} :
    Marked h (is.foldl (fun h i => h.ringFor .rungAll i) h) := by
  induction is generalizing h with
  | nil => exact .refl h
  | cons i is ih => exact (marked_ringFor (by simp)).trans ih

theorem marked_ringAll : Marked h h.ringAll := by
  have hm : Marked h { h with waiters := [] } := ⟨rfl, fun _ => .inl rfl⟩
  exact hm.trans marked_foldl_ringFor

theorem marked_handIn : Marked h (h.handIn i ticket) := by
  cases ticket with
  | waiting => exact ⟨rfl, fun _ => .inl rfl⟩
  | rungAlone => exact marked_ringOne
  | rungAll | usedStored => exact .refl h

namespace Marked

variable (hm : Marked h h')
include hm

theorem searching (hj : h.Searching j) : h'.Searching j := by
  obtain ⟨stage, hj, hs⟩ := hj
  rcases hm.callers j with hj' | ⟨ticket, -, hj'⟩
  · exact ⟨stage, hj'.trans hj, hs⟩
  · rw [hj] at hj'
    refine ⟨mark ticket stage, hj', ?_⟩
    rcases stage with _ | (_ | _) | (_ | _) | (_ | _) | _ | _ | _ | _ | _ <;> exact hs

theorem closing (hc : h.Closing) : h'.Closing := by
  obtain ⟨j, result, hj⟩ := hc
  rcases hm.callers j with hj' | ⟨ticket, -, hj'⟩
  · exact ⟨j, result, hj'.trans hj⟩
  · rw [hj] at hj'
    exact ⟨j, result, hj'⟩

/-- A ring leaves nobody waiting who did not wait before. -/
theorem parked (hp : h'.Parked) : h.Parked := by
  obtain ⟨j, errand, hj⟩ := hp
  rcases hm.callers j with hj' | ⟨ticket, hne, hj'⟩
  · exact ⟨j, errand, hj'.symm.trans hj⟩
  · rw [hj, eq_comm, Option.map_eq_some_iff] at hj'
    obtain ⟨⟨errand', stage⟩, hc, heq⟩ := hj'
    exfalso
    apply hne
    rcases stage with _ | (_ | _) | (_ | _) | (_ | _) | _ | _ | _ | _ | _ <;> cases heq
    rfl

theorem taker (ht : ∀ (j : Nat) c, h.callers[j]? = some c → c.stage.ticket? ≠ none →
    c.errand = .take) (j : Nat) (c : Caller) (hj : h'.callers[j]? = some c)
    (hc : c.stage.ticket? ≠ none) : c.errand = .take := by
  rcases hm.callers j with hj' | ⟨ticket, -, hj'⟩
  · exact ht j c (hj'.symm.trans hj) hc
  · rw [hj, eq_comm, Option.map_eq_some_iff] at hj'
    obtain ⟨c₀, hc₀, rfl⟩ := hj'
    refine ht j c₀ hc₀ ?_
    intro hn
    rw [ticket?_mark, hn] at hc
    exact hc rfl

end Marked

/-! ## The bell through each of its operations -/

namespace Bell

/-- The first waiter is rung for, or a ring is stored. -/
theorem ringOne (hb : Bell h) : Bell h.ringOne := by
  have htaker := marked_ringOne.taker hb.taker
  cases hws : h.waiters with
  | nil =>
    rw [ringOne_nil hws] at htaker ⊢
    exact ⟨hb.waiting, hb.nodup, fun _ => hws, htaker⟩
  | cons i rest =>
    -- the first waiter leaves the list, and its ticket says so
    rw [ringOne_cons hws] at htaker ⊢
    have hnd := hb.nodup
    rw [hws] at hnd
    obtain ⟨hir, hrest⟩ := List.nodup_cons.1 hnd
    refine ⟨?_, hrest, ?_, htaker⟩
    · intro j
      have hj := hb.waiting j
      rw [hws, List.mem_cons] at hj
      rw [ticketOf_ringFor]
      change j ∈ rest ↔ (if i = j then (h.ticketOf j).map _ else h.ticketOf j) = some .waiting
      split
      · rename_i hij
        subst hij
        cases h.ticketOf i <;> simp [hir]
      · rename_i hij
        rw [← hj]
        exact ⟨.inr, fun h => h.resolve_left (Ne.symm hij)⟩
    · intro hst
      have hnil := hb.stored hst
      rw [hws] at hnil
      cases hnil

end Bell

theorem ticketOf_foldl_ringFor {is : List Nat} :
    (is.foldl (fun h i => h.ringFor .rungAll i) h).ticketOf j =
      if j ∈ is then (h.ticketOf j).map (fun _ => .rungAll) else h.ticketOf j := by
  induction is generalizing h with
  | nil => rfl
  | cons i is ih =>
    rw [List.foldl_cons, ih, ticketOf_ringFor]
    by_cases hij : i = j
    · subst hij
      cases h.ticketOf i <;> simp
    · simp [hij, Ne.symm hij]

theorem foldl_ringFor_bell {is : List Nat} :
    (is.foldl (fun h i => h.ringFor .rungAll i) h).waiters = h.waiters ∧
      (is.foldl (fun h i => h.ringFor .rungAll i) h).stored = h.stored := by
  induction is generalizing h with
  | nil => exact ⟨rfl, rfl⟩
  | cons i is ih => exact ih

/-- Once the bell has rung for all, nobody waits. -/
theorem ticketOf_ringAll (hb : Bell h) : h.ringAll.ticketOf j ≠ some .waiting := by
  unfold ringAll
  rw [ticketOf_foldl_ringFor]
  split
  · change (h.ticketOf j).map _ ≠ _
    cases h.ticketOf j <;> simp
  · rename_i hj
    change h.ticketOf j ≠ _
    rwa [Ne, ← hb.waiting j]

theorem not_parked_ringAll (hb : Bell h) : ¬ h.ringAll.Parked := by
  rintro ⟨j, errand, hj⟩
  refine ticketOf_ringAll hb (j := j) ?_
  rw [ticketOf_eq hj]
  rfl

theorem waiters_ne_nil (hb : Bell h) (hp : h.Parked) : h.waiters ≠ [] := by
  obtain ⟨j, errand, hj⟩ := hp
  have hw := (hb.waiting j).2 (by rw [ticketOf_eq hj]; rfl)
  exact List.ne_nil_of_mem hw

namespace Bell

theorem ringAll (hb : Bell h) : Bell h.ringAll where
  waiting j := by
    have hw : h.ringAll.waiters = [] := foldl_ringFor_bell.1
    rw [hw]
    exact ⟨fun hj => absurd hj List.not_mem_nil, fun hj => absurd hj (ticketOf_ringAll hb)⟩
  nodup := by
    have hw : h.ringAll.waiters = [] := foldl_ringFor_bell.1
    rw [hw]
    exact List.nodup_nil
  stored _ := foldl_ringFor_bell.1
  taker := marked_ringAll.taker hb.taker

/-- A taker that leaves the queue hands in its ticket. -/
theorem handIn (hb : Bell h) (hi : h.callers[i]? = some c) (hc : c.stage.ticket? = some ticket)
    (hs : stage.ticket? = none) : Bell ((h.move i stage).handIn i ticket) := by
  -- where the taker did not wait, it just moves on
  have hmove (hne : ticket ≠ .waiting) : Bell (h.move i stage) :=
    hb.move hi (by simp [hc, hs, hne]) (by simp [hs])
  cases ticket with
  | rungAlone => exact (hmove (by simp)).ringOne
  | rungAll => exact hmove (by simp)
  | usedStored => exact hmove (by simp)
  | waiting =>
    refine ⟨?_, hb.nodup.filter _, ?_, ?_⟩
    · intro j
      change j ∈ h.waiters.filter (· ≠ i) ↔ (h.move i stage).ticketOf j = _
      rw [ticketOf_move hi, List.mem_filter, hb.waiting j]
      by_cases hij : i = j
      · simp [hij, hs]
      · simp [hij, Ne.symm hij]
    · intro hst
      change h.waiters.filter (· ≠ i) = []
      rw [hb.stored hst]
      rfl
    · intro j c' hj ht
      by_cases hij : i = j
      · subst hij
        have hj' : some (Caller.mk c.errand stage) = some c' :=
          (callers_move_self hi).symm.trans hj
        cases hj'
        exact absurd hs ht
      · exact hb.taker j c' ((callers_move_of_ne hij).symm.trans hj) ht

/-- A taker registers: it uses up the stored ring, or it joins the waiters. -/
theorem register (hb : Bell h) (hi : h.callers[i]? = some ⟨.take, .ready⟩) :
    Bell (h.register i) := by
  unfold Hall.register
  split
  · rename_i hst
    have hb' : Bell { h with stored := false } := ⟨hb.waiting, hb.nodup, by simp, hb.taker⟩
    exact hb'.move hi (by simp [Stage.ticket?]) (fun _ => rfl)
  · rename_i hst
    have hiw : i ∉ h.waiters := by
      rw [hb.waiting i, ticketOf_eq hi]
      simp [Stage.ticket?]
    refine ⟨?_, ?_, fun hst' => absurd hst' hst, ?_⟩
    · intro j
      rw [ticketOf_move (h := { h with waiters := h.waiters ++ [i] }) hi]
      change j ∈ h.waiters ++ [i] ↔ (if i = j then _ else h.ticketOf j) = _
      rw [List.mem_append, hb.waiting j, List.mem_singleton]
      by_cases hij : i = j
      · simp [hij, Stage.ticket?]
      · simp [hij, Ne.symm hij]
    · change (h.waiters ++ [i]).Nodup
      rw [List.nodup_append]
      refine ⟨hb.nodup, by simp, ?_⟩
      intro a ha b hbm hab
      rw [List.mem_singleton] at hbm
      exact hiw (hbm ▸ hab ▸ ha)
    · intro j c hj ht
      by_cases hij : i = j
      · subst hij
        have hj' : some (Caller.mk .take (.entering (some .waiting))) = some c :=
          (callers_move_self (h := { h with waiters := h.waiters ++ [i] }) hi).symm.trans hj
        cases hj'
        rfl
      · rw [callers_move_of_ne hij] at hj
        exact hb.taker j c hj ht

/-- A new call waits for nothing yet. -/
theorem call (hb : Bell h) : Bell { h with callers := h.callers ++ [⟨errand, .ready⟩] } where
  waiting j := by
    have hj : (Hall.ticketOf { h with callers := h.callers ++ [⟨errand, .ready⟩] } j) =
        h.ticketOf j := by
      unfold ticketOf
      cases hj : (h.callers ++ [⟨errand, .ready⟩])[j]? with
      | none =>
        rw [List.getElem?_eq_none_iff, List.length_append] at hj
        rw [List.getElem?_eq_none (by omega)]
      | some c =>
        rcases callers_call hj with hold | ⟨rfl, rfl⟩
        · rw [hold]
        · rw [List.getElem?_eq_none (Nat.le_refl _)]
          rfl
    rw [hj]
    exact hb.waiting j
  nodup := hb.nodup
  stored := hb.stored
  taker j c hj ht := by
    rcases callers_call hj with hold | ⟨-, rfl⟩
    · exact hb.taker j c hold ht
    · exact absurd rfl ht

end Bell

end Hall

end Handoff
