import Handoff.Proofs.Channels.History
import Mathlib.Data.List.Perm.Basic
/-!
# Nothing is lost in a channel, and nothing comes out twice

Registrations, dispatches that may have to wait, reads, and readers that go, in any order. What the
channels hold is always what their history says.

* `Channel.Tells`, `Dock.Recorded`: **a channel holds what was accepted for its registration and has
  not been read**, and a dispatch waits for room in the channel of the latest registration.
* `recorded_step`, `recorded_run`: every step keeps this, so it holds after every run.
* `answered_step`, `answered_run`: a dispatch that waits is answered once.
* `accepted_in_order`: the laws of delivery, together.
-/

namespace Handoff

open DockEvent

/-- A channel is as the history says. -/
structure Channel.Tells (past : List DockEvent) (i : Nat) (c : Channel) : Prop where
  /-- It is the channel of a registration, and holds no more than this allows. -/
  registered : ∃ group capacity, (registrations past)[i]? = some (group, capacity) ∧
    c.capacity = max capacity 1
  bounded : c.buffer.length ≤ c.capacity
  readable : c.readable = true ↔ .dropped i ∉ past
  /-- It holds what was accepted and has not been read. -/
  balance : c.readable = true → yielded i past ++ c.buffer = acceptedFor i past
  shut : c.readable = false → c.buffer = []

/-- All channels, and all dispatches that wait, are as the history says. -/
structure Dock.Recorded (past : List DockEvent) (d : Dock) : Prop where
  count : d.channels.channels.length = (registrations past).length
  current : ∀ group, d.channels.current? group = latest? group past
  channel : ∀ (i : Nat) c, d.channels.channels[i]? = some c → c.Tells past i
  dropped : ∀ i, .dropped i ∈ past → i < d.channels.channels.length
  yielded : ∀ i, yielded i past <+: acceptedFor i past
  waiting : ∀ w ∈ d.waiting, w.request.executor = .worker ∧
    latest? w.request.workerGroup past = some w.channel

namespace Channels

variable {c : Channels} {r : Request} {i : Nat}

/-- A request goes to the current channel of its group, if it is for a worker. -/
theorem route_eq_ok_iff :
    c.route r = .ok i ↔ r.executor = .worker ∧ c.current? r.workerGroup = some i := by
  unfold route
  by_cases hr : r.executor = .worker
  · rw [if_neg (fun hne => hne hr)]
    cases c.current? r.workerGroup <;> simp [hr]
  · simp [hr]

/-- Nobody is told that a channel is closed before it has waited for it. -/
theorem ne_closedFault_of_route {fault : DispatchFault} (h : c.route r = .error fault) :
    fault ≠ closedFault := by
  unfold route at h
  split at h
  · cases h
    simp [closedFault]
  · split at h <;> cases h
    simp [closedFault]

end Channels

/-- An event that neither opens a channel, nor accepts a request, nor hands one out, nor drops a
reader. -/
def DockEvent.Quiet : DockEvent → Prop
  | .waits _ | .refused _ _ | .abandoned _ | .empty _ | .ended _ | .gone _ => True
  | .opened _ _ | .accepted _ | .received _ _ | .dropped _ => False

namespace Dock

variable {past : List DockEvent} {d d' : Dock} {s : DockStep} {ss : List DockStep} {e : DockEvent}
  {r : Request} {i : Nat}

theorem recorded_empty : Recorded [] empty where
  count := rfl
  current _ := rfl
  channel i c h := by cases h
  dropped i h := by cases h
  yielded i := List.prefix_refl _
  waiting w h := by cases h

/-- A quiet event leaves the records as they are, if those who wait now waited before or wait for
the latest registration. -/
theorem recorded_of_quiet (hk : Recorded past d) (he : e.Quiet) {waiting : List Sender}
    (hw : ∀ w ∈ waiting, w ∈ d.waiting ∨ (w.request.executor = .worker ∧
      latest? w.request.workerGroup past = some w.channel)) :
    Recorded (e :: past) ⟨d.channels, waiting⟩ := by
  have hreg : registrations (e :: past) = registrations past := by
    cases e <;> first | rfl | cases he
  have hlat : ∀ g, latest? g (e :: past) = latest? g past := by
    intro g
    cases e <;> first | rfl | cases he
  have hacc : ∀ i, acceptedFor i (e :: past) = acceptedFor i past := by
    intro i
    cases e <;> first | rfl | cases he
  have hyld : ∀ i, DockEvent.yielded i (e :: past) = DockEvent.yielded i past := by
    intro i
    cases e <;> first | rfl | cases he
  have hdrop : ∀ i, .dropped i ∈ e :: past ↔ .dropped i ∈ past := by
    intro i
    have hne : .dropped i ≠ e := by
      rintro rfl
      exact he
    simp [hne]
  refine ⟨by rw [hreg]; exact hk.count, ?_, ?_, ?_, ?_, ?_⟩
  · intro g
    rw [hlat]
    exact hk.current g
  · intro i c hc
    obtain ⟨h₁, h₂, h₃, h₄, h₅⟩ := hk.channel i c hc
    exact ⟨by rwa [hreg], h₂, by rw [hdrop]; exact h₃, by rw [hyld, hacc]; exact h₄, h₅⟩
  · intro i hi
    exact hk.dropped i ((hdrop i).1 hi)
  · intro i
    rw [hyld, hacc]
    exact hk.yielded i
  · intro w hmem
    rw [hlat]
    exact (hw w hmem).elim (hk.waiting w) id

theorem recorded_opened (hk : Recorded past d) (hw : d.waiting = []) (group : String)
    (capacity : Nat) : Recorded (.opened group capacity :: past)
      { d with channels := d.channels.register group capacity } where
  count := by simp [Channels.register, registrations, hk.count]
  current g := by
    rw [Channels.current?_register, hk.current, hk.count]
    rfl
  channel i c hc := by
    have hlen := hk.count
    simp only [Channels.register] at hc
    by_cases hi : i < d.channels.channels.length
    · rw [List.getElem?_append_left hi] at hc
      obtain ⟨⟨g, n, hn, hcap⟩, h₂, h₃, h₄, h₅⟩ := hk.channel i c hc
      refine ⟨⟨g, n, ?_, hcap⟩, h₂, by simpa using h₃, h₄, h₅⟩
      rw [registrations, List.getElem?_append_left (by omega), hn]
    · -- the channel that was opened just now
      have hi' : i = d.channels.channels.length := by
        have := (List.getElem?_eq_some_iff.1 hc).1
        simp only [List.length_append, List.length_singleton] at this
        omega
      subst hi'
      rw [List.getElem?_concat_length] at hc
      cases hc
      have hnone := acceptedFor_of_le (Nat.le_of_eq hlen.symm)
      have hy := hk.yielded d.channels.channels.length
      rw [hnone, List.prefix_nil] at hy
      refine ⟨⟨group, capacity, by simp [registrations, hlen], rfl⟩, by simp, ?_, ?_, by simp⟩
      · have hd : .dropped d.channels.channels.length ∉ past := fun hd =>
          Nat.lt_irrefl _ (hk.dropped _ hd)
        simpa using hd
      · intro _
        simpa [DockEvent.yielded, acceptedFor, hnone] using hy
  dropped i hi := by
    have hlt := hk.dropped i (by simpa using hi)
    simp only [Channels.register, List.length_append, List.length_singleton]
    omega
  yielded := hk.yielded
  waiting w hw' := by
    rw [hw] at hw'
    cases hw'

/-- A request that is accepted stands at the end of the channel of the latest registration, and the
other channels are not concerned. -/
theorem recorded_accepted (hk : Recorded past d) {k : Nat} {w : Sender} {c : Channel}
    (hw : d.waiting[k]? = some w) (hc : d.channels.channels[w.channel]? = some c)
    (ho : c.readable = true) (hroom : c.buffer.length < c.capacity) :
    Recorded (.accepted w.request :: past)
      ⟨{ d.channels with channels := d.channels.channels.set w.channel (c.add w.request) },
        d.waiting.eraseIdx k⟩ where
  count := by simpa [registrations] using hk.count
  current := hk.current
  channel i c' hc' := by
    have hlat := (hk.waiting w (List.mem_of_getElem? hw)).2
    by_cases hi : w.channel = i
    · subst hi
      rw [List.getElem?_set_self (List.getElem?_eq_some_iff.1 hc).1] at hc'
      cases hc'
      obtain ⟨h₁, -, h₃, h₄, -⟩ := hk.channel _ c hc
      refine ⟨h₁, ?_, by simpa [Channel.add] using h₃, ?_, ?_⟩
      · simpa [Channel.add] using Nat.succ_le_of_lt hroom
      · intro _
        rw [acceptedFor, if_pos hlat, ← h₄ ho, List.append_assoc]
        rfl
      · intro hs
        simp [Channel.add, ho] at hs
    · rw [List.getElem?_set_ne hi] at hc'
      obtain ⟨h₁, h₂, h₃, h₄, h₅⟩ := hk.channel i c' hc'
      refine ⟨h₁, h₂, by simpa using h₃, ?_, h₅⟩
      intro ho'
      rw [acceptedFor, if_neg (by simpa [hlat] using hi)]
      exact h₄ ho'
  dropped i hi := by simpa using hk.dropped i (by simpa using hi)
  yielded i := by
    rw [acceptedFor]
    split
    · exact (hk.yielded i).trans (List.prefix_append _ _)
    · exact hk.yielded i
  waiting w' hw' := hk.waiting w' (List.mem_of_mem_eraseIdx hw')

theorem recorded_received (hk : Recorded past d) {c : Channel} {rest : List Request}
    (hc : d.channels.channels[i]? = some c) (ho : c.readable = true) (hb : c.buffer = r :: rest) :
    Recorded (.received i r :: past)
      { d with channels :=
        { d.channels with channels := d.channels.channels.set i { c with buffer := rest } } } where
  count := by simpa [registrations] using hk.count
  current := hk.current
  channel j c' hc' := by
    by_cases hi : i = j
    · subst hi
      rw [List.getElem?_set_self (List.getElem?_eq_some_iff.1 hc).1] at hc'
      cases hc'
      obtain ⟨h₁, h₂, h₃, h₄, -⟩ := hk.channel _ c hc
      rw [hb, List.length_cons] at h₂
      refine ⟨h₁, Nat.le_of_succ_le h₂, by simpa using h₃, ?_, ?_⟩
      · intro _
        have := h₄ ho
        simpa [DockEvent.yielded, acceptedFor, hb] using this
      · intro hs
        simp [ho] at hs
    · rw [List.getElem?_set_ne hi] at hc'
      obtain ⟨h₁, h₂, h₃, h₄, h₅⟩ := hk.channel j c' hc'
      refine ⟨h₁, h₂, by simpa using h₃, ?_, h₅⟩
      rw [DockEvent.yielded, if_neg hi]
      exact h₄
  dropped i hi := by simpa using hk.dropped i (by simpa using hi)
  yielded j := by
    rw [DockEvent.yielded]
    split
    · rename_i hi
      subst hi
      have := (hk.channel i c hc).balance ho
      rw [hb] at this
      exact ⟨rest, by simpa [acceptedFor] using this⟩
    · exact hk.yielded j
  waiting := hk.waiting

theorem recorded_dropped (hk : Recorded past d) (hc : d.channels.isReadable i = true) :
    Recorded (.dropped i :: past) { d with channels := d.channels.drop i } where
  count := by simpa [registrations, Channels.drop] using hk.count
  current := hk.current
  channel j c' hc' := by
    simp only [Channels.drop, List.getElem?_modify, Option.map_eq_map,
      Option.map_eq_some_iff] at hc'
    obtain ⟨c, hc, rfl⟩ := hc'
    obtain ⟨h₁, h₂, h₃, h₄, h₅⟩ := hk.channel j c hc
    by_cases hi : i = j
    · rw [if_pos hi]
      refine ⟨h₁, by simp [Channel.shut], by simp [Channel.shut, hi], ?_, by simp [Channel.shut]⟩
      intro hs
      simp [Channel.shut] at hs
    · rw [if_neg hi]
      exact ⟨h₁, h₂, by simpa [Ne.symm hi] using h₃, h₄, h₅⟩
  dropped j hj := by
    simp only [Channels.drop, List.length_modify]
    rcases List.mem_cons.1 hj with hj | hj
    · cases hj
      rcases Nat.lt_or_ge i d.channels.channels.length with hlt | hle
      · exact hlt
      · simp [Channels.isReadable, List.getElem?_eq_none hle] at hc
    · exact hk.dropped j hj
  yielded := hk.yielded
  waiting := hk.waiting

/-- **Every step keeps the records.** -/
theorem recorded_step (hk : Recorded past d) (hs : d.step s = some (e, d')) :
    Recorded (e :: past) d' := by
  have hold : ∀ {k}, ∀ w ∈ d.waiting.eraseIdx k, w ∈ d.waiting ∨ (w.request.executor = .worker ∧
      latest? w.request.workerGroup past = some w.channel) :=
    fun w hw => .inl (List.mem_of_mem_eraseIdx hw)
  cases Move.of_step hs with
  | opened hw => exact recorded_opened hk hw _ _
  | accepted hw hc ho hroom => exact recorded_accepted hk hw hc ho hroom
  | received hc ho hb => exact recorded_received hk hc ho hb
  | dropped hc => exact recorded_dropped hk hc
  | waits hr =>
    obtain ⟨hex, hcur⟩ := Channels.route_eq_ok_iff.1 hr
    refine recorded_of_quiet hk (by trivial) fun w hw => ?_
    rcases List.mem_append.1 hw with hw | hw
    · exact .inl hw
    · rw [List.mem_singleton.1 hw]
      exact .inr ⟨hex, (hk.current _).symm.trans hcur⟩
  | closed | abandoned => exact recorded_of_quiet hk (by trivial) hold
  | astray | empty | ended | gone => exact recorded_of_quiet hk (by trivial) fun w hw => .inl hw

theorem recorded_run {past' : List DockEvent} (hk : Recorded past d)
    (hr : d.run past ss = some (past', d')) : Recorded past' d' :=
  invariant_run recorded_step hk hr

/-! ## Every dispatch has one answer -/

theorem count_waiting {k : Nat} {w : Sender} (hw : d.waiting[k]? = some w) (r : Request) :
    (d.waiting.map Sender.request).count r =
      ((d.waiting.eraseIdx k).map Sender.request).count r + if w.request = r then 1 else 0 := by
  obtain ⟨hk, hw⟩ := List.getElem?_eq_some_iff.1 hw
  have hp := (List.getElem_cons_eraseIdx_perm hk).map Sender.request
  rw [← hp.count_eq, hw, List.map_cons, List.count_cons]
  simp

/-- Of the dispatches that began to wait, each was answered once, or waits still. -/
def Answered (past : List DockEvent) (d : Dock) : Prop :=
  ∀ r, past.count (.waits r) =
    past.countP (answers r) + (d.waiting.map Sender.request).count r

theorem answered_step (ha : Answered past d) (hs : d.step s = some (e, d')) :
    Answered (e :: past) d' := by
  intro r
  have h := ha r
  cases Move.of_step hs with
  | waits =>
    simp only [List.count_cons, h, beq_iff_eq, DockEvent.waits.injEq, answers, Bool.false_eq_true,
      not_false_eq_true, List.countP_cons_of_neg, List.map_append, List.map_cons, List.map_nil,
      List.count_append, List.count_nil]
    omega
  | astray hr =>
    have hne := Channels.ne_closedFault_of_route hr
    simpa [answers, hne] using h
  | accepted hw | abandoned hw | closed hw =>
    rw [count_waiting hw r] at h
    simp only [ne_eq, reduceCtorEq, not_false_eq_true, List.count_cons_of_ne, h, List.countP_cons,
      answers, and_true, decide_eq_true_eq]
    omega
  | opened | received | empty | ended | gone | dropped => simpa [answers] using h

theorem answered_run {past' : List DockEvent} (ha : Answered past d)
    (hr : d.run past ss = some (past', d')) : Answered past' d' :=
  invariant_run answered_step ha hr

/-! ## What the steps show -/

theorem shown_of_dispatch (d : Dock) (r : Request) :
    (d.step (.dispatch r)).map Prod.fst = some (
      if r.executor ≠ .worker then .refused r (.unsupportedExecutor r.executor)
      else if d.channels.current? r.workerGroup = none then
        .refused r (.unknownGroup r.workerGroup)
      else .waits r) := by
  by_cases hr : r.executor = .worker
  · cases hg : d.channels.current? r.workerGroup <;> simp [step, Channels.route, hr, hg]
  · simp [step, Channels.route, hr]

theorem shown_of_proceed {k : Nat} {w : Sender} {c : Channel} (hw : d.waiting[k]? = some w)
    (hc : d.channels.channels[w.channel]? = some c) :
    (d.step (.proceed k)).map Prod.fst =
      if c.readable = false then some (.refused w.request Channels.closedFault)
      else if c.buffer.length < c.capacity then some (.accepted w.request)
      else none := by
  simp only [step, hw, Option.bind_some, goOn, Channels.send, hc]
  cases c.readable with
  | false => rfl
  | true => by_cases hroom : c.buffer.length < c.capacity <;> simp [hroom]

theorem shown_of_receive {c : Channel} (hc : d.channels.channels[i]? = some c)
    (ho : c.readable = true) :
    (d.step (.receive i)).map Prod.fst = some (
      match c.buffer[0]? with
      | some r => .received i r
      | none => if d.channels.isCurrent i = true then .empty i else .ended i) := by
  simp only [step, Channels.receive, hc, if_neg (show ¬ (!c.readable) = true by simp [ho])]
  cases c.buffer with
  | cons r rest => rfl
  | nil => cases d.channels.isCurrent i <;> rfl

/-- The laws of delivery: what has become of the requests, and what the next step does and shows. -/
structure Delivers (past : List DockEvent) (d : Dock) : Prop where
  /-- There is one channel for each registration. -/
  opened : d.channels.channels.length = (registrations past).length
  /-- A reader has got the first of what was accepted for its registration, in order. -/
  yielded : ∀ i, DockEvent.yielded i past <+: acceptedFor i past
  /-- As long as it has not gone, the rest is in its channel, which holds no more than it may. -/
  held : ∀ (i : Nat) group capacity, (registrations past)[i]? = some (group, capacity) →
    ∃ c, d.channels.channels[i]? = some c ∧ c.buffer.length ≤ max capacity 1 ∧
      (.dropped i ∉ past → DockEvent.yielded i past ++ c.buffer = acceptedFor i past)
  /-- It gets the next of them. When there is none, and a later registration has replaced its own,
  it is told of the end. -/
  read : ∀ (i : Nat) group capacity, (registrations past)[i]? = some (group, capacity) →
    .dropped i ∉ past → (d.step (.receive i)).map Prod.fst = some (
      match (acceptedFor i past)[(DockEvent.yielded i past).length]? with
      | some r => .received i r
      | none => if latest? group past = some i then .empty i else .ended i)
  /-- A dispatch waits for room, unless it is not for a worker or for a group that is not known. -/
  begun : ∀ r, (d.step (.dispatch r)).map Prod.fst = some (
    if r.executor ≠ .worker then .refused r (.unsupportedExecutor r.executor)
    else if latest? r.workerGroup past = none then .refused r (.unknownGroup r.workerGroup)
    else .waits r)
  /-- It is refused if the reader of the latest registration has gone, and otherwise accepted as
  soon as fewer requests than its channel may hold have not been read. -/
  goes_on : ∀ (k : Nat) w, d.waiting[k]? = some w → ∃ i capacity,
    latest? w.request.workerGroup past = some i ∧
    (registrations past)[i]? = some (w.request.workerGroup, capacity) ∧
    (d.step (.proceed k)).map Prod.fst =
      if .dropped i ∈ past then some (.refused w.request Channels.closedFault)
      else if (acceptedFor i past).length < (DockEvent.yielded i past).length + max capacity 1 then
        some (.accepted w.request)
      else none
  /-- What is accepted is put once, at the end, into the channel of the latest registration of its
  group, and into no other. -/
  accepted : ∀ s r d', d.step s = some (.accepted r, d') → r.executor = .worker ∧
    ∃ i c, latest? r.workerGroup past = some i ∧ d.channels.channels[i]? = some c ∧
      d'.channels = { d.channels with channels := d.channels.channels.set i (c.add r) }
  /-- A dispatch that waits is accepted, refused or given up once, and then waits no longer. -/
  answered : Answered past d
  /-- A dispatch that is refused, that waits or that gives up leaves every channel as it was. -/
  untouched : ∀ s e d', d.step s = some (e, d') → e.Quiet → d'.channels = d.channels

theorem Recorded.channel_of_registered (hk : Recorded past d) {group : String} {capacity : Nat}
    (hi : (registrations past)[i]? = some (group, capacity)) :
    ∃ c, d.channels.channels[i]? = some c ∧ c.Tells past i ∧ c.capacity = max capacity 1 := by
  have hlt := (List.getElem?_eq_some_iff.1 hi).1
  rw [← hk.count] at hlt
  have hc := List.getElem?_eq_getElem hlt
  have ht := hk.channel i _ hc
  obtain ⟨g, n, hn, hcap⟩ := ht.registered
  cases hi.symm.trans hn
  exact ⟨_, hc, ht, hcap⟩

/-- A channel is current if its registration is the latest of its group. -/
theorem Recorded.isCurrent_iff (hk : Recorded past d) {group : String} {capacity : Nat}
    (hi : (registrations past)[i]? = some (group, capacity)) :
    d.channels.isCurrent i = true ↔ latest? group past = some i := by
  rw [Channels.isCurrent_iff]
  constructor
  · rintro ⟨g, hg⟩
    rw [hk.current] at hg
    obtain ⟨n, hn⟩ := registered_of_latest? hg
    cases hi.symm.trans hn
    exact hg
  · intro h
    exact ⟨group, (hk.current group).trans h⟩

theorem Recorded.delivers (hk : Recorded past d) (ha : Answered past d) : Delivers past d where
  opened := hk.count
  yielded := hk.yielded
  held i group capacity hi := by
    obtain ⟨c, hc, ht, hcap⟩ := hk.channel_of_registered hi
    exact ⟨c, hc, hcap ▸ ht.bounded, fun hd => ht.balance (ht.readable.2 hd)⟩
  read i group capacity hi hd := by
    obtain ⟨c, hc, ht, -⟩ := hk.channel_of_registered hi
    have ho := ht.readable.2 hd
    rw [shown_of_receive hc ho, ← ht.balance ho, List.getElem?_append_right (Nat.le_refl _),
      Nat.sub_self]
    simp only [hk.isCurrent_iff hi]
  begun r := by
    rw [shown_of_dispatch, hk.current]
  goes_on k w hw := by
    have hlat := (hk.waiting w (List.mem_of_getElem? hw)).2
    obtain ⟨capacity, hi⟩ := registered_of_latest? hlat
    obtain ⟨c, hc, ht, hcap⟩ := hk.channel_of_registered hi
    refine ⟨w.channel, capacity, hlat, hi, ?_⟩
    rw [shown_of_proceed hw hc]
    by_cases hd : .dropped w.channel ∈ past
    · have hs : c.readable = false := by
        rw [← Bool.not_eq_true, ht.readable]
        exact not_not_intro hd
      rw [if_pos hs, if_pos hd]
    · have ho := ht.readable.2 hd
      have hlen := congrArg List.length (ht.balance ho)
      rw [List.length_append] at hlen
      rw [if_neg (by simp [ho]), if_neg hd, hcap, ← hlen]
      simp only [Nat.add_lt_add_iff_left]
  accepted s r d' hs := by
    cases Move.of_step hs with
    | accepted hw hc =>
      obtain ⟨hex, hlat⟩ := hk.waiting _ (List.mem_of_getElem? hw)
      exact ⟨hex, _, _, hlat, hc, rfl⟩
  answered := ha
  untouched s e d' hs he := by
    cases Move.of_step hs with
    | opened | accepted | received | dropped => cases he
    | waits | astray | closed | abandoned | empty | ended | gone => rfl

/-- **Requests come out as they were accepted, and none is lost.** After any run of registrations,
dispatches that may wait and give up, reads, and readers that go: each reader has got the first of
what was accepted for its registration, in order, and the rest is in its channel until it goes, also
when its group was registered again. What is accepted goes to the end of the channel of the latest
registration of its group, what is not changes nothing, and no channel holds more than it may. -/
theorem accepted_in_order (hr : empty.run [] ss = some (past, d)) : Delivers past d :=
  (recorded_run recorded_empty hr).delivers (answered_run (fun _ => rfl) hr)

/-- A group that asks for no room gets room for one request, so the second has to wait until the
first is read. When the group is registered again the old reader comes to its end, and what waits
for a reader that has gone is refused. -/
theorem accepted_in_order_replaced :
    let first : Request := ⟨⟨.taskExecuteRequest, 1, ""⟩, .worker, "a"⟩
    let second : Request := ⟨⟨.taskExecuteRequest, 2, ""⟩, .worker, "a"⟩
    let past : List DockEvent := [.dropped 1, .waits first, .received 0 second,
      .opened "a" 2, .accepted second, .received 0 first, .accepted first, .waits second,
      .waits first, .opened "a" 0]
    let d : Dock := ⟨⟨[⟨[], 1, true⟩, ⟨[], 2, false⟩], [("a", 1), ("a", 0)]⟩, [⟨first, 1⟩]⟩
    empty.run [] [.register "a" 0, .dispatch first, .dispatch second, .proceed 0, .proceed 0] =
      none ∧
    empty.run [] [.register "a" 0, .dispatch first, .dispatch second, .proceed 0, .receive 0,
      .proceed 0, .register "a" 2, .receive 0, .dispatch first, .drop 1] = some (past, d) ∧
    Delivers past d ∧ acceptedFor 0 past = [first, second] ∧
    (d.step (.receive 0)).map Prod.fst = some (.ended 0) ∧
    (d.step (.proceed 0)).map Prod.fst = some (.refused first Channels.closedFault) := by
  intro first second past d
  have hr : empty.run [] [.register "a" 0, .dispatch first, .dispatch second, .proceed 0,
      .receive 0, .proceed 0, .register "a" 2, .receive 0, .dispatch first, .drop 1] =
      some (past, d) := by decide
  have hd : Delivers past d := accepted_in_order hr
  refine ⟨by decide, hr, hd, by decide, ?_, ?_⟩
  · exact (hd.read 0 "a" 0 (by decide) (by decide)).trans (by decide)
  · obtain ⟨i, capacity, hi, hn, hs⟩ := hd.goes_on 0 ⟨first, 1⟩ rfl
    have hi' : i = 1 := Option.some.inj (hi.symm.trans (by decide))
    subst hi'
    exact hs.trans (if_pos (by decide))

end Dock

end Handoff
