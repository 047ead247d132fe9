import Handoff.Channels.Waiting
/-!
# What a history of channels tells

`Dock.run` keeps what its steps have shown, last event first. From that alone it can be told which
registration a group has, what was accepted for a registration, and what its reader has got. The
registrations are numbered from 0 in their order, as their channels are.

* `registrations`, `latest?`, `acceptedFor`, `yielded`, `answers`: what a history tells.
* `Dock.Move`, `Dock.Move.of_step`: **what a step of a dock can do.**
* `Dock.invariant_run`: what every step keeps is so after every run.
* `Dock.run_dispatch`: a dispatch that nothing comes between is two steps, waiting and going on.
-/

namespace Handoff

namespace DockEvent

/-- The groups that were registered, with the capacities asked for. -/
def registrations : List DockEvent → List (String × Nat)
  | [] => []
  | .opened group capacity :: past => registrations past ++ [(group, capacity)]
  | _ :: past => registrations past

/-- The latest registration of a group. -/
def latest? (group : String) : List DockEvent → Option Nat
  | [] => none
  | .opened g _ :: past =>
    if g = group then some (registrations past).length else latest? group past
  | _ :: past => latest? group past

/-- The requests accepted for a registration: those accepted while it was the latest of their
group, in order. -/
def acceptedFor (i : Nat) : List DockEvent → List Request
  | [] => []
  | .accepted r :: past =>
    if latest? r.workerGroup past = some i then acceptedFor i past ++ [r] else acceptedFor i past
  | _ :: past => acceptedFor i past

/-- The requests that the reader of a registration has got, in order. -/
def yielded (i : Nat) : List DockEvent → List Request
  | [] => []
  | .received j r :: past => if j = i then yielded i past ++ [r] else yielded i past
  | _ :: past => yielded i past

/-- The event is the answer to a dispatch of a request that has waited. -/
def answers (r : Request) : DockEvent → Bool
  | .accepted q | .abandoned q => q = r
  | .refused q fault => q = r ∧ fault = Channels.closedFault
  | .opened _ _ | .waits _ | .received _ _ | .empty _ | .ended _ | .gone _ | .dropped _ => false

variable {past : List DockEvent} {group : String} {i : Nat}

/-- The latest registration of a group is one of that group. -/
theorem registered_of_latest? (h : latest? group past = some i) :
    ∃ capacity, (registrations past)[i]? = some (group, capacity) := by
  induction past with
  | nil => cases h
  | cons e past ih =>
    cases e with
    | opened g capacity =>
      simp only [latest?] at h
      split at h
      · rename_i hg
        cases h
        exact ⟨capacity, by simp [registrations, hg]⟩
      · obtain ⟨n, hn⟩ := ih h
        have hi := (List.getElem?_eq_some_iff.1 hn).1
        exact ⟨n, by rw [registrations, List.getElem?_append_left hi, hn]⟩
    | _ => exact ih h

theorem lt_of_latest? (h : latest? group past = some i) : i < (registrations past).length := by
  obtain ⟨_, hn⟩ := registered_of_latest? h
  exact (List.getElem?_eq_some_iff.1 hn).1

/-- Nothing is accepted for a registration that is still to come. -/
theorem acceptedFor_of_le (h : (registrations past).length ≤ i) : acceptedFor i past = [] := by
  induction past with
  | nil => rfl
  | cons e past ih =>
    cases e with
    | opened g capacity =>
      simp only [registrations, List.length_append, List.length_singleton] at h
      exact ih (by omega)
    | accepted r =>
      have hne : latest? r.workerGroup past ≠ some i := by
        intro hr
        have hlt := lt_of_latest? hr
        simp only [registrations] at h
        omega
      rw [acceptedFor, if_neg hne]
      exact ih h
    | _ => exact ih h

end DockEvent

namespace Channels

variable {c : Channels} {group : String} {i : Nat}

theorem current?_register (capacity : Nat) (g : String) :
    (c.register group capacity).current? g =
      if group = g then some c.channels.length else c.current? g := by
  by_cases hg : group = g
  · simp [current?, register, hg]
  · have hb : (g == group) = false := by simpa using Ne.symm hg
    simp [current?, register, List.lookup_cons, hg, hb]

/-- A channel is current if some group has it. -/
theorem isCurrent_iff : c.isCurrent i = true ↔ ∃ g, c.current? g = some i := by
  simp only [isCurrent, List.any_eq_true, decide_eq_true_eq]
  constructor
  · rintro ⟨g, -, hg⟩
    exact ⟨g.1, hg⟩
  · rintro ⟨g, hg⟩
    obtain ⟨l, l', hl, -⟩ := List.lookup_eq_some_iff.1 hg
    exact ⟨(g, i), by simp [hl], hg⟩

theorem isReadable_eq_false_iff : c.isReadable i = false ↔
    ∀ channel, c.channels[i]? = some channel → channel.readable = false := by
  unfold isReadable
  split
  · rename_i channel h
    simp [h]
  · rename_i h
    simp [h]

end Channels

namespace Dock

variable {d d' : Dock} {s : DockStep} {e : DockEvent}

/-- The ways in which a dock makes a step. -/
inductive Move (d : Dock) : DockStep → DockEvent → Dock → Prop where
  | opened {group : String} {capacity : Nat} (hw : d.waiting = []) :
    Move d (.register group capacity) (.opened group capacity)
      { d with channels := d.channels.register group capacity }
  | waits {r : Request} {i : Nat} (hr : d.channels.route r = .ok i) :
    Move d (.dispatch r) (.waits r) { d with waiting := d.waiting ++ [⟨r, i⟩] }
  | astray {r : Request} {fault : DispatchFault} (hr : d.channels.route r = .error fault) :
    Move d (.dispatch r) (.refused r fault) d
  | accepted {k : Nat} {w : Sender} {c : Channel} (hw : d.waiting[k]? = some w)
    (hc : d.channels.channels[w.channel]? = some c) (ho : c.readable = true)
    (hroom : c.buffer.length < c.capacity) :
    Move d (.proceed k) (.accepted w.request)
      ⟨{ d.channels with channels := d.channels.channels.set w.channel (c.add w.request) },
        d.waiting.eraseIdx k⟩
  | closed {k : Nat} {w : Sender} (hw : d.waiting[k]? = some w)
    (hc : d.channels.isReadable w.channel = false) :
    Move d (.proceed k) (.refused w.request Channels.closedFault)
      { d with waiting := d.waiting.eraseIdx k }
  | abandoned {k : Nat} {w : Sender} (hw : d.waiting[k]? = some w) :
    Move d (.abandon k) (.abandoned w.request) { d with waiting := d.waiting.eraseIdx k }
  | received {i : Nat} {c : Channel} {r : Request} {rest : List Request}
    (hc : d.channels.channels[i]? = some c) (ho : c.readable = true) (hb : c.buffer = r :: rest) :
    Move d (.receive i) (.received i r)
      { d with channels :=
        { d.channels with channels := d.channels.channels.set i { c with buffer := rest } } }
  | empty {i : Nat} {c : Channel} (hc : d.channels.channels[i]? = some c) (ho : c.readable = true)
    (hb : c.buffer = []) (hl : d.channels.isCurrent i = true) : Move d (.receive i) (.empty i) d
  | ended {i : Nat} {c : Channel} (hc : d.channels.channels[i]? = some c) (ho : c.readable = true)
    (hb : c.buffer = []) (hl : d.channels.isCurrent i = false) : Move d (.receive i) (.ended i) d
  | gone {i : Nat} (hc : d.channels.isReadable i = false) : Move d (.receive i) (.gone i) d
  | dropped {i : Nat} (hc : d.channels.isReadable i = true) :
    Move d (.drop i) (.dropped i) { d with channels := d.channels.drop i }

/-- What becomes of a dispatch that goes on. -/
theorem Move.of_goOn {k : Nat} {w : Sender} (hw : d.waiting[k]? = some w)
    (hs : d.goOn k w = some (e, d')) : Move d (.proceed k) e d' := by
  unfold goOn Channels.send at hs
  cases hc : d.channels.channels[w.channel]? with
  | none =>
    rw [hc] at hs
    cases hs
    exact .closed hw (Channels.isReadable_eq_false_iff.2 (by simp [hc]))
  | some c =>
    rw [hc] at hs
    by_cases ho : c.readable = true
    · by_cases hroom : c.buffer.length < c.capacity
      · simp only [ho, hroom, Bool.not_true, Bool.false_eq_true, if_false, if_true] at hs
        cases hs
        exact .accepted hw hc ho hroom
      · simp only [ho, hroom, Bool.not_true, Bool.false_eq_true, if_false] at hs
        cases hs
    · simp only [ho, Bool.not_false, if_true] at hs
      cases hs
      exact .closed hw (Channels.isReadable_eq_false_iff.2 (by simpa [hc] using ho))

/-- **Every step is one of the moves.** -/
theorem Move.of_step (hs : d.step s = some (e, d')) : Move d s e d' := by
  cases s with
  | register group capacity =>
    simp only [step] at hs
    split at hs <;> cases hs
    rename_i hw
    exact .opened hw
  | dispatch r =>
    simp only [step] at hs
    split at hs <;> cases hs
    · rename_i hr
      exact .waits hr
    · rename_i hr
      exact .astray hr
  | proceed k =>
    obtain ⟨w, hw, hgo⟩ := Option.bind_eq_some_iff.1 hs
    exact .of_goOn hw hgo
  | abandon k =>
    obtain ⟨w, hw, hgo⟩ := Option.map_eq_some_iff.1 hs
    cases hgo
    exact .abandoned hw
  | receive i =>
    simp only [step, Channels.receive] at hs
    cases hc : d.channels.channels[i]? with
    | none =>
      rw [hc] at hs
      cases hs
      exact .gone (Channels.isReadable_eq_false_iff.2 (by simp [hc]))
    | some c =>
      rw [hc] at hs
      by_cases ho : c.readable = true
      · cases hb : c.buffer with
        | cons r rest =>
          simp only [if_neg (show ¬ (!c.readable) = true by simp [ho]), hb] at hs
          cases hs
          exact .received hc ho hb
        | nil =>
          simp only [if_neg (show ¬ (!c.readable) = true by simp [ho]), hb] at hs
          by_cases hl : d.channels.isCurrent i = true
          · rw [if_pos hl] at hs
            cases hs
            exact .empty hc ho hb hl
          · rw [if_neg hl] at hs
            cases hs
            exact .ended hc ho hb (by simpa using hl)
      · simp only [ho, Bool.not_false, if_true] at hs
        cases hs
        exact .gone (Channels.isReadable_eq_false_iff.2 (by simpa [hc] using ho))
  | drop i =>
    simp only [step] at hs
    split at hs <;> cases hs
    rename_i hc
    exact .dropped hc

/-- What every step keeps is so after every run. -/
theorem invariant_run {P : List DockEvent → Dock → Prop}
    (hstep : ∀ {past d s e d'}, P past d → d.step s = some (e, d') → P (e :: past) d')
    {past past' : List DockEvent} {ss : List DockStep} (h : P past d)
    (hr : d.run past ss = some (past', d')) : P past' d' := by
  induction ss generalizing past d with
  | nil =>
    cases hr
    exact h
  | cons s ss ih =>
    obtain ⟨⟨e, d₁⟩, hs, hr⟩ := Option.bind_eq_some_iff.1 hr
    exact ih (hstep h hs) hr

/-- **A dispatch that nothing comes between is the two steps of waiting and going on**: if it has
to wait and is abandoned, of waiting and giving up. One that finds no channel is over at once. -/
theorem run_dispatch (c : Channels) (r : Request) (past : List DockEvent) :
    match c.dispatch r with
    | .sent after => run ⟨c, []⟩ past [.dispatch r, .proceed 0] =
        some (.accepted r :: .waits r :: past, ⟨after, []⟩)
    | .full => run ⟨c, []⟩ past [.dispatch r, .proceed 0] = none ∧
        run ⟨c, []⟩ past [.dispatch r, .abandon 0] =
          some (.abandoned r :: .waits r :: past, ⟨c, []⟩)
    | .refused fault =>
        run ⟨c, []⟩ past [.dispatch r] = some (.refused r fault :: past, ⟨c, []⟩) ∨
        run ⟨c, []⟩ past [.dispatch r, .proceed 0] =
          some (.refused r fault :: .waits r :: past, ⟨c, []⟩) := by
  cases hr : c.route r with
  | error fault => simp [Channels.dispatch, hr, run, step]
  | ok i =>
    simp only [Channels.dispatch, hr]
    cases hs : c.send i r <;> simp [run, step, hr, goOn, hs]

end Dock

end Handoff
