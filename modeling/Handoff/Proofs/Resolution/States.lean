import Handoff.Proofs.Loop.Fold
import Handoff.Proofs.Resolution.Independence
/-!
# What becomes of the states of tasks

States are written in one place: a task that lacks its tenant is marked as failed whenever a
reference to it is resolved, whatever its state was before. No other state is ever written.

* `Session.MarksFailed`: a reference to the task leads to its failure.
* `Session.Marked`: what resolutions leave of the states; it is composed along a run.
* `Resolver.resolve_marked`, `consumeAll_marked`, `Loop.run_marked`: one resolution, iterations one
  after another, and the steps of a loop.
* `states_only_fail`: **a state changes only to that of a failed task, and exactly for the tasks
  that are referred to and lack their tenant.**
* `finished_state_is_left`: a task that has finished may be among them.
-/

namespace Handoff

open Resolver

/-- The state of a stored task. -/
def Store.status? (s : Store) (id : TaskId) : Option TaskStatus :=
  (s.task? id).map (·.status)

namespace Store

variable {s s' : Store} {t : Task} {id : TaskId}

theorem status?_fail (ht : s.task? t.id = some t) (id : TaskId) :
    (s.fail t).status? id = if id = t.id then some .failure else s.status? id := by
  by_cases hid : id = t.id
  · rw [if_pos hid, hid, status?, task?_fail ht]
    rfl
  · have hne : (fun u : Task => decide (u.id = id)) ∘
        (fun u => if u.id = t.id then u.failed else u) = fun u => decide (u.id = id) := by
      funext u
      show decide ((if u.id = t.id then u.failed else u).id = id) = decide (u.id = id)
      split <;> rfl
    have htask : (s.fail t).task? id = s.task? id := by
      show (s.tasks.map _).find? _ = s.tasks.find? _
      rw [List.find?_map, hne]
      cases hu : s.tasks.find? fun u => u.id = id with
      | none => rfl
      | some u =>
        have huid : u.id = id := by simpa using List.find?_some hu
        exact congrArg some (if_neg (huid ▸ hid))
    rw [if_neg hid, status?, htask]
    rfl

/-- Whether a task lacks its tenant does not depend on states. -/
theorem Alike.lacksTenant (h : Alike s s') (ht : s.LacksTenant id t) :
    ∃ t', s'.LacksTenant id t' := by
  obtain ⟨hstored, htype, hnode, process, hprocess, htenant⟩ := ht
  have htask := h.task?_eq id
  rw [hstored] at htask
  obtain ⟨t', hstored', hfailed⟩ := Option.map_eq_some_iff.1 htask.symm
  have htype' : t'.typeTag = t.typeTag := (congrArg Task.typeTag hfailed :)
  have hnode' : t'.nodeText = t.nodeText := (congrArg Task.nodeText hfailed :)
  have hprocessId : t'.processId = t.processId := (congrArg Task.processId hfailed :)
  have hdefinitionId : t'.definitionId = t.definitionId := (congrArg Task.definitionId hfailed :)
  -- all other look-ups read what the two stores have in common
  have hprocess? : ∀ id, s'.process? id = s.process? id :=
    fun id => (congrArg (fun s => s.process? id) h).symm
  have howner : s'.ownerOf t' = s.ownerOf t := by
    have hdefinition? : s'.definition? t.definitionId = s.definition? t.definitionId :=
      (congrArg (fun s => s.definition? t.definitionId) h).symm
    unfold ownerOf
    rw [hdefinitionId, hdefinition?]
  have htenant? : ∀ tenant owner, s'.tenantFor? tenant owner = s.tenantFor? tenant owner :=
    fun tenant owner => (congrArg (fun s => s.tenantFor? tenant owner) h).symm
  refine ⟨t', hstored', by rwa [htype'], by rwa [hnode'], process, ?_, ?_⟩
  · rw [hprocessId, hprocess?, hprocess]
  · rw [howner, htenant?, htenant]

end Store

namespace Session

/-- Whoever resolves a reference to the task marks it as failed: it lacks its tenant, and all calls
up to the order are answered. -/
structure MarksFailed (s : Session) (id : TaskId) : Prop where
  task : ∃ t, s.store.LacksTenant id t
  detail : s.outages .taskDetail = none
  tenant : s.outages .tenantForProcess = none
  order : s.outages .changeTaskState = none

/-- From the first session to the second, the tasks of these ids were marked as failed where they
lack their tenant, and nothing else was written. -/
structure Marked (s : Session) (ids : List TaskId) (s' : Session) : Prop where
  marked : ∀ id ∈ ids, s.MarksFailed id → s'.store.status? id = some .failure
  kept : ∀ id, (id ∈ ids → ¬ s.MarksFailed id) → s'.store.status? id = s.store.status? id
  alike : s'.store.Alike s.store
  outages : s'.outages = s.outages

variable {s s₁ s₂ : Session} {ids ids' : List TaskId}

theorem MarksFailed.of_marked (h : s.Marked ids s₁) (id : TaskId) :
    s₁.MarksFailed id ↔ s.MarksFailed id := by
  have halike : s.store.Alike s₁.store := h.alike.symm
  constructor
  · rintro ⟨⟨t, ht⟩, hdetail, htenant, horder⟩
    rw [h.outages] at hdetail htenant horder
    exact ⟨h.alike.lacksTenant ht, hdetail, htenant, horder⟩
  · rintro ⟨⟨t, ht⟩, hdetail, htenant, horder⟩
    rw [← h.outages] at hdetail htenant horder
    exact ⟨halike.lacksTenant ht, hdetail, htenant, horder⟩

theorem marked_refl (s : Session) : s.Marked [] s where
  marked id hid := by cases hid
  kept id _ := rfl
  alike := Store.alike_refl _
  outages := rfl

/-- Only store and outages of the second session count. -/
theorem Marked.congr (h : s.Marked ids s₁) (hstore : s₂.store = s₁.store)
    (hout : s₂.outages = s₁.outages) : s.Marked ids s₂ := by
  obtain ⟨hmarked, hkept, halike, hout₁⟩ := h
  rw [← hstore] at hmarked hkept halike
  exact ⟨hmarked, hkept, halike, hout.trans hout₁⟩

theorem Marked.trans (h : s.Marked ids s₁) (h' : s₁.Marked ids' s₂) :
    s.Marked (ids ++ ids') s₂ where
  marked id hid hfails := by
    by_cases hid' : id ∈ ids'
    · exact h'.marked id hid' ((MarksFailed.of_marked h id).2 hfails)
    · -- the mark of the first part stays
      have hid₁ : id ∈ ids := (List.mem_append.1 hid).resolve_right hid'
      rw [h'.kept id fun hin => absurd hin hid', h.marked id hid₁ hfails]
  kept id hid := by
    have hkept : s₂.store.status? id = s₁.store.status? id := h'.kept id fun hin hfails =>
      hid (List.mem_append_right _ hin) ((MarksFailed.of_marked h id).1 hfails)
    rw [hkept, h.kept id fun hin => hid (List.mem_append_left _ hin)]
  alike := h'.alike.trans h.alike
  outages := h'.outages.trans h.outages

/-- A state changes only to that of a failed task, and exactly for the tasks that are referred to
and lack their tenant. -/
def OnlyFails (s : Session) (references : List Reference) (s' : Session) : Prop :=
  ∀ id status, s.store.status? id = some status →
    (s'.store.status? id = some status ∨ s'.store.status? id = some .failure) ∧
    (s'.store.status? id ≠ some status ↔
      status ≠ .failure ∧ (∃ reference ∈ references, reference.taskId = id) ∧ s.MarksFailed id)

theorem Marked.onlyFails {references : List Reference}
    (h : s.Marked (references.map (·.taskId)) s₁) : s.OnlyFails references s₁ := by
  intro id status hs
  by_cases hfails : (∃ reference ∈ references, reference.taskId = id) ∧ s.MarksFailed id
  · rw [h.marked id (List.mem_map.2 hfails.1) hfails.2]
    refine ⟨.inr rfl, fun hne => ⟨?_, hfails⟩, fun h heq => ?_⟩
    · rintro rfl
      exact hne rfl
    · exact h.1 (Option.some.inj heq).symm
  · have hkept : s₁.store.status? id = s.store.status? id :=
      h.kept id fun hin hmarks => hfails ⟨List.mem_map.1 hin, hmarks⟩
    rw [hkept, hs]
    refine ⟨.inl rfl, ?_⟩
    simp only [ne_eq, not_true_eq_false, hfails, and_false]

end Session

/-! ## Resolutions and iterations -/

variable {r : Resolver} {reference : Reference}

theorem Resolver.resolve_marked (hr : r.registry.BuiltIn) (reference : Reference) {s : Session}
    (hs : s.store.Keyed) : s.Marked [reference.taskId] ((r.resolve reference).exec s).2 := by
  obtain ⟨halike, hout⟩ := resolve_alike hr reference hs
  by_cases hrun : ((r.resolve reference).exec s).1 = .ok none
  · obtain ⟨t, hlack, hchange, hdetail, htenant, horder⟩ := lacksTenant_of_exec (Prod.ext hrun rfl)
    have hid : t.id = reference.taskId := by simpa using List.find?_some hlack.stored
    have hfail := Store.change_failure hs (List.mem_of_find?_eq_some hlack.stored)
    have hstore := Except.ok.inj (hchange.symm.trans hfail)
    have hstatus := Store.status?_fail (hid ▸ hlack.stored : s.store.task? t.id = some t)
    refine ⟨?_, ?_, halike, hout⟩
    · intro id hin _
      rw [hstore, hstatus, if_pos ((List.mem_singleton.1 hin).trans hid.symm)]
    · intro id hkept
      have hne : id ≠ t.id := fun heq => hkept (List.mem_singleton.2 (heq.trans hid))
        (heq.trans hid ▸ ⟨⟨t, hlack⟩, hdetail, htenant, horder⟩)
      rw [hstore, hstatus, if_neg hne]
  · obtain ⟨-, hkeeps⟩ := spares_resolve hr reference s
    refine ⟨?_, fun id _ => by rw [hkeeps hrun], halike, hout⟩
    intro id hin hfails
    -- the resolution of a task that lacks its tenant would have ended without a context
    obtain rfl := List.mem_singleton.1 hin
    obtain ⟨⟨t, hlack⟩, hdetail, htenant, horder⟩ := hfails
    have hfail := Store.change_failure hs (List.mem_of_find?_eq_some hlack.stored)
    exact absurd (exec_of_lacksTenant hlack hfail hdetail htenant horder) hrun

theorem consumeOne_marked (hr : r.registry.BuiltIn) (reference : Reference) {d : Desk}
    (hs : d.session.store.Keyed) :
    d.session.Marked [reference.taskId] (consumeOne r reference d).2.session := by
  obtain ⟨hstore, hout⟩ := consumeOne_session r reference d
  exact (resolve_marked hr reference hs).congr hstore hout

theorem consumeAll_marked (hr : r.registry.BuiltIn) (references : List Reference) {d : Desk}
    (hs : d.session.store.Keyed) :
    d.session.Marked (references.map (·.taskId)) (consumeAll r references d).2.session := by
  induction references generalizing d with
  | nil => exact Session.marked_refl _
  | cons reference rest ih =>
    have hone := consumeOne_marked hr reference hs
    exact hone.trans (ih (hone.alike.keyed hs))

namespace Loop

variable {l l' : Loop} {s : LoopStep} {ss : List LoopStep}

/-- The reference that a step resolves. -/
def resolvedAt (l : Loop) : LoopStep → List Reference
  | .resolve =>
    match l.phase with
    | .taken r => [r]
    | _ => []
  | _ => []

/-- The references resolved along a run. -/
def resolved (l : Loop) (ss : List LoopStep) : List Reference :=
  l.observe resolvedAt ss

theorem prepare_session (r : Resolver) (reference : Reference) (d : Desk) :
    (prepare r reference d).2.session = ((r.resolve reference).exec d.session).2 := by
  unfold prepare
  rcases (r.resolve reference).exec d.session with ⟨fault | _ | context, s⟩ <;> rfl

/-- The dispatcher's reply leaves the records and the resolver as they are. -/
theorem getReply_records (l : Loop) (reference : Reference) (request : Request) :
    (l.getReply reference request).desk.session.store = l.desk.session.store ∧
      (l.getReply reference request).desk.session.outages = l.desk.session.outages ∧
        (l.getReply reference request).resolver = l.resolver := by
  unfold getReply conclude
  cases l.desk.replies.headD .accept <;> exact ⟨rfl, rfl, rfl⟩

theorem failTake_records (l : Loop) (t : TakeTrouble) :
    (l.failTake t).desk.session.store = l.desk.session.store ∧
      (l.failTake t).desk.session.outages = l.desk.session.outages ∧
        (l.failTake t).resolver = l.resolver := by
  rcases t with (_ | _) | _ <;> exact ⟨rfl, rfl, rfl⟩

/-- A step that resolves a reference does no more to the records than its resolution; any other
leaves them as they are. -/
theorem step_marked (hr : l.resolver.registry.BuiltIn) (hk : l.desk.session.store.Keyed)
    (hs : l.step s = some l') :
    l.desk.session.Marked ((l.resolvedAt s).map (·.taskId)) l'.desk.session ∧
      l'.resolver = l.resolver := by
  have hsame := Session.marked_refl l.desk.session
  have hresolve : ∀ {reference : Reference} {prepared desk},
      prepare l.resolver reference l.desk = (prepared, desk) →
        l.desk.session.Marked [reference.taskId] desk.session := by
    intro reference prepared desk hv
    have hdesk := prepare_session l.resolver reference l.desk
    rw [hv] at hdesk
    rw [hdesk]
    exact resolve_marked hr reference hk
  cases Move.of_step hs with
  | @resolve reference verdict desk hp hv =>
    simp only [resolvedAt, hp]
    cases verdict <;> exact ⟨(hresolve hv).congr rfl rfl, rfl⟩
  | resolveRequest hp hv =>
    simp only [resolvedAt, hp]
    exact ⟨hresolve hv, rfl⟩
  | reply =>
    obtain ⟨hstore, hout, hresolver⟩ := getReply_records l _ _
    exact ⟨hsame.congr hstore hout, hresolver⟩
  | trouble t =>
    obtain ⟨hstore, hout, hresolver⟩ := failTake_records l t
    exact ⟨hsame.congr hstore hout, hresolver⟩
  | put | close | requestStop | dropHandle | begin | lookStop | look | heedRequest | heedDrop
  | take | takeClosed | goOn | release => exact ⟨hsame.congr rfl rfl, rfl⟩

theorem run_marked (hr : l.resolver.registry.BuiltIn) (hk : l.desk.session.store.Keyed)
    (hrun : l.run ss = some l') :
    l.desk.session.Marked ((l.resolved ss).map (·.taskId)) l'.desk.session ∧
      l'.resolver = l.resolver := by
  induction ss generalizing l with
  | nil =>
    cases hrun
    exact ⟨Session.marked_refl _, rfl⟩
  | cons s ss ih =>
    obtain ⟨l₁, hs, hrun⟩ := Option.bind_eq_some_iff.1 hrun
    obtain ⟨hmarked, hresolver⟩ := step_marked hr hk hs
    obtain ⟨hrest, hresolver'⟩ := ih (hresolver ▸ hr) (hmarked.alike.keyed hk) hrun
    rw [resolved, observe_cons hs, List.map_append]
    exact ⟨hmarked.trans hrest, hresolver'.trans hresolver⟩

end Loop

/-- **A state changes only to that of a failed task, and exactly for the tasks that are referred to
and lack their tenant**, whatever the state was. So it is between any two moments of iterations one
after another, and of a loop whatever happens around it. -/
theorem states_only_fail (settings : Settings) (records : Snapshot) (outages : Outages)
    (replies : List Reply) :
    let r : Resolver := ⟨.standard, settings⟩
    let desk := Desk.fresh (.fresh (.ofSnapshot records) outages) replies
    (∀ earlier later, (consumeAll r earlier desk).2.session.OnlyFails later
      (consumeAll r (earlier ++ later) desk).2.session) ∧
    ∀ queue ss l ts l', (Loop.spawn r queue desk).run ss = some l → l.run ts = some l' →
      l.desk.session.OnlyFails (l.resolved ts) l'.desk.session := by
  intro r desk
  have hr : r.registry.BuiltIn := builtIn_standard
  have hk : desk.session.store.Keyed := Store.keyed_ofSnapshot records
  constructor
  · intro earlier later
    have hearlier := consumeAll_marked hr earlier hk
    rw [consumeAll_append_desk]
    exact (consumeAll_marked hr later (hearlier.alike.keyed hk)).onlyFails
  · intro queue ss l ts l' hss hts
    obtain ⟨hbefore, hresolver⟩ := Loop.run_marked hr hk hss
    have hafter := Loop.run_marked (hresolver ▸ hr) (hbefore.alike.keyed hk) hts
    exact hafter.1.onlyFails

/-- A process of an unknown tenant, and a task of it that has ended well. -/
def finishedUntenanted : Snapshot :=
  { untenanted with tasks := [{ shellTask with status := .success }] }

theorem marksFailed_finishedUntenanted :
    (Session.fresh (.ofSnapshot finishedUntenanted) fun _ => none).MarksFailed ⟨7⟩ where
  task := ⟨{ shellTask with status := .success },
    by decide, by decide, by decide +kernel, _, rfl, by decide⟩
  detail := rfl
  tenant := rfl
  order := rfl

/-- The loop takes a stale reference to a task that has ended well, and marks it as failed. -/
theorem states_only_fail_stale :
    let r : Resolver := ⟨.standard, .standard⟩
    let desk := Desk.fresh (.fresh (.ofSnapshot finishedUntenanted) fun _ => none) []
    ∃ l l', (Loop.spawn r ⟨[shellReference], false⟩ desk).run [.begin, .look, .take] = some l ∧
      l.run [.resolve] = some l' ∧ l.desk.session.store.status? ⟨7⟩ = some .success ∧
        l'.desk.session.store.status? ⟨7⟩ = some .failure := by
  intro r desk
  obtain ⟨l, hl⟩ : ∃ l, (Loop.spawn r ⟨[shellReference], false⟩ desk).run [.begin, .look, .take] =
      some l := ⟨_, rfl⟩
  obtain ⟨l', hl'⟩ : ∃ l', l.run [.resolve] = some l' := by
    cases hl
    exact ⟨_, rfl⟩
  have hsuccess : l.desk.session.store.status? ⟨7⟩ = some .success := by
    cases hl
    rfl
  have hresolved : l.resolved [.resolve] = [shellReference] := by
    cases hl
    rfl
  have hbefore := (Loop.run_marked builtIn_standard (Store.keyed_ofSnapshot _) hl).1
  have hfails : l.desk.session.MarksFailed ⟨7⟩ :=
    (Session.MarksFailed.of_marked hbefore ⟨7⟩).2 marksFailed_finishedUntenanted
  refine ⟨l, l', hl, hl', hsuccess, ?_⟩
  obtain ⟨-, hloop⟩ := states_only_fail .standard finishedUntenanted (fun _ => none) []
  obtain ⟨hor, hiff⟩ := hloop _ _ l _ l' hl hl' ⟨7⟩ .success hsuccess
  refine hor.resolve_left (hiff.2 ⟨by decide, ⟨shellReference, ?_, rfl⟩, hfails⟩)
  rw [hresolved]
  exact List.mem_singleton_self _

/-- **A state that a task has finished with is not always final**: if the task lacks its tenant, a
stale reference to it makes a success a failure. -/
theorem finished_state_is_left : ¬ ∀ (settings : Settings) (records : Snapshot) (outages : Outages)
    (replies : List Reply) (earlier later : List Reference) (id : TaskId) (status : TaskStatus),
    (consumeAll ⟨.standard, settings⟩ earlier
      (.fresh (.fresh (.ofSnapshot records) outages) replies)).2.session.store.status? id =
        some status → status.isFinished = true →
    (consumeAll ⟨.standard, settings⟩ (earlier ++ later)
      (.fresh (.fresh (.ofSnapshot records) outages) replies)).2.session.store.status? id =
        some status := by
  intro h
  have hfinal := h .standard finishedUntenanted (fun _ => none) [] [] [shellReference] ⟨7⟩ .success
    rfl rfl
  have hmarked := consumeAll_marked (r := ⟨.standard, .standard⟩) (d := .fresh (.fresh
    (.ofSnapshot finishedUntenanted) fun _ => none) []) builtIn_standard [shellReference]
    (Store.keyed_ofSnapshot _)
  have hfailed := hmarked.marked ⟨7⟩ (List.mem_singleton_self _) marksFailed_finishedUntenanted
  rw [List.nil_append, hfailed] at hfinal
  cases hfinal

end Handoff
