import Handoff.Proofs.Relation.Registrations
import Handoff.Wiring
/-!
# Wiring over a whole history

Parts are handed in in any order and as often as one likes. What is built depends only on what was
handed in last of each part, on the builders that were registered, and on the types that were
expected last.

* `Wiring.lastOf`, `Wiring.registrations`: what a history hands in; `Wiring.unserved`: the types that
  it expects in vain.
* `Wiring.after`: the wiring after a history, in closed form.
* `Wiring.step_eq_ok_iff`, `Wiring.run_eq_ok_iff`: **a step or a history leads there**, unless a type
  would get a second builder.
* `Wiring.Decided`: what a history makes of the build; `Wiring.SameBuild`: builds that are alike.
* `Wiring.build_decided`: the build of any history, and its independence of their order.
-/

namespace Handoff

/-! ## Builders by their types -/

namespace Registry

variable {r : Registry} {type : TaskType} {builder : Builder}

/-- Where every type has one builder, this is the one listed with it. -/
theorem builder?_eq_some_iff (h : r.types.Nodup) :
    r.builder? type = some builder ↔ (type, builder) ∈ r.builders := by
  obtain ⟨builders⟩ := r
  unfold builder?
  induction builders with
  | nil => simp
  | cons first rest ih =>
    obtain ⟨type', builder'⟩ := first
    obtain ⟨hfirst, hrest⟩ := List.nodup_cons.1 h
    rw [List.lookup_cons]
    by_cases heq : type = type'
    · subst heq
      have hnot : (type, builder) ∉ rest := fun hmem => hfirst (List.mem_map_of_mem (f := (·.1)) hmem)
      simp [hnot, eq_comm]
    · rw [beq_eq_false_iff_ne.2 heq]
      simpa [heq] using ih hrest

end Registry

/-- A resolution goes by the settings and by the builder of each type, however they are listed. -/
theorem Resolver.resolve_eq_of_builder?_eq {r r' : Resolver} (hsettings : r.settings = r'.settings)
    (hbuilder : ∀ type, r.registry.builder? type = r'.registry.builder? type)
    (reference : Reference) : r.resolve reference = r'.resolve reference := by
  have hbuild : r.registry.build = r'.registry.build := by
    funext p
    unfold Registry.build
    rw [hbuilder]
  have hcontext : r.contextOf = r'.contextOf := by
    unfold contextOf
    rw [hbuild, hsettings]
  unfold resolve
  rw [hcontext]

namespace Wiring

variable {Q S D α : Type}

/-! ## What a history hands in -/

namespace Step

/-- The queue that a step hands in. -/
def queue? : Step Q S D → Option Q
  | queue q => some q
  | _ => none

/-- The service that a step hands in. -/
def service? : Step Q S D → Option S
  | service s => some s
  | _ => none

/-- The dispatcher that a step hands in. -/
def dispatcher? : Step Q S D → Option D
  | dispatcher d => some d
  | _ => none

/-- The settings that a step hands in. -/
def settings? : Step Q S D → Option Settings
  | settings s => some s
  | _ => none

/-- The types that a step expects to have a builder. -/
def expected? : Step Q S D → Option (List TaskType)
  | expect types => some types
  | _ => none

/-- The builder that a step registers, with its type. -/
def registration? : Step Q S D → Option (TaskType × Builder)
  | register type builder => some (type, builder)
  | _ => none

/-- The component that a step sets. -/
def component? : Step Q S D → Option Component
  | queue _ => some .queue
  | service _ => some .service
  | dispatcher _ => some .dispatcher
  | _ => none

end Step

variable {w w' : Wiring Q S D} {step : Step Q S D} {steps steps' : List (Step Q S D)}

/-- The last of what steps hand in. -/
def lastOf (handed? : Step Q S D → Option α) (steps : List (Step Q S D)) : Option α :=
  (steps.filterMap handed?).getLast?

/-- The builders that steps register, with their types. -/
def registrations (steps : List (Step Q S D)) : List (TaskType × Builder) :=
  steps.filterMap Step.registration?

/-- The types that have a builder: from the start, or by a registration. -/
def served (steps : List (Step Q S D)) : List TaskType :=
  Registry.standard.types ++ (registrations steps).map (·.1)

/-- Those of the types expected last that have no builder, as they were listed. -/
def unserved (steps : List (Step Q S D)) : List TaskType :=
  ((lastOf Step.expected? steps).getD []).filter fun type => type ∉ served steps

/-- No step sets the component. -/
def Unset (steps : List (Step Q S D)) (component : Component) : Prop :=
  ∀ step ∈ steps, step.component? ≠ some component

theorem lastOf_cons (handed? : Step Q S D → Option α) (step : Step Q S D)
    (steps : List (Step Q S D)) :
    lastOf handed? (step :: steps) = (lastOf handed? steps).or (lastOf handed? [step]) := by
  unfold lastOf
  rw [← List.getLast?_append, ← List.filterMap_append]
  rfl

theorem lastOf_eq_none_iff {handed? : Step Q S D → Option α} :
    lastOf handed? steps = none ↔ ∀ step ∈ steps, handed? step = none := by
  unfold lastOf
  rw [List.getLast?_eq_none_iff, List.filterMap_eq_nil_iff]

theorem mem_registrations_iff {type : TaskType} {builder : Builder} :
    (type, builder) ∈ registrations steps ↔ .register type builder ∈ steps := by
  unfold registrations
  rw [List.mem_filterMap]
  constructor
  · rintro ⟨step, hstep, hregistration⟩
    cases step with
    | register => cases hregistration; exact hstep
    | queue | service | dispatcher | settings | expect => cases hregistration
  · intro hstep
    exact ⟨_, hstep, rfl⟩

/-! ## The wiring after a history -/

/-- The wiring after steps none of which is refused. -/
def after (w : Wiring Q S D) (steps : List (Step Q S D)) : Wiring Q S D where
  queue := (lastOf Step.queue? steps).or w.queue
  service := (lastOf Step.service? steps).or w.service
  dispatcher := (lastOf Step.dispatcher? steps).or w.dispatcher
  settings := (lastOf Step.settings? steps).getD w.settings
  registry := ⟨w.registry.builders ++ registrations steps⟩
  expected := (lastOf Step.expected? steps).or w.expected

theorem after_nil (w : Wiring Q S D) : w.after [] = w := by
  unfold after registrations
  rw [List.filterMap_nil, List.append_nil]
  rfl

theorem after_cons (w : Wiring Q S D) (step : Step Q S D) (steps : List (Step Q S D)) :
    w.after (step :: steps) = (w.after [step]).after steps := by
  have hregistrations : registrations (step :: steps) =
      registrations [step] ++ registrations steps :=
    List.filterMap_append (l := [step])
  unfold after
  simp only [lastOf_cons _ step steps, Option.or_assoc, hregistrations, List.append_assoc,
    Option.getD_or]

theorem types_after (w : Wiring Q S D) (steps : List (Step Q S D)) :
    (w.after steps).registry.types = w.registry.types ++ (registrations steps).map (·.1) :=
  List.map_append

theorem step_of_unregistered (w : Wiring Q S D) (h : step.registration? = none) :
    w.step step = .ok (w.after [step]) := by
  have hnone : registrations [step] = [] := by
    unfold registrations
    rw [List.filterMap_cons_none h]
    rfl
  unfold after
  rw [hnone, List.append_nil]
  cases step with
  | register => cases h
  | queue | service | dispatcher | settings | expect => rfl

/-- **A step leads there**, unless it registers a builder for a type that has one. -/
theorem step_eq_ok_iff (hw : w.registry.types.Nodup) :
    w.step step = .ok w' ↔ (w.after [step]).registry.types.Nodup ∧ w.after [step] = w' := by
  rw [types_after]
  cases step with
  | register type builder =>
    have htypes : w.registry.types ++ (registrations [Step.register (Q := Q) (S := S) (D := D) type
        builder]).map (·.1) = w.registry.types.concat type := List.concat_eq_append.symm
    -- the registry refuses exactly what would be listed twice
    rw [htypes, List.nodup_concat, Wiring.step]
    by_cases hmem : type ∈ w.registry.types
    · simp [Registry.register_of_mem hmem, hmem]
    · rw [Registry.register_of_notMem hmem, and_iff_right ⟨hmem, hw⟩]
      exact Iff.of_eq (Except.ok.injEq _ _)
  | queue | service | dispatcher | settings | expect =>
    rw [step_of_unregistered w rfl]
    show _ ↔ (w.registry.types ++ []).Nodup ∧ _
    rw [List.append_nil, Except.ok.injEq, and_iff_right hw]

/-- **A history leads there**, unless a type would get a second builder. -/
theorem run_eq_ok_iff (hw : w.registry.types.Nodup) :
    w.run steps = .ok w' ↔ (w.after steps).registry.types.Nodup ∧ w.after steps = w' := by
  induction steps generalizing w with
  | nil => simp [run, after_nil, hw]
  | cons step steps ih =>
    rw [after_cons]
    unfold run
    by_cases hone : (w.after [step]).registry.types.Nodup
    · rw [(step_eq_ok_iff hw).2 ⟨hone, rfl⟩]
      exact ih hone
    · -- what is listed twice after one step stays so
      have hall : ¬((w.after [step]).after steps).registry.types.Nodup := by
        rw [types_after]
        exact fun h => hone (List.nodup_append.1 h).1
      cases hstep : w.step step with
      | error fault => simp [hall]
      | ok w₁ => exact absurd ((step_eq_ok_iff hw).1 hstep).1 hone

theorem run_append {more : List (Step Q S D)} (h : w.run steps = .ok w') :
    w.run (steps ++ more) = w'.run more := by
  induction steps generalizing w with
  | nil =>
    cases h
    rfl
  | cons step steps ih =>
    rw [run] at h
    rw [List.cons_append, run]
    cases hstep : w.step step with
    | error fault =>
      rw [hstep] at h
      cases h
    | ok w₁ =>
      rw [hstep] at h
      exact ih h

/-! ## Builds -/

/-- The component is the first one that no step sets. -/
def FirstUnset (steps : List (Step Q S D)) : Component → Prop
  | .queue => Unset steps .queue
  | .service => ¬Unset steps .queue ∧ Unset steps .service
  | .dispatcher => ¬Unset steps .queue ∧ ¬Unset steps .service ∧ Unset steps .dispatcher

/-- A consumer has the parts handed in last, and the builders that were registered. -/
structure Uses (steps : List (Step Q S D)) (consumer : WiredConsumer Q S D) : Prop where
  queue : lastOf Step.queue? steps = some consumer.queue
  service : lastOf Step.service? steps = some consumer.service
  dispatcher : lastOf Step.dispatcher? steps = some consumer.dispatcher
  settings : consumer.resolver.settings = (lastOf Step.settings? steps).getD .standard
  builders : consumer.resolver.registry.builders =
    Registry.standard.builders ++ registrations steps

theorem Uses.unique {c c' : WiredConsumer Q S D} (h : Uses steps c) (h' : Uses steps c') :
    c = c' := by
  obtain ⟨q, s, d, ⟨builders⟩, settings⟩ := c
  obtain ⟨q', s', d', ⟨builders'⟩, settings'⟩ := c'
  obtain rfl := Option.some.inj (h.queue.symm.trans h'.queue)
  obtain rfl := Option.some.inj (h.service.symm.trans h'.service)
  obtain rfl := Option.some.inj (h.dispatcher.symm.trans h'.dispatcher)
  obtain rfl : settings = settings' := h.settings.trans h'.settings.symm
  obtain rfl : builders = builders' := h.builders.trans h'.builders.symm
  rfl

/-- What is built after a history: missing builders are reported first, then the first component
that is missing; otherwise there is a consumer with the parts handed in. -/
structure Decided (steps : List (Step Q S D)) (built : Except WiringFault (WiredConsumer Q S D)) :
    Prop where
  missingRelations : ∀ types, built = .error (.missingRelations types) ↔
    types ≠ [] ∧ types = unserved steps
  missingComponent : ∀ component, built = .error (.missingComponent component) ↔
    unserved steps = [] ∧ FirstUnset steps component
  consumer : ∀ consumer, built = .ok consumer ↔ unserved steps = [] ∧ Uses steps consumer

/-- Two histories hand in the same: last of each part, as builders, and as types expected. -/
structure SameParts (steps steps' : List (Step Q S D)) : Prop where
  queue : lastOf Step.queue? steps = lastOf Step.queue? steps'
  service : lastOf Step.service? steps = lastOf Step.service? steps'
  dispatcher : lastOf Step.dispatcher? steps = lastOf Step.dispatcher? steps'
  settings : lastOf Step.settings? steps = lastOf Step.settings? steps'
  expected : lastOf Step.expected? steps = lastOf Step.expected? steps'
  builders : ∀ type builder, .register type builder ∈ steps ↔ .register type builder ∈ steps'

/-- Two consumers have the same parts, and the same builder for each type; so they resolve alike. -/
structure AlikeConsumer (c c' : WiredConsumer Q S D) : Prop where
  queue : c.queue = c'.queue
  service : c.service = c'.service
  dispatcher : c.dispatcher = c'.dispatcher
  settings : c.resolver.settings = c'.resolver.settings
  builders : ∀ type, c.resolver.registry.builder? type = c'.resolver.registry.builder? type
  resolve : ∀ reference, c.resolver.resolve reference = c'.resolver.resolve reference

/-- The same fault, or consumers that are alike. -/
inductive SameBuild : Except WiringFault (WiredConsumer Q S D) →
    Except WiringFault (WiredConsumer Q S D) → Prop where
  | fault (fault : WiringFault) : SameBuild (.error fault) (.error fault)
  | consumer {c c' : WiredConsumer Q S D} (h : AlikeConsumer c c') : SameBuild (.ok c) (.ok c')

/-- The wiring after a history that was accepted. -/
theorem eq_after_of_run (h : start.run steps = .ok w) :
    (start.after steps).registry.types.Nodup ∧ start.after steps = w := by
  have hstart : Registry.standard.types.Nodup := by decide
  exact (run_eq_ok_iff (w := start) hstart).1 h

theorem missing_after (steps : List (Step Q S D)) : (start.after steps).missing = unserved steps := by
  have hexpected : (start.after steps).expected = lastOf Step.expected? steps := Option.or_none
  have htypes : (start.after steps).registry.types = served steps := types_after start steps
  unfold missing unserved
  rw [hexpected, htypes]
  refine List.filter_congr fun type _ => ?_
  rw [List.contains_eq_mem]
  by_cases h : type ∈ served steps <;> simp [h]

/-- What is built, by the parts that there are. -/
theorem build_after (steps : List (Step Q S D)) : (start.after steps).build =
    if unserved steps ≠ [] then .error (.missingRelations (unserved steps))
    else match lastOf Step.queue? steps, lastOf Step.service? steps,
        lastOf Step.dispatcher? steps with
      | none, _, _ => .error (.missingComponent .queue)
      | _, none, _ => .error (.missingComponent .service)
      | _, _, none => .error (.missingComponent .dispatcher)
      | some q, some s, some d => .ok ⟨q, s, d, ⟨(start.after steps).registry,
          (lastOf Step.settings? steps).getD .standard⟩⟩ := by
  have hqueue : (start.after steps).queue = lastOf Step.queue? steps := Option.or_none
  have hservice : (start.after steps).service = lastOf Step.service? steps := Option.or_none
  have hdispatcher : (start.after steps).dispatcher = lastOf Step.dispatcher? steps :=
    Option.or_none
  unfold build
  rw [missing_after, hqueue, hservice, hdispatcher]
  rfl

/-- Nothing is handed in as a component just if no step sets it. -/
theorem lastOf_eq_none_iff_unset {handed? : Step Q S D → Option α} {component : Component}
    (h : ∀ step, handed? step = none ↔ step.component? ≠ some component) :
    lastOf handed? steps = none ↔ Unset steps component := by
  rw [lastOf_eq_none_iff]
  exact forall₂_congr fun step _ => h step

theorem Decided.of_missing {component : Component} (hserved : unserved steps = [])
    (hfirst : ∀ other, component = other ↔ FirstUnset steps other)
    (hnone : ∀ consumer, ¬Uses steps consumer) :
    Decided steps (.error (.missingComponent component)) where
  missingRelations := by simp [hserved]
  missingComponent := by simp [hserved, hfirst]
  consumer := by simp [hnone]

theorem decided_after (steps : List (Step Q S D)) : Decided steps (start.after steps).build := by
  have hqueue : lastOf Step.queue? steps = none ↔ Unset steps .queue :=
    lastOf_eq_none_iff_unset fun step => by cases step <;> simp [Step.queue?, Step.component?]
  have hservice : lastOf Step.service? steps = none ↔ Unset steps .service :=
    lastOf_eq_none_iff_unset fun step => by cases step <;> simp [Step.service?, Step.component?]
  have hdispatcher : lastOf Step.dispatcher? steps = none ↔ Unset steps .dispatcher :=
    lastOf_eq_none_iff_unset fun step => by
      cases step <;> simp [Step.dispatcher?, Step.component?]
  rw [build_after]
  -- the cases follow the order in which the build looks at what it needs
  by_cases hserved : unserved steps = []
  · rw [if_neg (not_not_intro hserved)]
    cases hq : lastOf Step.queue? steps with
    | none =>
      refine .of_missing hserved (fun other => ?_) fun c h => nomatch hq.symm.trans h.queue
      cases other <;> simp [FirstUnset, ← hqueue, hq]
    | some q =>
      cases hs : lastOf Step.service? steps with
      | none =>
        refine .of_missing hserved (fun other => ?_) fun c h => nomatch hs.symm.trans h.service
        cases other <;> simp [FirstUnset, ← hqueue, ← hservice, hq, hs]
      | some s =>
        cases hd : lastOf Step.dispatcher? steps with
        | none =>
          refine .of_missing hserved (fun other => ?_) fun c h =>
            nomatch hd.symm.trans h.dispatcher
          cases other <;> simp [FirstUnset, ← hqueue, ← hservice, ← hdispatcher, hq, hs, hd]
        | some d =>
          have hset : ∀ component, ¬FirstUnset steps component := by
            intro component
            cases component <;>
              simp [FirstUnset, ← hqueue, ← hservice, ← hdispatcher, hq, hs, hd]
          refine ⟨by simp [hserved], by simp [hset], fun c => ⟨?_, ?_⟩⟩
          · rintro ⟨⟩
            exact ⟨hserved, hq, hs, hd, rfl, rfl⟩
          · rintro ⟨-, huses⟩
            exact congrArg Except.ok (huses.unique ⟨hq, hs, hd, rfl, rfl⟩).symm
  · rw [if_pos hserved]
    exact ⟨by simp [hserved, eq_comm], by simp [hserved], by simp [hserved]⟩

/-! ## Histories that hand in the same -/

theorem mem_served_iff {type : TaskType} : type ∈ served steps ↔
    type ∈ Registry.standard.types ∨ ∃ builder, .register type builder ∈ steps := by
  unfold served
  rw [List.mem_append, List.mem_map]
  refine or_congr_right ⟨?_, ?_⟩
  · rintro ⟨⟨type, builder⟩, hmem, rfl⟩
    exact ⟨builder, mem_registrations_iff.1 hmem⟩
  · rintro ⟨builder, hmem⟩
    exact ⟨(type, builder), mem_registrations_iff.2 hmem, rfl⟩

theorem SameParts.unserved_eq (h : SameParts steps steps') : unserved steps = unserved steps' := by
  have hserved : ∀ type, type ∈ served steps ↔ type ∈ served steps' := by
    intro type
    rw [mem_served_iff, mem_served_iff]
    exact or_congr_right (exists_congr fun builder => h.builders type builder)
  unfold unserved
  rw [h.expected]
  exact List.filter_congr fun type _ => decide_eq_decide.2 (not_congr (hserved type))

/-- The order of the registrations does not matter to the builder of a type, since there is one at
most. -/
theorem SameParts.builder?_eq (h : SameParts steps steps')
    (hnodup : (start.after steps).registry.types.Nodup)
    (hnodup' : (start.after steps').registry.types.Nodup) (type : TaskType) :
    (start.after steps).registry.builder? type = (start.after steps').registry.builder? type := by
  refine Option.ext fun builder => ?_
  rw [Registry.builder?_eq_some_iff hnodup, Registry.builder?_eq_some_iff hnodup']
  unfold after
  rw [List.mem_append, List.mem_append, mem_registrations_iff, mem_registrations_iff]
  exact or_congr_right (h.builders type builder)

theorem SameParts.sameBuild (h : SameParts steps steps')
    (hnodup : (start.after steps).registry.types.Nodup)
    (hnodup' : (start.after steps').registry.types.Nodup) :
    SameBuild (start.after steps).build (start.after steps').build := by
  have hbuilder := h.builder?_eq hnodup hnodup'
  rw [build_after, build_after, h.unserved_eq, h.queue, h.service, h.dispatcher, h.settings]
  split
  · exact .fault _
  · split
    · exact .fault _
    · exact .fault _
    · exact .fault _
    · exact .consumer ⟨rfl, rfl, rfl, rfl, hbuilder, Resolver.resolve_eq_of_builder?_eq rfl hbuilder⟩

/-- A further registration is refused just if its type has a builder. -/
theorem run_register (h : start.run steps = .ok w) (type : TaskType) (builder : Builder)
    (later : List (Step Q S D)) : start.run (steps ++ .register type builder :: later) =
      if type ∈ served steps then .error (.duplicateRelation type)
      else { w with registry := ⟨w.registry.builders ++ [(type, builder)]⟩ }.run later := by
  obtain ⟨-, rfl⟩ := eq_after_of_run h
  have htypes : served steps = (start.after steps).registry.types := (types_after start steps).symm
  rw [run_append h, run, Wiring.step, htypes]
  by_cases hmem : type ∈ (start.after steps).registry.types
  · rw [if_pos hmem, Registry.register_of_mem hmem]
  · rw [if_neg hmem, Registry.register_of_notMem hmem]

/-- **What is built depends only on what was handed in last, and on the builders registered.** After
any history that was accepted, types that are expected in vain are reported first, then the first
component that was never set; otherwise there is a consumer with the parts that were handed in last.
Any other history that hands in the same builds the same, whatever the order. A builder for a type
that has one already is refused, and nothing comes of that history. -/
theorem build_decided (h : start.run steps = .ok w) :
    Decided steps w.build ∧
    (∀ steps' w', start.run steps' = .ok w' → SameParts steps steps' →
      SameBuild w.build w'.build) ∧
    (∀ type ∈ served steps, ∀ builder later,
      start.run (steps ++ .register type builder :: later) = .error (.duplicateRelation type)) ∧
    ∀ type, type ∉ served steps → ∀ builder, ∃ w',
      start.run (steps ++ [.register type builder]) = .ok w' := by
  obtain ⟨hnodup, hafter⟩ := eq_after_of_run h
  refine ⟨hafter ▸ decided_after steps, ?_, ?_, ?_⟩
  · intro steps' w' h' hsame
    obtain ⟨hnodup', hafter'⟩ := eq_after_of_run h'
    rw [← hafter, ← hafter']
    exact hsame.sameBuild hnodup hnodup'
  · intro type hmem builder later
    rw [run_register h, if_pos hmem]
  · intro type hmem builder
    rw [run_register h, if_neg hmem]
    exact ⟨_, rfl⟩

/-- Types that are expected in vain are reported as often as they were listed, even where the
dispatcher is missing too; registered later, they would be there. -/
theorem build_decided_flink :
    let steps : List (Step Nat Nat Nat) := [.queue 1, .expect [.sql], .register .http buildSql,
      .expect [.flink, .http, .flink, .sql], .service 2, .queue 3]
    ∃ w, start.run steps = .ok w ∧
      w.build = .error (.missingRelations [.flink, .flink]) ∧
      start.run (steps ++ [.register .http buildTransfer, .dispatcher 4]) =
        .error (.duplicateRelation .http) ∧
      ∃ w', start.run (steps ++ [.register .flink buildSql]) = .ok w' := by
  intro steps
  have hrun : start.run steps = .ok (start.after steps) := rfl
  obtain ⟨hdecided, -, hrefused, haccepted⟩ := build_decided hrun
  have hunserved : unserved steps = [.flink, .flink] := by decide
  refine ⟨_, hrun, ?_, ?_, haccepted _ (by decide) _⟩
  · exact (hdecided.missingRelations _).2 ⟨by decide, hunserved.symm⟩
  · exact hrefused _ (by decide) _ _

end Wiring

end Handoff
