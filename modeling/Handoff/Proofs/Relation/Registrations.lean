import Handoff.Proofs.Relation.Standard
/-!
# A registry over a whole run of registrations

Builders are registered and relations are built in any order. A type keeps the first builder that it
had, and every later registration for it is refused.

* `Registry.Step`, `Usage.step`, `Usage.after`: a registration or a build, and one after another.
* `builder?_step`, `nodup_types_step`: what one step makes of the builders and of their types.
* `builder?_after`, `nodup_types_after`: what a whole run makes of them.
* `Usage.Lawful`, `lawful_after`: **a registry that was empty or had the builders at hand obeys the
  same laws after any run.**
-/

namespace Handoff.Registry

/-! ## Steps -/

/-- Something to do with a registry. -/
inductive Step where
  | register (type : TaskType) (builder : Builder)
  | build (p : Parameters)

/-- What comes of it. -/
inductive Reply where
  | registered
  | refused (fault : Fault)
  | built (result : Except Fault Relation)

/-- A registry, and the session in which it builds relations. -/
structure Usage where
  registry : Registry
  session : Session

/-- The builder that a step offers for a type. -/
def Step.offered? (type : TaskType) : Step → Option Builder
  | register type' builder => if type = type' then some builder else none
  | build _ => none

/-- The first builder that steps offer for a type. -/
def offered? (type : TaskType) (steps : List Step) : Option Builder :=
  steps.findSome? (Step.offered? type)

namespace Usage

/-- A step, with what comes of it. A registry that refuses a builder stays what it is. -/
def step (u : Usage) : Step → Reply × Usage
  | .register type builder =>
    match u.registry.register type builder with
    | .ok registry => (.registered, { u with registry := registry })
    | .error fault => (.refused fault, u)
  | .build p =>
    let run := (u.registry.build p).exec u.session
    (.built run.1, { u with session := run.2 })

/-- One step after another. -/
def after (u : Usage) : List Step → Usage
  | [] => u
  | step :: steps => (u.step step).2.after steps

end Usage

/-! ## Builders and their types -/

variable {r : Registry} {type other : TaskType} {builder : Builder} {u : Usage}

theorem mem_types_iff : type ∈ r.types ↔ (r.builder? type).isSome := by
  unfold types builder?
  rw [List.mem_map, List.lookup_isSome_iff]
  simp only [beq_iff_eq, eq_comm (a := type)]

theorem notMem_types_iff : type ∉ r.types ↔ r.builder? type = none := by
  rw [mem_types_iff, Option.not_isSome_iff_eq_none]

/-- One more builder serves its type where no earlier one does. -/
theorem builder?_append : builder? ⟨r.builders ++ [(type, builder)]⟩ other =
    (r.builder? other).or (if other = type then some builder else none) := by
  unfold builder?
  rw [List.lookup_append, List.lookup_cons, List.lookup_nil]
  by_cases h : other = type
  · rw [if_pos h, beq_iff_eq.2 h]
  · rw [if_neg h, beq_eq_false_iff_ne.2 h]

theorem register_of_mem (h : type ∈ r.types) (builder : Builder) :
    r.register type builder = .error (.duplicateRelation type) := by
  obtain ⟨first, hfirst⟩ := Option.isSome_iff_exists.1 (mem_types_iff.1 h)
  unfold register
  rw [hfirst]

theorem register_of_notMem (h : type ∉ r.types) (builder : Builder) :
    r.register type builder = .ok ⟨r.builders ++ [(type, builder)]⟩ := by
  unfold register
  rw [notMem_types_iff.1 h]

/-- A type that has a builder gets no other one. -/
theorem step_register_of_mem (h : type ∈ u.registry.types) (builder : Builder) :
    u.step (.register type builder) = (.refused (.duplicateRelation type), u) := by
  dsimp only [Usage.step]
  rw [register_of_mem h]

/-- A type that has none gets the builder. -/
theorem step_register_of_notMem (h : type ∉ u.registry.types) (builder : Builder) :
    u.step (.register type builder) =
      (.registered, { u with registry := ⟨u.registry.builders ++ [(type, builder)]⟩ }) := by
  dsimp only [Usage.step]
  rw [register_of_notMem h]

/-- **A step adds the builder that it offers for a type, unless there is one already.** -/
theorem builder?_step (u : Usage) (step : Step) (type : TaskType) :
    (u.step step).2.registry.builder? type =
      (u.registry.builder? type).or (step.offered? type) := by
  cases step with
  | build p => exact Option.or_none.symm
  | register type' builder =>
    by_cases h : type' ∈ u.registry.types
    · rw [step_register_of_mem h]
      dsimp only [Step.offered?]
      by_cases heq : type = type'
      · -- the offer comes too late
        subst heq
        exact (Option.or_of_isSome (mem_types_iff.1 h)).symm
      · rw [if_neg heq, Option.or_none]
    · rw [step_register_of_notMem h]
      exact builder?_append

/-- A step leaves the types distinct. -/
theorem nodup_types_step (h : u.registry.types.Nodup) (step : Step) :
    (u.step step).2.registry.types.Nodup := by
  cases step with
  | build p => exact h
  | register type builder =>
    by_cases hmem : type ∈ u.registry.types
    · rw [step_register_of_mem hmem]
      exact h
    · rw [step_register_of_notMem hmem]
      have htypes : types ⟨u.registry.builders ++ [(type, builder)]⟩ =
          u.registry.types.concat type := by
        unfold types
        rw [List.map_append, List.concat_eq_append]
        rfl
      show (types ⟨u.registry.builders ++ [(type, builder)]⟩).Nodup
      rw [htypes, List.nodup_concat]
      exact ⟨hmem, h⟩

/-! ## Runs -/

/-- **A type has the builder that it had at first, or else the first one that was offered.** -/
theorem builder?_after (u : Usage) (steps : List Step) (type : TaskType) :
    (u.after steps).registry.builder? type =
      (u.registry.builder? type).or (offered? type steps) := by
  induction steps generalizing u with
  | nil => exact Option.or_none.symm
  | cons step steps ih =>
    have hoffered : offered? type (step :: steps) =
        (step.offered? type).or (offered? type steps) := by
      unfold offered?
      rw [List.findSome?_cons]
      cases step.offered? type <;> rfl
    rw [Usage.after, ih, builder?_step, Option.or_assoc, hoffered]

theorem nodup_types_after (h : u.registry.types.Nodup) (steps : List Step) :
    (u.after steps).registry.types.Nodup := by
  induction steps generalizing u with
  | nil => exact h
  | cons step steps ih => exact ih (nodup_types_step h step)

/-- A builder is offered for a type just if it is to be registered. -/
theorem isSome_offered?_iff {steps : List Step} :
    (offered? type steps).isSome ↔ ∃ builder, .register type builder ∈ steps := by
  unfold offered?
  rw [List.findSome?_isSome_iff]
  constructor
  · rintro ⟨step, hstep, hoffered⟩
    cases step with
    | build p => cases hoffered
    | register type' builder =>
      dsimp only [Step.offered?] at hoffered
      by_cases heq : type = type'
      · exact ⟨builder, heq ▸ hstep⟩
      · rw [if_neg heq] at hoffered
        cases hoffered
  · rintro ⟨builder, hstep⟩
    refine ⟨_, hstep, ?_⟩
    rw [Step.offered?, if_pos rfl]
    rfl

/-! ## Builds -/

/-- A builder at hand refuses parameters of another type than its own, without any call. -/
theorem exec_foreign {expected : TaskType} {p : Parameters}
    (h : (expected, builder) ∈ standard.builders) (hp : p.taskType ≠ expected) (s : Session) :
    (builder p).exec s = (.error (.relationMismatch expected p.taskType), s) := by
  simp only [standard, List.mem_cons, Prod.mk.injEq, List.not_mem_nil, or_false] at h
  rcases h with ⟨rfl, rfl⟩ | ⟨rfl, rfl⟩ | ⟨rfl, rfl⟩
  · cases p with
    | sql q => exact absurd rfl hp
    | _ => rfl
  · cases p with
    | datax q => exact absurd rfl hp
    | _ => rfl
  · cases p with
    | procedure q => exact absurd rfl hp
    | _ => rfl

/-- The laws of a registry that was `start` at first and has gone through steps. -/
structure Usage.Lawful (start : Registry) (steps : List Step) (u : Usage) : Prop where
  /-- A type has the first builder that was registered for it. -/
  first : ∀ type, u.registry.builder? type = (start.builder? type).or (offered? type steps)
  /-- It has this one for ever. -/
  keeps : ∀ type builder, u.registry.builder? type = some builder →
    ∀ later, (u.after later).registry.builder? type = some builder
  /-- The types are those for which a builder was registered. -/
  types : ∀ type, type ∈ u.registry.types ↔
    type ∈ start.types ∨ ∃ builder, .register type builder ∈ steps
  /-- Each of them is listed once. -/
  nodup : u.registry.types.Nodup
  /-- A builder for one of them is refused, and nothing changes. -/
  refuses : ∀ type builder, type ∈ u.registry.types →
    u.step (.register type builder) = (.refused (.duplicateRelation type), u)
  /-- A builder for another type is registered, and the others stay. -/
  registers : ∀ type builder, type ∉ u.registry.types → ∃ registry,
    u.step (.register type builder) = (.registered, { u with registry := registry }) ∧
      ∀ other, registry.builder? other =
        if other = type then some builder else u.registry.builder? other
  /-- Parameters of a type are left to the builder of this type, and have no relation, nor lead to any
  call, if there is none. -/
  builds : ∀ type v p, Parameters.ofValue? type v = some p →
    u.step (.build p) = match u.registry.builder? type with
      | some builder => (.built ((builder p).exec u.session).1,
          { u with session := ((builder p).exec u.session).2 })
      | none => (.built (.ok .none), u)
  /-- A builder at hand that serves another type than its own has no answer but that, and makes no
  call. -/
  mismatches : ∀ type v p expected builder, Parameters.ofValue? type v = some p →
    (expected, builder) ∈ standard.builders → u.registry.builder? type = some builder →
    expected ≠ type → u.step (.build p) = (.built (.error (.relationMismatch expected type)), u)

theorem step_build_of_ofValue? {v : Json.Value} {p : Parameters}
    (h : Parameters.ofValue? type v = some p) :
    u.step (.build p) = match u.registry.builder? type with
      | some builder => (.built ((builder p).exec u.session).1,
          { u with session := ((builder p).exec u.session).2 })
      | none => (.built (.ok .none), u) := by
  dsimp only [Usage.step, build]
  rw [Parameters.taskType_of_ofValue? h]
  cases u.registry.builder? type <;> rfl

/-- **A registry that was empty or had the builders at hand obeys the same laws after any run**: the
first builder of a type is the only one. -/
theorem lawful_after {start : Registry} (h : start = .empty ∨ start = .standard) (s : Session)
    (steps : List Step) : ((⟨start, s⟩ : Usage).after steps).Lawful start steps where
  first := builder?_after ⟨start, s⟩ steps
  keeps := by
    intro type builder hbuilder later
    rw [builder?_after, hbuilder]
    rfl
  types := by
    intro type
    rw [mem_types_iff, builder?_after, Option.isSome_or, Bool.or_eq_true, isSome_offered?_iff,
      ← mem_types_iff]
  nodup := by
    have hstart : start.types.Nodup := by rcases h with rfl | rfl <;> decide
    exact nodup_types_after hstart steps
  refuses := fun type builder hmem => step_register_of_mem hmem builder
  registers := by
    intro type builder hmem
    refine ⟨_, step_register_of_notMem hmem builder, fun other => ?_⟩
    rw [builder?_append]
    by_cases heq : other = type
    · rw [if_pos heq, if_pos heq, heq, notMem_types_iff.1 hmem]
      rfl
    · rw [if_neg heq, if_neg heq, Option.or_none]
  builds := fun type v p hp => step_build_of_ofValue? hp
  mismatches := by
    intro type v p expected builder hp hbuilder hstored hne
    have htype := Parameters.taskType_of_ofValue? hp
    rw [step_build_of_ofValue? hp, hstored]
    dsimp only
    rw [exec_foreign hbuilder (htype ▸ hne.symm), htype]

/-- A builder of transfers that was registered for requests stays there, and refuses them. -/
theorem lawful_after_foreign :
    let s := Session.fresh (.ofSnapshot listedRecords) fun _ => none
    let u := (⟨standard, s⟩ : Usage).after
      [.register .http buildTransfer, .register .http buildSql, .build (.plain .http .null)]
    u.registry.types = [.sql, .datax, .procedure, .http] ∧
      u.step (.register .http buildProcedure) = (.refused (.duplicateRelation .http), u) ∧
      u.step (.build (.plain .http .null)) =
        (.built (.error (.relationMismatch .datax .http)), u) := by
  intro s u
  have hlaws : u.Lawful standard _ := lawful_after (.inr rfl) s _
  have htypes : u.registry.types = [.sql, .datax, .procedure, .http] := rfl
  refine ⟨htypes, hlaws.refuses _ _ ?_, ?_⟩
  · rw [htypes]
    decide
  · exact hlaws.mismatches .http .null _ .datax buildTransfer rfl (by simp [standard]) rfl (by decide)

end Handoff.Registry
