import Handoff.Fixture
/-!
# The references of a fixture

A fixture names its ready tasks by their texts, or without any text all of its tasks are ready.

* `Fixture.listed`: the references of a fixture whose ready texts can be read, in closed form.
* `Fixture.references_eq`: **a fixture whose ready texts can be read has the references listed.**
* `Fixture.references_error`: with a ready text that denotes no reference it has none.
-/

namespace Handoff

namespace Fixture

variable {f : Fixture} {group : String} {now : Nat → Instant} {raws : List String}

/-- The references of a fixture whose ready texts can be read: those that the texts denote, or
without any text one for each task, whose time is the clock's where the task has none. -/
def listed (f : Fixture) (group : String) (now : Nat → Instant) : List Reference :=
  if f.ready = [] then
    f.records.tasks.mapIdx fun i t => ⟨f.processPriority t.processId, t.processId, t.priority, t.id,
      t.submitTime.getD (now i), t.workerGroup.getD group⟩
  else f.ready.filterMap Reference.read?

theorem make_map (now : Nat → Instant) (draft : Task → Draft) (i : Nat) (tasks : List Task) :
    make now i (tasks.map draft) = tasks.mapIdx fun k t => (draft t).stamp (now (i + k)) := by
  induction tasks generalizing i with
  | nil => rfl
  | cons t tasks ih =>
    have hnext : ∀ k, i + 1 + k = i + (k + 1) := fun k => by omega
    rw [List.map_cons, make, ih, List.mapIdx_cons]
    simp only [hnext]
    rfl

/-- References that are complete are left as they are. -/
theorem make_ofReference (now : Nat → Instant) (i : Nat) (refs : List Reference) :
    make now i (refs.map .ofReference) = refs := by
  induction refs generalizing i with
  | nil => rfl
  | cons r refs ih =>
    rw [List.map_cons, make, ih]
    rfl

theorem readReady_eq (h : ∀ raw ∈ raws, (Reference.read? raw).isSome) :
    readReady raws = .ok (raws.filterMap Reference.read?) := by
  induction raws with
  | nil => rfl
  | cons raw raws ih =>
    obtain ⟨hraw, hraws⟩ := List.forall_mem_cons.1 h
    obtain ⟨r, hr⟩ := Option.isSome_iff_exists.1 hraw
    rw [readReady, hr, ih hraws, List.filterMap_cons, hr]

theorem readReady_error (h : ∃ raw ∈ raws, Reference.read? raw = none) :
    ∃ raw, readReady raws = .error raw := by
  induction raws with
  | nil =>
    obtain ⟨_, hmem, -⟩ := h
    cases hmem
  | cons raw raws ih =>
    cases hr : Reference.read? raw with
    | none => exact ⟨raw, by rw [readReady, hr]⟩
    | some r =>
      obtain ⟨raw', hmem, hnone⟩ := h
      have hlater : raw' ∈ raws := by
        rcases List.mem_cons.1 hmem with rfl | hmem
        · rw [hr] at hnone
          cases hnone
        · exact hmem
      obtain ⟨raw'', hrest⟩ := ih ⟨raw', hlater, hnone⟩
      exact ⟨raw'', by rw [readReady, hr, hrest]⟩

/-- **A fixture whose ready texts can be read has the references listed.** -/
theorem references_eq (h : ∀ raw ∈ f.ready, (Reference.read? raw).isSome) :
    f.references group now = .ok (f.listed group now) := by
  unfold references drafts listed
  by_cases hready : f.ready = []
  · rw [if_pos hready, if_pos hready]
    show Except.ok (make now 0 (f.records.tasks.map (f.draftOf group))) = _
    rw [make_map]
    simp only [Nat.zero_add]
    rfl
  · rw [if_neg hready, if_neg hready, readReady_eq h]
    show Except.ok (make now 0 (_ : List Draft)) = _
    rw [make_ofReference]

theorem references_error (h : ∃ raw ∈ f.ready, Reference.read? raw = none) :
    ∃ raw, f.references group now = .error raw := by
  obtain ⟨raw, hmem, hnone⟩ := h
  have hready : f.ready ≠ [] := List.ne_nil_of_mem hmem
  obtain ⟨raw', herror⟩ := readReady_error ⟨raw, hmem, hnone⟩
  refine ⟨raw', ?_⟩
  unfold references drafts
  rw [if_neg hready, herror]
  rfl

end Fixture

end Handoff
