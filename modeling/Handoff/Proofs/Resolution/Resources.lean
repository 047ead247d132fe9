import Handoff.Proofs.Resolution.Needs
import Handoff.Proofs.Session.Outages
/-!
# Resources by the references to them

Which resources are looked up, and what comes of it, depends on the set of ids that parameters refer
to, and on nothing else about the parameters.

* `Store.Finds`: what there is to find, for a store and a policy; `Store.Finds.unique`: it is one thing.
* `exec_findResources`: the run of the look-up in closed form.
* `found_by_reference`: **the look-up comes to just what there is to find, by one call for the ids that
  are referred to, or by none.** Parameters that refer to the same ids come to the same.
-/

namespace Handoff

open Resolving

/-! ## What there is to find -/

namespace Store

/-- The parameters refer to a resource that is not stored. -/
def Unknown (store : Store) (p : Parameters) (id : ResourceId) : Prop :=
  p.Refers id ∧ ∀ r ∈ store.resources, r.id ≠ id

/-- The stored resources that parameters refer to, in the order of the store. -/
def referred (store : Store) (p : Parameters) : List Resource :=
  store.resources.filter fun r => p.Refers r.id

/-- The ids that parameters refer to and that no resource has, in ascending order. -/
def unknownIds (store : Store) (p : Parameters) : List ResourceId :=
  missingIds (ascending p.resourceIds) (store.referred p)

/-- What comes of looking for the resources that parameters refer to: nothing to look for, ids that
may not be missing, or the names of the resources. -/
inductive Finds (store : Store) (policy : ResourcePolicy) (p : Parameters) :
    Except Fault ResourceNames → Prop where
  | nothing (hnone : ∀ id, ¬p.Refers id) : Finds store policy p (.ok .none)
  | missing {ids : List ResourceId} (hpolicy : policy = .strict) (hne : ids ≠ [])
    (hsorted : ids.Pairwise (·.toInt < ·.toInt)) (hids : ∀ id, id ∈ ids ↔ store.Unknown p id) :
    Finds store policy p (.error (.missingResources ids))
  | names {id : ResourceId} (hid : p.Refers id)
    (hpolicy : policy = .strict → ∀ id, ¬store.Unknown p id) :
    Finds store policy p (.ok (.names ((store.referred p).map (·.fullName))))

variable {store : Store} {policy : ResourcePolicy} {p : Parameters}

/-- There is one thing to find. -/
theorem Finds.unique {result result' : Except Fault ResourceNames}
    (h : store.Finds policy p result) (h' : store.Finds policy p result') : result = result' := by
  -- missing ids are some, so that neither of the other two can be the case along with them
  have hmissing : ∀ {ids : List ResourceId}, ids ≠ [] → (∀ id, id ∈ ids ↔ store.Unknown p id) →
      ∃ id, store.Unknown p id := by
    intro ids hne hids
    obtain ⟨id, hid⟩ := List.exists_mem_of_ne_nil ids hne
    exact ⟨id, (hids id).1 hid⟩
  cases h with
  | nothing hnone =>
    cases h' with
    | nothing => rfl
    | missing _ hne _ hids =>
      obtain ⟨id, hid, -⟩ := hmissing hne hids
      exact absurd hid (hnone id)
    | names hid _ => exact absurd hid (hnone _)
  | missing hpolicy hne hsorted hids =>
    obtain ⟨id, hid⟩ := hmissing hne hids
    cases h' with
    | nothing hnone => exact absurd hid.1 (hnone id)
    | missing _ _ hsorted' hids' =>
      have heq := eq_of_pairwise_lt hsorted hsorted' fun id => (hids id).trans (hids' id).symm
      rw [heq]
    | names _ hknown => exact absurd hid (hknown hpolicy id)
  | names hid hknown =>
    cases h' with
    | nothing hnone => exact absurd hid (hnone _)
    | missing hpolicy hne _ hids =>
      obtain ⟨id, hid⟩ := hmissing hne hids
      exact absurd hid (hknown hpolicy id)
    | names => rfl

/-- A lenient look-up finds the resources that are not among the missing ones of a strict one. -/
theorem Finds.names_of_missing {ids : List ResourceId} {resources : ResourceNames}
    (h : store.Finds .strict p (.error (.missingResources ids)))
    (hfound : store.Finds .lenient p (.ok resources)) :
    resources = .names ((store.resources.filter fun r => p.Refers r.id ∧ r.id ∉ ids).map
      (·.fullName)) := by
  cases h with
  | missing _ hne _ hids =>
    obtain ⟨id, hid⟩ := List.exists_mem_of_ne_nil ids hne
    have hnames := hfound.unique (.names ((hids id).1 hid).1 nofun)
    have hreferred : store.referred p =
        store.resources.filter fun r => p.Refers r.id ∧ r.id ∉ ids := by
      refine List.filter_congr fun r hr => ?_
      have hstored : r.id ∉ ids := fun hmem => ((hids r.id).1 hmem).2 r hr rfl
      rw [decide_eq_decide]
      exact (and_iff_left hstored).symm
    rw [Except.ok.inj hnames, hreferred]

/-- The resources that are looked up are those that are referred to. -/
theorem resourcesOf_ascending (store : Store) (p : Parameters) :
    store.resourcesOf (ascending p.resourceIds) = store.referred p := by
  unfold resourcesOf referred
  refine List.filter_congr fun r _ => ?_
  rw [Bool.eq_iff_iff, List.contains_iff_mem, Parameters.mem_ascending_resourceIds]
  exact decide_eq_true_iff.symm

theorem mem_referred {r : Resource} :
    r ∈ store.referred p ↔ r ∈ store.resources ∧ p.Refers r.id := by
  simp [referred]

theorem mem_unknownIds {id : ResourceId} : id ∈ store.unknownIds p ↔ store.Unknown p id := by
  unfold unknownIds missingIds Unknown
  rw [List.mem_filter, Parameters.mem_ascending_resourceIds]
  refine and_congr_right fun hid => ?_
  simp only [Bool.not_eq_true', List.any_eq_false, decide_eq_true_eq, mem_referred]
  constructor
  · intro h r hr heq
    exact h r ⟨hr, heq ▸ hid⟩ heq
  · intro h r hr
    exact h r hr.1

theorem pairwise_unknownIds (store : Store) (p : Parameters) :
    (store.unknownIds p).Pairwise (·.toInt < ·.toInt) := by
  have hsub : (store.unknownIds p).Sublist (ascending p.resourceIds) := List.filter_sublist
  exact (ascending_pairwise p.resourceIds).sublist hsub

/-- Among resources with distinct ids there is just one for each id that is referred to and known. -/
theorem nodup_referred (h : (store.resources.map (·.id)).Nodup) :
    ((store.referred p).map (·.id)).Nodup ∧
      ∀ id, id ∈ (store.referred p).map (·.id) ↔
        p.Refers id ∧ id ∈ store.resources.map (·.id) := by
  have hsub : ((store.referred p).map (·.id)).Sublist (store.resources.map (·.id)) :=
    List.filter_sublist.map _
  refine ⟨h.sublist hsub, fun id => ?_⟩
  simp only [List.mem_map, mem_referred]
  constructor
  · rintro ⟨r, ⟨hr, hid⟩, rfl⟩
    exact ⟨hid, r, hr, rfl⟩
  · rintro ⟨hid, r, hr, rfl⟩
    exact ⟨r, ⟨hr, hid⟩, rfl⟩

end Store

/-! ## Runs of the look-up -/

variable {policy : ResourcePolicy} {p : Parameters} {s : Session}

/-- Without a reference there is no call. -/
theorem exec_findResources_of_none (policy : ResourcePolicy) (h : p.resourceIds = [])
    (s : Session) : (findResources policy p).exec s = (.ok .none, s) := by
  have hnone : ascending p.resourceIds = [] := ascending_eq_nil_iff.2 h
  unfold findResources
  simp only [hnone, if_true]
  rfl

/-- With references there is one call, which fails if its method is down. -/
theorem exec_findResources_of_down {cause : ServiceFault} (policy : ResourcePolicy)
    (h : p.resourceIds ≠ []) (hdown : s.outages .resourcesByIds = some cause) :
    (findResources policy p).exec s = (.error (.service cause),
      { s with calls := s.calls ++ [.resourcesByIds (ascending p.resourceIds)] }) := by
  have hsome : ascending p.resourceIds ≠ [] := mt ascending_eq_nil_iff.1 h
  have hdown : s.outages (Call.resourcesByIds (ascending p.resourceIds)).method = some cause := hdown
  unfold findResources
  simp only [hsome, if_false]
  rw [exec_bind, exec_ask, hdown]

/-- With references there is one call. If ids are unknown, a strict look-up fails, and a lenient one
logs them. -/
theorem exec_findResources (policy : ResourcePolicy) (h : p.resourceIds ≠ [])
    (hup : s.outages .resourcesByIds = none) :
    (findResources policy p).exec s =
      if s.store.unknownIds p = [] then
        (.ok (.names ((s.store.referred p).map (·.fullName))),
          { s with calls := s.calls ++ [.resourcesByIds (ascending p.resourceIds)] })
      else match policy with
        | .strict => (.error (.missingResources (s.store.unknownIds p)),
          { s with calls := s.calls ++ [.resourcesByIds (ascending p.resourceIds)] })
        | .lenient => (.ok (.names ((s.store.referred p).map (·.fullName))),
          { s with
            calls := s.calls ++ [.resourcesByIds (ascending p.resourceIds)]
            events := s.events ++ [.resourcesDropped (s.store.unknownIds p)] }) := by
  have hsome : ascending p.resourceIds ≠ [] := mt ascending_eq_nil_iff.1 h
  have hup : s.outages (Call.resourcesByIds (ascending p.resourceIds)).method = none := hup
  unfold findResources
  simp only [hsome, if_false]
  rw [exec_ask_bind _ hup, Store.resourcesOf_ascending]
  change (ite (s.store.unknownIds p ≠ []) _ _ : Resolving ResourceNames).exec _ = _
  by_cases hknown : s.store.unknownIds p = []
  · rw [if_pos hknown, if_neg (not_not_intro hknown)]
    rfl
  · rw [if_neg hknown, if_pos hknown]
    cases policy <;> rfl

/-- The look-up comes to what there is to find, unless it fails. -/
theorem finds_of_up (hup : p.resourceIds ≠ [] → s.outages .resourcesByIds = none) :
    s.store.Finds policy p ((findResources policy p).exec s).1 := by
  by_cases hnone : p.resourceIds = []
  · rw [exec_findResources_of_none policy hnone]
    exact .nothing (Parameters.resourceIds_eq_nil_iff.1 hnone)
  · obtain ⟨id, hid⟩ := List.exists_mem_of_ne_nil _ hnone
    have hid : p.Refers id := Parameters.mem_resourceIds.1 hid
    rw [exec_findResources policy hnone (hup hnone)]
    by_cases hknown : s.store.unknownIds p = []
    · -- every id is known, so that the policy does not matter
      rw [if_pos hknown]
      refine .names hid fun _ id hunknown => ?_
      have hmem := Store.mem_unknownIds.2 hunknown
      rw [hknown] at hmem
      exact List.not_mem_nil hmem
    · rw [if_neg hknown]
      cases policy with
      | strict => exact .missing rfl hknown (s.store.pairwise_unknownIds p) fun _ => Store.mem_unknownIds
      | lenient => exact .names hid nofun

/-- What a look-up has come to is what there is to find, even where methods are down. -/
theorem finds_of_ok {resources : ResourceNames}
    (h : ((findResources policy p).exec s).1 = .ok resources) :
    s.store.Finds policy p (.ok resources) := by
  have hup : p.resourceIds ≠ [] → s.outages .resourcesByIds = none := by
    intro hsome
    rw [Option.eq_none_iff_forall_ne_some]
    intro cause hdown
    rw [exec_findResources_of_down policy hsome hdown] at h
    cases h
  rw [← h]
  exact finds_of_up hup

/-- **The look-up comes to just what there is to find, by one call for the ids that are referred to,
each once and in ascending order, or by none.** Where no two resources share an id, there is one name
for each id that is referred to and known. Parameters that refer to the same ids, whichever way, come
to the same by the same call. -/
theorem found_by_reference (policy : ResourcePolicy) (p : Parameters) (s : Session) :
    let run := (findResources policy p).exec s.up
    (∀ result, run.1 = result ↔ s.store.Finds policy p result) ∧
    ((∀ id, ¬p.Refers id) → run.2 = s.up) ∧
    (∀ id, p.Refers id → ∃ ids, ids.Pairwise (·.toInt < ·.toInt) ∧
      (∀ id, id ∈ ids ↔ p.Refers id) ∧ run.2.calls = s.calls ++ [.resourcesByIds ids]) ∧
    ((s.store.resources.map (·.id)).Nodup → ((s.store.referred p).map (·.id)).Nodup ∧
      ∀ id, id ∈ (s.store.referred p).map (·.id) ↔
        p.Refers id ∧ id ∈ s.store.resources.map (·.id)) ∧
    ∀ q, (∀ id, q.Refers id ↔ p.Refers id) →
      (findResources policy q).exec s = (findResources policy p).exec s := by
  intro run
  have hfinds : s.store.Finds policy p run.1 := finds_of_up (s := s.up) fun _ => rfl
  refine ⟨fun result => ?_, fun hnone => ?_, fun id hid => ?_, Store.nodup_referred, fun q hq => ?_⟩
  · constructor
    · rintro rfl
      exact hfinds
    · exact hfinds.unique
  · have hnil := Parameters.resourceIds_eq_nil_iff.2 hnone
    exact congrArg Prod.snd (exec_findResources_of_none policy hnil s.up)
  · have hsome : p.resourceIds ≠ [] := List.ne_nil_of_mem (Parameters.mem_resourceIds.2 hid)
    refine ⟨ascending p.resourceIds, ascending_pairwise _,
      fun _ => Parameters.mem_ascending_resourceIds, ?_⟩
    have hrun := exec_findResources (s := s.up) policy hsome rfl
    show ((findResources policy p).exec s.up).2.calls = _
    rw [hrun]
    split
    · rfl
    · cases policy <;> rfl
  · have hids : ascending q.resourceIds = ascending p.resourceIds := by
      refine ascending_congr fun id => ?_
      rw [Parameters.mem_resourceIds, Parameters.mem_resourceIds]
      exact hq id
    unfold findResources
    rw [hids]

end Handoff
