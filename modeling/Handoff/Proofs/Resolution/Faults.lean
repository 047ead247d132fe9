import Handoff.Proofs.Relation.UdfList
import Handoff.Proofs.Resolution.Calls
/-!
# Whose fault it is

An iteration that ends with a fault ends with one of three sorts: a call that the record service
failed to answer, records that do not exist or cannot be read, or a dispatcher that failed. The class
of the fault tells which.

* `Fault.OfRecords`: the faults that stored records are to blame for.
* `Store.Spoils.ofRecords`: a call that was answered has to answer for no others.
* `Resolver.exec_resolve`: **a resolution that ends with a fault ends with the first failure among
  its calls, or else with a fault of the records.**
* `consumeOne_fault`: **the class of a fault names the party to blame.**
-/

namespace Handoff

namespace Fault

variable {fault : Fault}

/-- The faults that records are to blame for: one that is needed does not exist, or one cannot be
read. -/
def OfRecords : Fault → Prop
  | taskNotFound _ | noProcess _ | noDefinition _ | dataSourceNotFound _ | missingResources _
  | unknownTaskType _ | invalidTaskNode _ | invalidParameters _ | invalidUdfId _ _ => True
  | _ => False

theorem OfRecords.kind (h : fault.OfRecords) :
    fault.kind = .dependency ∨ fault.kind = .malformed := by
  cases fault <;> first | exact .inl rfl | exact .inr rfl | exact h.elim

/-- The faults of the program itself: no record, no service and no dispatcher is to blame. -/
def OfProgram : Fault → Prop
  | incompleteContext _ | relationMismatch _ _ | duplicateRelation _ | settings _ | encoding
  | queue _ => True
  | _ => False

theorem OfRecords.not_ofProgram (h : fault.OfRecords) : ¬fault.OfProgram := by
  intro hprogram
  cases fault <;> first | exact h | exact hprogram

end Fault

/-! ## Resolutions -/

/-- A call has to answer for no faults but those of the records. -/
theorem Store.Spoils.ofRecords {store : Store} {policy : ResourcePolicy} {id : TaskId} {call : Call}
    {fault : Fault} (h : store.Spoils policy id call fault) : fault.OfRecords := by
  cases h with
  | invalidUdfs _ _ _ hread =>
    obtain ⟨entry, -, cause, -, rfl⟩ := readUdfIds_eq_error hread
    trivial
  | _ => trivial

namespace Resolver

/-- **A resolution that ends with a fault ends with the first failure among its calls, or else with a
fault of the records.** If a call fails, the resolution ends so. -/
theorem exec_resolve (settings : Settings) (reference : Reference) (s : Session) :
    let run := ((⟨.standard, settings⟩ : Resolver).resolve reference).exec s
    ∃ calls, run.2.calls = s.calls ++ calls ∧
      (∀ {cause}, s.outages.failure? calls = some cause → run.1 = .error (.service cause)) ∧
      (s.outages.failure? calls = none → ∀ {fault}, run.1 = .error fault → fault.OfRecords) := by
  intro run
  obtain ⟨plan, hplan⟩ := s.store.exists_leads_iff reference.taskId
  obtain ⟨calls, hcalls, -, hok, hfault⟩ := calls_of_exec settings ((hplan plan).2 rfl)
  refine ⟨calls, hcalls, ?_, ?_⟩
  · intro cause hcause
    cases hresult : run.1 with
    | ok result =>
      obtain ⟨-, hnone⟩ := hok result hresult
      cases hnone.symm.trans hcause
    | error fault =>
      -- only the last call can have failed
      obtain ⟨earlier, last, rfl, hearlier, hlast⟩ := hfault fault hresult
      rw [Outages.failure?_concat hearlier] at hcause
      rw [hcause] at hlast
      rw [hlast]
  · intro hnone fault hresult
    obtain ⟨earlier, last, rfl, hearlier, hlast⟩ := hfault fault hresult
    rw [Outages.failure?_concat hearlier] at hnone
    rw [hnone] at hlast
    exact hlast.ofRecords

end Resolver

/-! ## Iterations -/

variable {settings : Settings} {reference : Reference} {d : Desk} {fault : Fault}

/-- The three ways in which an iteration ends with a fault. -/
theorem consumeOne_fault_cases
    (h : (consumeOne ⟨.standard, settings⟩ reference d).1 = .fault fault) :
    let after := (consumeOne ⟨.standard, settings⟩ reference d).2
    ∃ calls, after.session.calls = d.session.calls ++ calls ∧
      ((∃ cause, d.session.outages.failure? calls = some cause ∧ fault = .service cause ∧
          after.requests = d.requests ∧ after.replies = d.replies) ∨
        (d.session.outages.failure? calls = none ∧ fault.OfRecords ∧
          after.requests = d.requests ∧ after.replies = d.replies) ∨
        d.session.outages.failure? calls = none ∧ ∃ request cause,
          after.requests = d.requests ++ [request] ∧ d.replies.headD .accept = .fail cause ∧
            fault = .dispatch cause) := by
  obtain ⟨calls, hcalls, hfailed, hblame⟩ := Resolver.exec_resolve settings reference d.session
  intro after
  have hafter : after = (consumeOne ⟨.standard, settings⟩ reference d).2 := rfl
  clear_value after
  unfold consumeOne prepare at h hafter
  rcases hrun : ((⟨.standard, settings⟩ : Resolver).resolve reference).exec d.session with
    ⟨fault' | _ | context, s⟩ <;> rw [hrun] at hcalls hfailed hblame h hafter
  · -- the resolution has ended with the fault
    cases h
    subst hafter
    refine ⟨calls, hcalls, ?_⟩
    cases hfail : d.session.outages.failure? calls with
    | some cause => exact .inl ⟨cause, rfl, Except.error.inj (hfailed hfail), rfl, rfl⟩
    | none => exact .inr (.inl ⟨rfl, hblame hfail rfl, rfl, rfl⟩)
  · cases h
  · -- the dispatcher has got the request, so no call has failed
    have hnone : d.session.outages.failure? calls = none := by
      cases hfail : d.session.outages.failure? calls with
      | some cause => cases hfailed hfail
      | none => rfl
    dsimp only at h hafter
    unfold conclude at h hafter
    dsimp only at h hafter
    cases hreply : d.replies.headD .accept with
    | accept | decline | panic =>
      rw [hreply] at h
      cases h
    | fail cause =>
      rw [hreply] at h hafter
      cases h
      subst hafter
      exact ⟨calls, hcalls, .inr (.inr ⟨hnone, _, cause, rfl, rfl, rfl⟩)⟩

/-- **The class of a fault names the party to blame.** A fault of the infrastructure is the first
failure of a call to the record service, a fault of transport is what the dispatcher failed with, and
any other is a missing dependency or malformed data, and has kept the request from the dispatcher. -/
theorem consumeOne_fault
    (h : (consumeOne ⟨.standard, settings⟩ reference d).1 = .fault fault) :
    let after := (consumeOne ⟨.standard, settings⟩ reference d).2
    ∃ calls, after.session.calls = d.session.calls ++ calls ∧
      (fault.kind = .infrastructure ↔
        ∃ call ∈ calls, (d.session.outages call.method).isSome) ∧
      (∀ cause, (calls.findSome? fun call => d.session.outages call.method) = some cause →
        fault = .service cause) ∧
      (fault.kind = .transport ↔ (∃ request, after.requests = d.requests ++ [request]) ∧
        ∃ cause, d.replies.headD .accept = .fail cause) ∧
      (∀ cause, fault.kind = .transport → d.replies.headD .accept = .fail cause →
        fault = .dispatch cause) ∧
      (fault.kind ≠ .infrastructure → fault.kind ≠ .transport →
        (fault.kind = .dependency ∨ fault.kind = .malformed) ∧
          after.requests = d.requests ∧ after.replies = d.replies) ∧
      ¬fault.OfProgram := by
  intro after
  obtain ⟨calls, hcalls, hcases⟩ := consumeOne_fault_cases h
  have hdown : (∃ call ∈ calls, (d.session.outages call.method).isSome) ↔
      (d.session.outages.failure? calls).isSome := Outages.failure?_isSome_iff.symm
  have hsilent : after.requests = d.requests →
      ¬∃ request, after.requests = d.requests ++ [request] := by
    intro hsame hone
    obtain ⟨request, hone⟩ := hone
    have hnothing : [request] = [] := List.self_eq_append_right.1 (hsame.symm.trans hone)
    cases hnothing
  refine ⟨calls, hcalls, ?_⟩
  rw [hdown]
  show _ ∧ (∀ cause, d.session.outages.failure? calls = some cause → _) ∧ _
  rcases hcases with ⟨cause, hfail, rfl, hrequests, hreplies⟩ |
    ⟨hnone, hblame, hrequests, hreplies⟩ | ⟨hnone, request, cause, hrequests, hreply, rfl⟩
  · -- the service is to blame, and its first failure is the fault
    have hquiet := hsilent hrequests
    rw [hfail]
    refine ⟨⟨fun _ => rfl, fun _ => rfl⟩, ?_, ⟨nofun, fun hsent => absurd hsent.1 hquiet⟩, nofun,
      fun hkind => absurd rfl hkind, nofun⟩
    intro cause' hcause
    rw [Option.some.inj hcause]
  · -- the records are to blame
    have hquiet := hsilent hrequests
    rw [hnone]
    have hkind := hblame.kind
    have hinfra : fault.kind ≠ .infrastructure := by
      rcases hkind with h | h <;> rw [h] <;> nofun
    have htransport : fault.kind ≠ .transport := by
      rcases hkind with h | h <;> rw [h] <;> nofun
    exact ⟨⟨fun hkind => absurd hkind hinfra, nofun⟩, nofun,
      ⟨fun hkind => absurd hkind htransport, fun hsent => absurd hsent.1 hquiet⟩,
      fun _ hkind => absurd hkind htransport, fun _ _ => ⟨hkind, hrequests, hreplies⟩,
      hblame.not_ofProgram⟩
  · -- the dispatcher is to blame
    rw [hnone, hreply]
    refine ⟨⟨nofun, nofun⟩, nofun, ⟨fun _ => ⟨⟨request, hrequests⟩, cause, rfl⟩, fun _ => rfl⟩, ?_,
      fun _ hkind => absurd rfl hkind, nofun⟩
    intro cause' _ hcause
    rw [Reply.fail.inj hcause]

/-- A service that does not tell tenants is to blame, whatever else is wrong with the task; for a task
with a context it is the dispatcher that loses the request. -/
theorem consumeOne_fault_parties :
    let outages : Outages := fun method =>
      if method = .tenantForProcess then some (.unavailable "closed") else none
    let replies : List Reply := [.fail (.transport "lost")]
    let down : Desk := .fresh (.fresh (.ofSnapshot Resolver.untenanted) outages) replies
    let up : Desk := .fresh (.fresh (.ofSnapshot Resolver.sqlRecords) fun _ => none) replies
    let run := consumeOne ⟨.standard, .standard⟩ Resolver.shellReference
    ((run down).1 = .fault (.service (.unavailable "closed")) ∧
      ∃ calls, (run down).2.session.calls = down.session.calls ++ calls ∧
        ∃ call ∈ calls, (outages call.method).isSome) ∧
    (run up).1 = .fault (.dispatch (.transport "lost")) ∧
      ∃ request, (run up).2.requests = up.requests ++ [request] := by
  intro outages replies down up run
  have hdown : (run down).1 = .fault (.service (.unavailable "closed")) := by decide +kernel
  have hup : (run up).1 = .fault (.dispatch (.transport "lost")) := by decide +kernel
  obtain ⟨calls, hcalls, hservice, -⟩ := consumeOne_fault hdown
  obtain ⟨_, -, -, -, hdispatch, -⟩ := consumeOne_fault hup
  exact ⟨⟨hdown, calls, hcalls, hservice.1 rfl⟩, hup, (hdispatch.1 rfl).1⟩

end Handoff
