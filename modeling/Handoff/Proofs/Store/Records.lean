import Handoff.Store
/-!
# The records that count

Of records listed with the same id the last one counts. A store that was filled from a snapshot
looks up just those.

* `last?`: the last element of a key; `last?_append`, `last?_eq_none_iff`: its laws.
* `find?_latest`: **what a look-up finds among the latest elements is the last one of its key.**
* `Snapshot.task?`, `Snapshot.process?` and so on: the records of a snapshot that count.
-/

namespace Handoff

section last

variable {α κ : Type} [DecidableEq κ] {key : α → κ} {k : κ} {a : α} {as bs : List α}

/-- The last element with a key. -/
def last? (key : α → κ) (k : κ) (as : List α) : Option α :=
  (as.filter fun a => key a = k).getLast?

/-- What stands later comes first in the search. -/
theorem last?_append : last? key k (as ++ bs) = (last? key k bs).or (last? key k as) := by
  unfold last?
  rw [List.filter_append, List.getLast?_append]

theorem last?_singleton : last? key k [a] = if key a = k then some a else none := by
  unfold last?
  by_cases hk : key a = k <;> simp [hk]

theorem last?_cons :
    last? key k (a :: as) = (last? key k as).or (if key a = k then some a else none) := by
  have h : last? key k ([a] ++ as) = (last? key k as).or (last? key k [a]) := last?_append
  rw [last?_singleton] at h
  exact h

theorem last?_eq_none_iff : last? key k as = none ↔ ∀ a ∈ as, key a ≠ k := by
  unfold last?
  rw [List.getLast?_eq_none_iff, List.filter_eq_nil_iff]
  simp only [decide_eq_true_eq, ne_eq]

theorem key_of_last? (h : last? key k as = some a) : key a = k := by
  have hmem := List.mem_of_getLast? h
  rw [List.mem_filter, decide_eq_true_eq] at hmem
  exact hmem.2

/-- **What a look-up finds among the latest elements is the last one of its key.** -/
theorem find?_latest (key : α → κ) (k : κ) (as : List α) :
    (latest key as).find? (fun a => key a = k) = last? key k as := by
  induction as with
  | nil => rfl
  | cons a as ih =>
    rw [last?_cons]
    unfold latest
    split
    · -- a later element has the key of this one, so this one is never found
      rename_i hlater
      obtain ⟨b, hb, hkey⟩ := List.any_eq_true.1 hlater
      rw [decide_eq_true_eq] at hkey
      rw [ih]
      by_cases hk : key a = k
      · have hsome : last? key k as ≠ none := by
          intro hnone
          exact last?_eq_none_iff.1 hnone b hb (hkey.trans hk)
        obtain ⟨c, hc⟩ := Option.ne_none_iff_exists'.1 hsome
        rw [hc]
        rfl
      · rw [if_neg hk, Option.or_none]
    · rename_i hlast
      have hlast : ∀ b ∈ as, key b ≠ key a := by
        intro b hb hkey
        exact hlast (List.any_eq_true.2 ⟨b, hb, by simpa using hkey⟩)
      rw [List.find?_cons, ih]
      by_cases hk : key a = k
      · have hnone : last? key k as = none :=
          last?_eq_none_iff.2 fun b hb => hk ▸ hlast b hb
        simp [hk, hnone]
      · simp [hk]

end last

namespace Snapshot

variable (s : Snapshot)

/-- The task that counts of those with an id. -/
def task? (id : TaskId) : Option Task := last? (·.id) id s.tasks

/-- The process that counts of those with an id. -/
def process? (id : ProcessId) : Option ProcessRun := last? (·.id) id s.processes

/-- The definition that counts of those with an id. -/
def definition? (id : DefinitionId) : Option Definition := last? (·.id) id s.definitions

/-- The tenant that counts of those with an id. -/
def tenant? (id : TenantId) : Option Tenant := last? (·.id) id s.tenants

/-- The user that counts of those with an id. -/
def user? (id : UserId) : Option User := last? (·.id) id s.users

/-- The data source that counts of those with an id. -/
def dataSource? (id : DataSourceId) : Option DataSource := last? (·.id) id s.dataSources

end Snapshot

namespace Store

variable (s : Snapshot)

@[simp]
theorem task?_ofSnapshot (id : TaskId) : (ofSnapshot s).task? id = s.task? id :=
  find?_latest _ id s.tasks

@[simp]
theorem process?_ofSnapshot (id : ProcessId) : (ofSnapshot s).process? id = s.process? id :=
  find?_latest _ id s.processes

@[simp]
theorem definition?_ofSnapshot (id : DefinitionId) :
    (ofSnapshot s).definition? id = s.definition? id :=
  find?_latest _ id s.definitions

@[simp]
theorem tenant?_ofSnapshot (id : TenantId) : (ofSnapshot s).tenant? id = s.tenant? id :=
  find?_latest _ id s.tenants

@[simp]
theorem user?_ofSnapshot (id : UserId) : (ofSnapshot s).user? id = s.user? id :=
  find?_latest _ id s.users

@[simp]
theorem dataSource?_ofSnapshot (id : DataSourceId) :
    (ofSnapshot s).dataSource? id = s.dataSource? id :=
  find?_latest _ id s.dataSources

end Store

end Handoff
