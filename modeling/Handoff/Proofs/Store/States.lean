import Handoff.Store
import Mathlib.Data.List.Nodup
/-!
# States of tasks in a store

Changes of states are all that is ever written to a store. They add and remove no task, and a store
looks the same before and after them, but for the states themselves.

* `Store.Reachable`: the stores that come out of a snapshot by changes of states.
* `Store.Reachable.keyed`: in such a store no two tasks have the same id.
* `Store.change_failure`: **marking a stored task as failed is never rejected, and changes no more
  than its state.**
* `Store.Alike`: stores that differ in states alone; `Alike.detail?_eq`: what they show of a task.
-/

namespace Handoff

/-- A task that is marked as failed. -/
def Task.failed (t : Task) : Task :=
  { t with status := .failure }

namespace Store

variable {s s' : Store} {t u : Task}

/-! ## Distinct ids -/

/-- No two tasks have the same id. -/
def Keyed (s : Store) : Prop :=
  (s.tasks.map (·.id)).Nodup

theorem mem_of_mem_latest {α κ : Type} [DecidableEq κ] {key : α → κ} {a : α} {as : List α}
    (h : a ∈ latest key as) : a ∈ as := by
  induction as with
  | nil => cases h
  | cons b as ih =>
    unfold latest at h
    split at h
    · exact List.mem_cons_of_mem b (ih h)
    · rcases List.mem_cons.1 h with rfl | h
      · exact List.mem_cons_self
      · exact List.mem_cons_of_mem b (ih h)

/-- The last elements of their keys have different keys. -/
theorem nodup_latest {α κ : Type} [DecidableEq κ] (key : α → κ) (as : List α) :
    ((latest key as).map key).Nodup := by
  induction as with
  | nil => exact List.nodup_nil
  | cons a as ih =>
    unfold latest
    split
    · exact ih
    · rename_i hlater
      refine List.nodup_cons.2 ⟨?_, ih⟩
      -- a later element of the same key would have taken the place of this one
      intro hkey
      obtain ⟨b, hb, hkey⟩ := List.mem_map.1 hkey
      exact hlater (List.any_eq_true.2 ⟨b, mem_of_mem_latest hb, by simpa using hkey⟩)

theorem keyed_ofSnapshot (records : Snapshot) : (ofSnapshot records).Keyed :=
  nodup_latest Task.id records.tasks

/-- A change leaves all tasks their ids. -/
theorem keyed_change {c : StateChange} (hs : s.Keyed) (hc : s.change c = .ok s') : s'.Keyed := by
  unfold change at hc
  split at hc
  · obtain rfl := Except.ok.inj hc
    have hids : (s.tasks.map fun t => if t.id = c.taskId then applied c t else t).map (·.id) =
        s.tasks.map (·.id) := by
      rw [List.map_map]
      refine List.map_congr_left fun t _ => ?_
      show (if t.id = c.taskId then applied c t else t).id = t.id
      split <;> rfl
    unfold Keyed
    rw [hids]
    exact hs
  · cases hc

/-! ## Reachable stores -/

/-- The stores that come out of a snapshot by changes of states. -/
inductive Reachable (records : Snapshot) : Store → Prop where
  | start : Reachable records (ofSnapshot records)
  | change {s s' : Store} {c : StateChange} (hs : Reachable records s) (hc : s.change c = .ok s') :
    Reachable records s'

theorem Reachable.keyed {records : Snapshot} (h : Reachable records s) : s.Keyed := by
  induction h with
  | start => exact keyed_ofSnapshot records
  | change hs hc ih => exact keyed_change ih hc

/-! ## Marking a task as failed -/

theorem Keyed.eq_of_id_eq (hs : s.Keyed) (ht : t ∈ s.tasks) (hu : u ∈ s.tasks)
    (hid : u.id = t.id) : u = t :=
  List.inj_on_of_nodup_map hs hu ht hid

/-- The store after a task was marked as failed. -/
def fail (s : Store) (t : Task) : Store :=
  { s with
    tasks := s.tasks.map fun u => if u.id = t.id then u.failed else u
    changes := s.changes ++ [.failure t] }

/-- Marking a stored task as failed is never rejected, and changes no more than its state. -/
theorem change_failure (hs : s.Keyed) (ht : t ∈ s.tasks) : s.change (.failure t) = .ok (s.fail t) := by
  have hstored : (s.tasks.any fun u => u.id = (StateChange.failure t).taskId) = true :=
    List.any_eq_true.2 ⟨t, ht, by simp [StateChange.failure]⟩
  have htasks : (s.tasks.map fun u =>
      if u.id = (StateChange.failure t).taskId then applied (.failure t) u else u) =
        (s.fail t).tasks := by
    refine List.map_congr_left fun u hu => ?_
    show (if u.id = t.id then applied (.failure t) u else u) = if u.id = t.id then u.failed else u
    split
    · -- it is the task itself, so that its own start time and host are written to it
      rename_i hid
      rw [hs.eq_of_id_eq ht hu hid]
      rfl
    · rfl
  unfold change
  rw [if_pos hstored, htasks]
  rfl

/-- The task itself is found in its new state. -/
theorem task?_fail (ht : s.task? t.id = some t) : (s.fail t).task? t.id = some t.failed := by
  have hid : (fun u : Task => decide (u.id = t.id)) ∘ (fun u => if u.id = t.id then u.failed else u) =
      fun u => decide (u.id = t.id) := by
    funext u
    show decide ((if u.id = t.id then u.failed else u).id = t.id) = decide (u.id = t.id)
    split <;> rfl
  show (s.tasks.map _).find? _ = _
  rw [List.find?_map, hid, show s.tasks.find? (fun u => u.id = t.id) = some t from ht]
  exact congrArg some (if_pos rfl)

/-! ## Stores that differ in states -/

/-- A store without the changes and without the states of tasks, which all count as failed. -/
def stateless (s : Store) : Store :=
  { s with tasks := s.tasks.map Task.failed, changes := [] }

/-- The stores differ in the states of tasks and in the changes alone. -/
def Alike (s₁ s₂ : Store) : Prop :=
  s₁.stateless = s₂.stateless

variable {s₁ s₂ s₃ : Store}

theorem alike_refl (s : Store) : Alike s s :=
  rfl

theorem Alike.trans (h : Alike s₁ s₂) (h' : Alike s₂ s₃) : Alike s₁ s₃ :=
  Eq.trans h h'

theorem keyed_stateless (s : Store) : s.stateless.Keyed ↔ s.Keyed := by
  have hids : s.stateless.tasks.map (·.id) = s.tasks.map (·.id) := by
    show (s.tasks.map Task.failed).map (·.id) = _
    rw [List.map_map]
    rfl
  unfold Keyed
  rw [hids]

theorem Alike.keyed (h : Alike s₁ s₂) (hs : s₂.Keyed) : s₁.Keyed := by
  rw [← keyed_stateless, h, keyed_stateless]
  exact hs

/-- Marking a task as failed changes states alone. -/
theorem fail_alike (s : Store) (t : Task) : Alike (s.fail t) s := by
  have htasks : (s.tasks.map fun u => if u.id = t.id then u.failed else u).map Task.failed =
      s.tasks.map Task.failed := by
    rw [List.map_map]
    refine List.map_congr_left fun u _ => ?_
    show (if u.id = t.id then u.failed else u).failed = u.failed
    split <;> rfl
  show ({ s with
    tasks := (s.tasks.map fun u => if u.id = t.id then u.failed else u).map Task.failed
    changes := [] } : Store) = _
  rw [htasks]
  rfl

theorem task?_stateless (s : Store) (id : TaskId) :
    s.stateless.task? id = (s.task? id).map Task.failed := by
  have hid : (fun t : Task => decide (t.id = id)) ∘ Task.failed = fun t => decide (t.id = id) := rfl
  show (s.tasks.map Task.failed).find? _ = _
  rw [List.find?_map, hid]
  rfl

/-- A task is the same, but for its state. -/
theorem Alike.task?_eq (h : Alike s₁ s₂) (id : TaskId) :
    (s₁.task? id).map Task.failed = (s₂.task? id).map Task.failed := by
  rw [← task?_stateless, ← task?_stateless, h]

/-- The details of a task are the same, but for its state. -/
theorem Alike.detail?_eq (h : Alike s₁ s₂) (id : TaskId) :
    (s₁.detail? id).map Task.failed = (s₂.detail? id).map Task.failed := by
  have hstateless : ∀ s : Store, (s.detail? id).map Task.failed = s.stateless.detail? id := by
    intro s
    unfold detail?
    rw [task?_stateless, Option.map_map, Option.map_map]
    rfl
  rw [hstateless s₁, hstateless s₂, h]

theorem Alike.any_eq (h : Alike s₁ s₂) (id : TaskId) :
    (s₁.tasks.any fun t => t.id = id) = s₂.tasks.any fun t => t.id = id := by
  have hstateless : ∀ s : Store, (s.stateless.tasks.any fun t => t.id = id) =
      s.tasks.any fun t => t.id = id := fun s => List.any_map
  rw [← hstateless s₁, ← hstateless s₂, h]

end Store

end Handoff
