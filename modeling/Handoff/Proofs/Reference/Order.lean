import Handoff.Reference
/-!
# The order of references

References are compared field by field, in another order than the one in which they show their
fields. That is a total order, and it tells any two references apart.

* `Reference.le_trans`, `le_antisymm`, `le_total`: the order of references is total.
* `Reference.Field`, `Field.Same`, `Field.Precedes`: what it means that two references are the same
  in a field, or that one comes first by it.
* `Reference.order_eq_lt_iff`: the first field in which two references differ decides.
* `Reference.order_lawful`: **all of this about the comparison of references.**
-/

namespace Handoff

instance : Std.TransCmp Instant.order :=
  inferInstanceAs <| Std.TransCmp <|
    compareLex (compareOn Instant.day) (compareLex (compareOn Instant.second) (compareOn Instant.nano))

instance : Std.TransOrd Instant :=
  inferInstanceAs <| Std.TransCmp Instant.order

/-- One instant is before another, down to the nanosecond. -/
def Instant.Earlier (a b : Instant) : Prop :=
  a.day < b.day ∨ a.day = b.day ∧ (a.second < b.second ∨ a.second = b.second ∧ a.nano < b.nano)

theorem Instant.order_eq_lt_iff (a b : Instant) : Instant.order a b = .lt ↔ a.Earlier b := by
  unfold Instant.order Instant.Earlier
  simp only [Ordering.then_eq_lt, Int.compare_eq_lt, Nat.compare_eq_lt, Int.compare_eq_eq,
    Nat.compare_eq_eq]

namespace Reference

/-- The order of references is lexicographic in its six keys. -/
instance : Std.TransCmp order :=
  inferInstanceAs <| Std.TransCmp <|
    compareLex (compareOn fun r : Reference => r.processPriority.code) <|
    compareLex (compareOn fun r : Reference => r.processId.toInt) <|
    compareLex (compareOn fun r : Reference => r.taskPriority.code) <|
    compareLex (compareOn fun r : Reference => r.submitTime) <|
    compareLex (compareOn fun r : Reference => r.taskId.toInt) (compareOn fun r => r.workerGroup)

theorem le_refl (a : Reference) : a.le a := by
  unfold le
  rw [(order_eq_iff a a).2 rfl]
  rfl

theorem le_trans {a b c : Reference} (hab : a.le b) (hbc : b.le c) : a.le c :=
  Std.TransCmp.isLE_trans hab hbc

theorem le_antisymm {a b : Reference} (hab : a.le b) (hba : b.le a) : a = b :=
  (order_eq_iff a b).1 (Std.OrientedCmp.isLE_antisymm hab hba)

theorem le_total (a b : Reference) : a.le b ∨ b.le a := by
  have hs : order a b = (order b a).swap := Std.OrientedCmp.eq_swap
  unfold le
  cases h : order b a <;> rw [h] at hs <;> simp [hs]

/-! ## Fields -/

/-- The fields of a reference, those first that count more. -/
inductive Field where
  | processPriority
  | processId
  | taskPriority
  | submitTime
  | taskId
  | workerGroup

namespace Field

/-- Every field once, those first that count more. -/
def all : List Field :=
  [processPriority, processId, taskPriority, submitTime, taskId, workerGroup]

/-- Two references are the same in a field. -/
def Same : Field → Reference → Reference → Prop
  | processPriority, a, b => a.processPriority = b.processPriority
  | processId, a, b => a.processId = b.processId
  | taskPriority, a, b => a.taskPriority = b.taskPriority
  | submitTime, a, b => a.submitTime = b.submitTime
  | taskId, a, b => a.taskId = b.taskId
  | workerGroup, a, b => a.workerGroup = b.workerGroup

/-- By a field, one reference comes before another: it is more urgent, has the smaller number, is
earlier, or stands first in the dictionary. -/
def Precedes : Field → Reference → Reference → Prop
  | processPriority, a, b => a.processPriority.code < b.processPriority.code
  | processId, a, b => a.processId.toInt < b.processId.toInt
  | taskPriority, a, b => a.taskPriority.code < b.taskPriority.code
  | submitTime, a, b => a.submitTime.Earlier b.submitTime
  | taskId, a, b => a.taskId.toInt < b.taskId.toInt
  | workerGroup, a, b => a.workerGroup < b.workerGroup

/-- By the first of some fields in which they differ, one reference comes before another. -/
def FirstPrecedes : List Field → Reference → Reference → Prop
  | [], _, _ => False
  | field :: fields, a, b => field.Precedes a b ∨ field.Same a b ∧ FirstPrecedes fields a b

theorem firstPrecedes_iff {fields : List Field} {a b : Reference} :
    FirstPrecedes fields a b ↔ ∃ before field after, fields = before ++ field :: after ∧
      (∀ f ∈ before, f.Same a b) ∧ field.Precedes a b := by
  induction fields with
  | nil => simp [FirstPrecedes]
  | cons first rest ih =>
    unfold FirstPrecedes
    rw [ih]
    constructor
    · rintro (hfirst | ⟨hsame, before, field, after, rfl, hbefore, hfield⟩)
      · exact ⟨[], first, rest, rfl, by simp, hfirst⟩
      · exact ⟨first :: before, field, after, rfl, by simpa [hsame] using hbefore, hfield⟩
    · rintro ⟨before, field, after, hsplit, hbefore, hfield⟩
      cases before with
      | nil =>
        obtain ⟨rfl, -⟩ := List.cons.inj hsplit
        exact .inl hfield
      | cons f before =>
        obtain ⟨rfl, rfl⟩ := List.cons.inj hsplit
        obtain ⟨hsame, hbefore⟩ := List.forall_mem_cons.1 hbefore
        exact .inr ⟨hsame, before, field, after, rfl, hbefore, hfield⟩

end Field

/-! ## The first difference -/

/-- The first field in which two references differ decides which of them comes first. -/
theorem order_eq_lt_iff (a b : Reference) : order a b = .lt ↔ Field.FirstPrecedes Field.all a b := by
  have hgroup : compare a.workerGroup b.workerGroup = .lt ↔ a.workerGroup < b.workerGroup :=
    compareOfLessAndEq_eq_lt
  simp only [order, Ordering.then_eq_lt, Nat.compare_eq_lt, Nat.compare_eq_eq, Int.compare_eq_lt,
    Int.compare_eq_eq, Instant.order_eq_lt_iff, Instant.order_eq_iff, hgroup, Priority.code_inj,
    Id.toInt_inj, Field.FirstPrecedes, Field.all, Field.Precedes, Field.Same, and_false, or_false]

/-- **The comparison of references is a lawful total order.** Turned around it gives the reverse
answer, it is transitive and total, it finds only equal references equal, and it always has an
answer. It is decided by the first field in which two references differ, of process priority,
process, task priority, submit time, task and worker group. -/
theorem order_lawful (a b c : Reference) :
    order a b = (order b a).swap ∧
    (a.le b → b.le c → a.le c) ∧
    (a.le b ∨ b.le a) ∧
    (order a b = .eq ↔ a = b) ∧
    compare? a b = some (order a b) ∧
    (a.le b ↔ compare? a b = some .lt ∨ compare? a b = some .eq) ∧
    (order a b = .lt ↔ ∃ before field after, Field.all = before ++ field :: after ∧
      (∀ f ∈ before, f.Same a b) ∧ field.Precedes a b) ∧
    (order a b = .gt ↔ ∃ before field after, Field.all = before ++ field :: after ∧
      (∀ f ∈ before, f.Same b a) ∧ field.Precedes b a) := by
  have hswap : order a b = (order b a).swap := Std.OrientedCmp.eq_swap
  refine ⟨hswap, le_trans, le_total a b, order_eq_iff a b, rfl, ?_, ?_, ?_⟩
  · unfold le compare?
    rw [Ordering.isLE_iff_eq_lt_or_eq_eq, Option.some_inj, Option.some_inj]
  · rw [order_eq_lt_iff, Field.firstPrecedes_iff]
  · rw [hswap, Ordering.swap_eq_gt, order_eq_lt_iff, Field.firstPrecedes_iff]

end Reference

end Handoff
