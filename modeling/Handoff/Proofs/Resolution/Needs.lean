import Handoff.Proofs.Relation.UdfList
import Handoff.Proofs.Resolution.Isolation
import Mathlib.Data.List.Sort
/-!
# What parameters name

The parameters of a task name what has to be looked up for it: resources, through whichever field
refers to them, and the functions that a list names.

* `Parameters.Refers`: the ids of resources that parameters refer to; `Parameters.mem_resourceIds`.
* `SqlParameters.Lists`: the list of functions in SQL parameters; `SqlParameters.lists_iff`.
* `eq_of_pairwise_lt`: ids in strictly ascending order are known by their members, so that what is
  looked up by them depends on no order of fields and on no repetition.
-/

namespace Handoff

open Text

/-! ## Ids in order -/

section

variable {kind : IdKind} {id : Id kind} {ids ids' : List (Id kind)}

theorem insertId_pairwise (h : ids.Pairwise (·.toInt < ·.toInt)) :
    (insertId id ids).Pairwise (·.toInt < ·.toInt) := by
  induction ids with
  | nil => exact List.pairwise_singleton _ _
  | cons x xs ih =>
    obtain ⟨hx, hxs⟩ := List.pairwise_cons.1 h
    rw [insertId]
    split
    · exact h
    · rename_i hne
      split
      · -- the id is smaller than the head, and so than all
        rename_i hlt
        refine List.pairwise_cons.2 ⟨fun y hy => ?_, h⟩
        rcases List.mem_cons.1 hy with rfl | hy
        · exact hlt
        · exact Int.lt_trans hlt (hx y hy)
      · rename_i hle
        refine List.pairwise_cons.2 ⟨fun y hy => ?_, ih hxs⟩
        rcases mem_insertId.1 hy with rfl | hy
        · have hneq : y.toInt ≠ x.toInt := fun heq => hne (Id.toInt_inj.1 heq)
          omega
        · exact hx y hy

/-- Ids in order are in strictly ascending order, so that none is there twice. -/
theorem ascending_pairwise (ids : List (Id kind)) :
    (ascending ids).Pairwise (·.toInt < ·.toInt) := by
  induction ids with
  | nil => exact List.Pairwise.nil
  | cons id ids ih => exact insertId_pairwise ih

theorem ascending_eq_nil_iff : ascending ids = [] ↔ ids = [] := by
  simp only [List.eq_nil_iff_forall_not_mem, mem_ascending]

/-- Ids in strictly ascending order are known by their members. -/
theorem eq_of_pairwise_lt (h : ids.Pairwise (·.toInt < ·.toInt))
    (h' : ids'.Pairwise (·.toInt < ·.toInt)) (hmem : ∀ id, id ∈ ids ↔ id ∈ ids') : ids = ids' := by
  have hirrefl : Std.Irrefl fun a b : Id kind => a.toInt < b.toInt :=
    ⟨fun a => Int.lt_irrefl a.toInt⟩
  have hantisymm : Std.Antisymm fun a b : Id kind => a.toInt < b.toInt :=
    ⟨fun a b hab hba => absurd (Int.lt_trans hab hba) (Int.lt_irrefl a.toInt)⟩
  exact List.Pairwise.eq_of_mem_iff h h' hmem

/-- Neither the order in which ids are listed matters, nor how often. -/
theorem ascending_congr (h : ∀ id, id ∈ ids ↔ id ∈ ids') : ascending ids = ascending ids' := by
  have hmem : ∀ id, id ∈ ascending ids ↔ id ∈ ascending ids' := by
    intro id
    rw [mem_ascending, mem_ascending]
    exact h id
  exact eq_of_pairwise_lt (ascending_pairwise ids) (ascending_pairwise ids') hmem

end

/-! ## References to resources -/

namespace Parameters

/-- The parameters of a script. -/
def script? : Parameters → Option ScriptParameters
  | shell q | python q => some q
  | _ => none

/-- The parameters of a job that runs a jar. -/
def jar? : Parameters → Option JarParameters
  | spark q | flink q | mapReduce q => some q
  | _ => none

/-- The parameters of SQL. -/
def sql? : Parameters → Option SqlParameters
  | sql q => some q
  | _ => none

/-- Parameters refer to a resource by the list of a script, or by the main jar or the list of a job.
An entry without a number refers to none. -/
inductive Refers : Parameters → ResourceId → Prop where
  | script {p : Parameters} {q : ScriptParameters} {ref : ResourceRef} {id : ResourceId}
    (hp : p.script? = some q) (href : ref ∈ q.resourceList) (hid : ref.id = some id) : Refers p id
  | mainJar {p : Parameters} {q : JarParameters} {ref : ResourceRef} {id : ResourceId}
    (hp : p.jar? = some q) (href : q.mainJar = some ref) (hid : ref.id = some id) : Refers p id
  | jar {p : Parameters} {q : JarParameters} {ref : ResourceRef} {id : ResourceId}
    (hp : p.jar? = some q) (href : ref ∈ q.resourceList) (hid : ref.id = some id) : Refers p id

variable {p : Parameters} {id : ResourceId}

/-- The references are those of a script, or the main jar and the list of a job. -/
theorem mem_resourceRefs {ref : ResourceRef} : ref ∈ p.resourceRefs ↔
    (∃ q, p.script? = some q ∧ ref ∈ q.resourceList) ∨
      ∃ q, p.jar? = some q ∧ (q.mainJar = some ref ∨ ref ∈ q.resourceList) := by
  cases p <;> simp [resourceRefs, script?, jar?]

theorem mem_resourceIds : id ∈ p.resourceIds ↔ p.Refers id := by
  unfold resourceIds
  rw [List.mem_filterMap]
  constructor
  · rintro ⟨ref, href, hid⟩
    rcases mem_resourceRefs.1 href with ⟨q, hp, href⟩ | ⟨q, hp, href | href⟩
    · exact .script hp href hid
    · exact .mainJar hp href hid
    · exact .jar hp href hid
  · intro h
    cases h with
    | script hp href hid => exact ⟨_, mem_resourceRefs.2 (.inl ⟨_, hp, href⟩), hid⟩
    | mainJar hp href hid => exact ⟨_, mem_resourceRefs.2 (.inr ⟨_, hp, .inl href⟩), hid⟩
    | jar hp href hid => exact ⟨_, mem_resourceRefs.2 (.inr ⟨_, hp, .inr href⟩), hid⟩

instance : DecidablePred p.Refers :=
  fun _ => decidable_of_iff _ mem_resourceIds

theorem resourceIds_eq_nil_iff : p.resourceIds = [] ↔ ∀ id, ¬p.Refers id := by
  simp only [List.eq_nil_iff_forall_not_mem, mem_resourceIds]

theorem mem_ascending_resourceIds : id ∈ ascending p.resourceIds ↔ p.Refers id := by
  rw [mem_ascending, mem_resourceIds]

end Parameters

/-! ## Lists of functions -/

/-- SQL parameters list functions if their kind of SQL has functions and the text is not blank; the
list is the text without the blank space around it. -/
def SqlParameters.Lists (p : SqlParameters) (list : List Char) : Prop :=
  (p.sqlType = "HIVE" ∨ p.sqlType = "SPARK") ∧
    ∃ udfs, p.udfs = some udfs ∧ blank udfs = false ∧ trim udfs.toList = list

/-- SQL parameters name functions if their kind of SQL has functions and the list is not blank. -/
theorem udfListOf_eq_some_iff {p : SqlParameters} {list : List Char} :
    udfListOf p = some list ↔ (UdfEngine.ofSqlType? p.sqlType).isSome ∧
      ∃ udfs, p.udfs = some udfs ∧ blank udfs = false ∧ trim udfs.toList = list := by
  unfold udfListOf
  cases UdfEngine.ofSqlType? p.sqlType with
  | none => simp
  | some engine =>
    cases p.udfs with
    | none => simp
    | some udfs =>
      by_cases hblank : blank udfs = true
      · simp [trim_eq_nil.2 hblank, hblank]
      · simp [mt trim_eq_nil.1 hblank, hblank]

/-- The engines of functions are those of two kinds of SQL. -/
theorem UdfEngine.isSome_ofSqlType? {sqlType : String} :
    (ofSqlType? sqlType).isSome ↔ sqlType = "HIVE" ∨ sqlType = "SPARK" := by
  unfold ofSqlType? Json.Choice.ofName?
  rw [List.find?_isSome]
  constructor
  · rintro ⟨engine, -, hname⟩
    have hname : Json.Choice.name engine = sqlType := by simpa using hname
    cases engine with
    | hive => exact .inl hname.symm
    | spark => exact .inr hname.symm
  · rintro (rfl | rfl)
    · exact ⟨.hive, by decide, by decide⟩
    · exact ⟨.spark, by decide, by decide⟩

theorem SqlParameters.lists_iff {p : SqlParameters} {list : List Char} :
    p.Lists list ↔ udfListOf p = some list := by
  rw [udfListOf_eq_some_iff, UdfEngine.isSome_ofSqlType?]
  rfl

end Handoff
