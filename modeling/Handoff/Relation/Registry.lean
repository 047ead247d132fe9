import Handoff.Relation.Builder
/-!
# The registry of builders

A registry holds at most one builder for each type of task. Tasks of a type without a builder have
no relation.

* `Registry.register`: adds a builder, unless the type has one.
* `Registry.build`: the relation of a task.
-/

namespace Handoff

/-- The builders by type of task, in the order in which they were registered. -/
structure Registry where
  builders : List (TaskType × Builder)

namespace Registry

/-- No builder at all. -/
def empty : Registry := ⟨[]⟩

/-- The builders for SQL tasks, transfers and stored procedures. -/
def standard : Registry :=
  ⟨[(.sql, buildSql), (.datax, buildTransfer), (.procedure, buildProcedure)]⟩

/-- The builder of a type. -/
def builder? (r : Registry) (type : TaskType) : Option Builder :=
  r.builders.lookup type

/-- The types that have a builder. -/
def types (r : Registry) : List TaskType :=
  r.builders.map (·.1)

/-- Adds a builder for a type that has none. -/
def register (r : Registry) (type : TaskType) (builder : Builder) : Except Fault Registry :=
  match r.builder? type with
  | some _ => .error (.duplicateRelation type)
  | none => .ok ⟨r.builders ++ [(type, builder)]⟩

/-- The relation of a task. -/
def build (r : Registry) (p : Parameters) : Resolving Relation :=
  match r.builder? p.taskType with
  | some builder => builder p
  | none => return .none

end Registry

end Handoff
