import Handoff.Context
import Handoff.Parameters
import Handoff.Relation.UdfList
import Handoff.Service
/-!
# Building relations

A builder turns the parameters of a task into its relation, with the help of the record service.
Each of the three builders at hand serves one type of task and refuses the parameters of others.

* `buildSql`, `buildTransfer`, `buildProcedure`: the builders.
-/

namespace Handoff

open Text

/-- Turns parameters into a relation. -/
abbrev Builder := Parameters → Resolving Relation

/-- A data source that has to exist. -/
def needDataSource (id : DataSourceId) : Resolving DataSource := do
  match ← Resolving.ask (.findDataSource id) fun s => s.dataSource? id with
  | some source => return source
  | none => throw (.dataSourceNotFound id)

/-- The list of functions that SQL parameters name: only where the kind of SQL has functions, and
the list is not blank. The list is cleared of the blank space around it. -/
def udfListOf (p : SqlParameters) : Option (List Char) :=
  match UdfEngine.ofSqlType? p.sqlType, p.udfs with
  | some _, some udfs =>
    let list := trim udfs.toList
    if list = [] then none else some list
  | _, _ => none

/-- The functions that SQL parameters name. -/
def findUdfs (p : SqlParameters) : Resolving (List Udf) :=
  match udfListOf p with
  | none => return []
  | some list => do
    let ids ← Resolving.ofExcept (readUdfIds list)
    Resolving.ask (.udfsByIds ids) fun s => s.udfsOf ids

/-- A SQL task needs its data source and its functions. -/
def buildSql : Builder
  | .sql p => do
    let source ← needDataSource p.dataSource
    let udfs ← findUdfs p
    return .sql ⟨source.connectionParams, udfs⟩
  | p => throw (.relationMismatch .sql p.taskType)

/-- A transfer needs both of its data sources; each is looked up, even if they are the same. -/
def buildTransfer : Builder
  | .datax p => do
    let source ← needDataSource p.source
    let target ← needDataSource p.target
    return .datax ⟨source.id, source.dbType.code, source.connectionParams,
      target.id, target.dbType.code, target.connectionParams⟩
  | p => throw (.relationMismatch .datax p.taskType)

/-- A stored procedure needs its data source. -/
def buildProcedure : Builder
  | .procedure p => do
    let source ← needDataSource p.dataSource
    return .procedure ⟨source.connectionParams⟩
  | p => throw (.relationMismatch .procedure p.taskType)

end Handoff
