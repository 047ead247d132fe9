import Handoff.Ident
import Handoff.Record.Kinds
/-!
# Task parameters

The parameters of a task are a JSON value whose shape depends on the task's type. Some types have
no shape of their own: their value is passed through untouched.

* `Parameters.ofValue?`: the parameters that a value stands for under a task type.
* `Parameters.value`: the JSON of the parameters.
* `Parameters.resourceIds`: the resources they refer to, in order, repetitions included.
-/

namespace Handoff

open Json

/-- A reference to a resource; the number may be missing. -/
structure ResourceRef where
  id : Option ResourceId
  res : Option String
  deriving DecidableEq

namespace ResourceRef

/-- The fields of a reference to a resource, in order. -/
def fieldNames : List String :=
  ["id", "res"]

/-- Reads a reference to a resource. -/
def read (d : Document) : Option ResourceRef := do
  let f ← Fields.read? fieldNames d
  return {
    id := ← f.optional "id" Id.read
    res := ← f.optional "res" asString }

/-- A reference to a resource in JSON. -/
def document (r : ResourceRef) : Document :=
  .record [("id", .option Id.document r.id), ("res", .option .text r.res)]

end ResourceRef

/-- The parameters of a script. -/
structure ScriptParameters where
  rawScript : String
  resourceList : List ResourceRef
  deriving DecidableEq

namespace ScriptParameters

/-- The fields of script parameters, in order. -/
def fieldNames : List String :=
  ["rawScript", "resourceList"]

/-- Reads script parameters. -/
def read (d : Document) : Option ScriptParameters := do
  let f ← Fields.read? fieldNames d
  return {
    rawScript := ← f.defaulted "rawScript" asString ""
    resourceList := ← f.defaulted "resourceList" (asList ResourceRef.read) [] }

/-- Script parameters in JSON. -/
def document (p : ScriptParameters) : Document :=
  .record [
    ("rawScript", .text p.rawScript),
    ("resourceList", .list ResourceRef.document p.resourceList)]

end ScriptParameters

/-- The parameters of a SQL statement. -/
structure SqlParameters where
  sqlType : String
  dataSource : DataSourceId
  sql : String
  /-- The numbers of the functions it uses, separated by commas. -/
  udfs : Option String
  deriving DecidableEq

namespace SqlParameters

/-- The fields of SQL parameters, in order. -/
def fieldNames : List String :=
  ["type", "datasource", "sql", "udfs"]

/-- Reads SQL parameters. -/
def read (d : Document) : Option SqlParameters := do
  let f ← Fields.read? fieldNames d
  return {
    sqlType := ← f.required "type" asString
    dataSource := ← f.required "datasource" Id.read
    sql := ← f.defaulted "sql" asString ""
    udfs := ← f.optional "udfs" asString }

/-- SQL parameters in JSON. -/
def document (p : SqlParameters) : Document :=
  .record [
    ("type", .text p.sqlType),
    ("datasource", p.dataSource.document),
    ("sql", .text p.sql),
    ("udfs", .option .text p.udfs)]

end SqlParameters

/-- The parameters of a stored procedure. -/
structure ProcedureParameters where
  dbType : String
  dataSource : DataSourceId
  method : String
  deriving DecidableEq

namespace ProcedureParameters

/-- The fields of procedure parameters, in order. -/
def fieldNames : List String :=
  ["type", "datasource", "method"]

/-- Reads procedure parameters. -/
def read (d : Document) : Option ProcedureParameters := do
  let f ← Fields.read? fieldNames d
  return {
    dbType := ← f.required "type" asString
    dataSource := ← f.required "datasource" Id.read
    method := ← f.defaulted "method" asString "" }

/-- Procedure parameters in JSON. -/
def document (p : ProcedureParameters) : Document :=
  .record [
    ("type", .text p.dbType),
    ("datasource", p.dataSource.document),
    ("method", .text p.method)]

end ProcedureParameters

/-- The parameters of a transfer from one data source to another. -/
structure TransferParameters where
  sourceType : String
  source : DataSourceId
  targetType : String
  target : DataSourceId
  sql : String
  targetTable : String
  deriving DecidableEq

namespace TransferParameters

/-- The fields of transfer parameters, in order. -/
def fieldNames : List String :=
  ["dsType", "dataSource", "dtType", "dataTarget", "sql", "targetTable"]

/-- Reads transfer parameters. -/
def read (d : Document) : Option TransferParameters := do
  let f ← Fields.read? fieldNames d
  return {
    sourceType := ← f.defaulted "dsType" asString ""
    source := ← f.required "dataSource" Id.read
    targetType := ← f.defaulted "dtType" asString ""
    target := ← f.required "dataTarget" Id.read
    sql := ← f.defaulted "sql" asString ""
    targetTable := ← f.defaulted "targetTable" asString "" }

/-- Transfer parameters in JSON. -/
def document (p : TransferParameters) : Document :=
  .record [
    ("dsType", .text p.sourceType),
    ("dataSource", p.source.document),
    ("dtType", .text p.targetType),
    ("dataTarget", p.target.document),
    ("sql", .text p.sql),
    ("targetTable", .text p.targetTable)]

end TransferParameters

/-- The parameters of a job that runs a jar. -/
structure JarParameters where
  mainJar : Option ResourceRef
  mainClass : Option String
  mainArgs : Option String
  resourceList : List ResourceRef
  deriving DecidableEq

namespace JarParameters

/-- The fields of jar parameters, in order. -/
def fieldNames : List String :=
  ["mainJar", "mainClass", "mainArgs", "resourceList"]

/-- Reads jar parameters. -/
def read (d : Document) : Option JarParameters := do
  let f ← Fields.read? fieldNames d
  return {
    mainJar := ← f.optional "mainJar" ResourceRef.read
    mainClass := ← f.optional "mainClass" asString
    mainArgs := ← f.optional "mainArgs" asString
    resourceList := ← f.defaulted "resourceList" (asList ResourceRef.read) [] }

/-- Jar parameters in JSON. -/
def document (p : JarParameters) : Document :=
  .record [
    ("mainJar", .option ResourceRef.document p.mainJar),
    ("mainClass", .option .text p.mainClass),
    ("mainArgs", .option .text p.mainArgs),
    ("resourceList", .list ResourceRef.document p.resourceList)]

end JarParameters

/-- The task types whose parameters have no shape of their own. -/
inductive PlainType where
  | http
  | sqoop
  | dependent
  | subProcess
  | conditions
  deriving DecidableEq

/-- The task type of a plain type. -/
def PlainType.taskType : PlainType → TaskType
  | http => .http
  | sqoop => .sqoop
  | dependent => .dependent
  | subProcess => .subProcess
  | conditions => .conditions

/-- The parameters of a task. -/
inductive Parameters where
  | shell (p : ScriptParameters)
  | python (p : ScriptParameters)
  | sql (p : SqlParameters)
  | procedure (p : ProcedureParameters)
  | datax (p : TransferParameters)
  | spark (p : JarParameters)
  | flink (p : JarParameters)
  | mapReduce (p : JarParameters)
  | plain (type : PlainType) (value : Value)

namespace Parameters

/-- The parameters that a value stands for under a task type. -/
def ofValue? (type : TaskType) (v : Value) : Option Parameters :=
  match type with
  | .shell => (ScriptParameters.read v.document).map shell
  | .python => (ScriptParameters.read v.document).map python
  | .sql => (SqlParameters.read v.document).map sql
  | .procedure => (ProcedureParameters.read v.document).map procedure
  | .datax => (TransferParameters.read v.document).map datax
  | .spark => (JarParameters.read v.document).map spark
  | .flink => (JarParameters.read v.document).map flink
  | .mapReduce => (JarParameters.read v.document).map mapReduce
  | .http => some (plain .http v)
  | .sqoop => some (plain .sqoop v)
  | .dependent => some (plain .dependent v)
  | .subProcess => some (plain .subProcess v)
  | .conditions => some (plain .conditions v)

/-- The type of the task that the parameters are for. -/
def taskType : Parameters → TaskType
  | shell _ => .shell
  | python _ => .python
  | sql _ => .sql
  | procedure _ => .procedure
  | datax _ => .datax
  | spark _ => .spark
  | flink _ => .flink
  | mapReduce _ => .mapReduce
  | plain type _ => type.taskType

/-- The parameters in JSON. -/
def document : Parameters → Document
  | shell p | python p => p.document
  | sql p => p.document
  | procedure p => p.document
  | datax p => p.document
  | spark p | flink p | mapReduce p => p.document
  | plain _ v => v.document

/-- The references to resources, in order; a main jar comes first. -/
def resourceRefs : Parameters → List ResourceRef
  | shell p | python p => p.resourceList
  | spark p | flink p | mapReduce p => p.mainJar.toList ++ p.resourceList
  | _ => []

/-- The resources referred to, in order, repetitions included. -/
def resourceIds (p : Parameters) : List ResourceId :=
  p.resourceRefs.filterMap (·.id)

end Parameters

end Handoff
