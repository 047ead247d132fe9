import Handoff.Ident
import Handoff.Record.Kinds
/-!
# Tenants, users and what tasks draw on

Tenants and users decide under which name and queue a task runs; data sources, user-defined
functions and resources are what its parameters refer to.
-/

namespace Handoff

open Json

/-- Whom tasks run for. -/
structure Tenant where
  id : TenantId
  code : String
  /-- The queue of the tenant's tasks, unless the user has one of their own. -/
  queue : String
  deriving DecidableEq

namespace Tenant

/-- The fields of a tenant, in order. -/
def fieldNames : List String :=
  ["id", "tenantCode", "queue"]

/-- Reads a tenant. -/
def read (d : Document) : Option Tenant := do
  let f ← Fields.read? fieldNames d
  return {
    id := ← f.required "id" Id.read
    code := ← f.required "tenantCode" asString
    queue := ← f.defaulted "queue" asString "" }

/-- A tenant in JSON. -/
def document (t : Tenant) : Document :=
  .record [
    ("id", t.id.document),
    ("tenantCode", .text t.code),
    ("queue", .text t.queue)]

end Tenant

/-- A person who owns definitions and runs processes. -/
structure User where
  id : UserId
  name : String
  tenantId : TenantId
  queue : Option String
  deriving DecidableEq

namespace User

/-- The fields of a user, in order. -/
def fieldNames : List String :=
  ["id", "userName", "tenantId", "queue"]

/-- Reads a user. -/
def read (d : Document) : Option User := do
  let f ← Fields.read? fieldNames d
  return {
    id := ← f.required "id" Id.read
    name := ← f.required "userName" asString
    tenantId := ← f.required "tenantId" Id.read
    queue := ← f.optional "queue" asString }

/-- A user in JSON. -/
def document (u : User) : Document :=
  .record [
    ("id", u.id.document),
    ("userName", .text u.name),
    ("tenantId", u.tenantId.document),
    ("queue", .option .text u.queue)]

end User

/-- A data base to connect to. -/
structure DataSource where
  id : DataSourceId
  name : String
  dbType : DbType
  connectionParams : String
  deriving DecidableEq

namespace DataSource

/-- The fields of a data source, in order. -/
def fieldNames : List String :=
  ["id", "name", "type", "connectionParams"]

/-- Reads a data source. -/
def read (source : Source) (d : Document) : Option DataSource := do
  let f ← Fields.read? fieldNames d
  return {
    id := ← f.required "id" Id.read
    name := ← f.required "name" asString
    dbType := ← f.required "type" (Choice.read source)
    connectionParams := ← f.required "connectionParams" asString }

/-- A data source in JSON. -/
def document (s : DataSource) : Document :=
  .record [
    ("id", s.id.document),
    ("name", .text s.name),
    ("type", Choice.document s.dbType),
    ("connectionParams", .text s.connectionParams)]

end DataSource

/-- A file that tasks may need. -/
structure Resource where
  id : ResourceId
  fullName : String
  isDirectory : Bool
  deriving DecidableEq

namespace Resource

/-- The fields of a resource, in order. -/
def fieldNames : List String :=
  ["id", "fullName", "isDirectory"]

/-- Reads a resource. -/
def read (d : Document) : Option Resource := do
  let f ← Fields.read? fieldNames d
  return {
    id := ← f.required "id" Id.read
    fullName := ← f.required "fullName" asString
    isDirectory := ← f.defaulted "isDirectory" asBool false }

/-- A resource in JSON. -/
def document (r : Resource) : Document :=
  .record [
    ("id", r.id.document),
    ("fullName", .text r.fullName),
    ("isDirectory", .bool r.isDirectory)]

end Resource

/-- A function defined by users. -/
structure Udf where
  id : UdfId
  name : String
  className : String
  engine : UdfEngine
  resourceName : Option String
  deriving DecidableEq

namespace Udf

/-- The fields of a function, in order. -/
def fieldNames : List String :=
  ["id", "funcName", "className", "type", "resourceName"]

/-- Reads a function. -/
def read (source : Source) (d : Document) : Option Udf := do
  let f ← Fields.read? fieldNames d
  return {
    id := ← f.required "id" Id.read
    name := ← f.required "funcName" asString
    className := ← f.required "className" asString
    engine := ← f.required "type" (Choice.read source)
    resourceName := ← f.optional "resourceName" asString }

/-- A function in JSON. -/
def document (u : Udf) : Document :=
  .record [
    ("id", u.id.document),
    ("funcName", .text u.name),
    ("className", .text u.className),
    ("type", Choice.document u.engine),
    ("resourceName", .option .text u.resourceName)]

end Udf

end Handoff
