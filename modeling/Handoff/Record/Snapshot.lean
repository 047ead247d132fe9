import Handoff.Record.Assets
import Handoff.Record.Task
/-!
# Snapshots

A snapshot lists the records that a store is filled from, kind by kind. Lists that are left out are
empty.
-/

namespace Handoff

open Json

/-- All records, in the order in which they are listed. -/
structure Snapshot where
  tasks : List Task
  processes : List ProcessRun
  definitions : List Definition
  tenants : List Tenant
  users : List User
  dataSources : List DataSource
  udfs : List Udf
  resources : List Resource
  deriving DecidableEq

namespace Snapshot

/-- No records at all. -/
def empty : Snapshot :=
  ⟨[], [], [], [], [], [], [], []⟩

/-- The fields of a snapshot, in order. -/
def fieldNames : List String :=
  ["taskInstances", "processInstances", "processDefinitions", "tenants", "users", "dataSources",
    "udfFuncs", "resources"]

/-- Reads a snapshot from the fields given. -/
def ofFields? (source : Source) (f : Fields) : Option Snapshot := do
  return {
    tasks := ← f.defaulted "taskInstances" (asList (Task.read source)) []
    processes := ← f.defaulted "processInstances" (asList (ProcessRun.read source)) []
    definitions := ← f.defaulted "processDefinitions" (asList Definition.read) []
    tenants := ← f.defaulted "tenants" (asList Tenant.read) []
    users := ← f.defaulted "users" (asList User.read) []
    dataSources := ← f.defaulted "dataSources" (asList (DataSource.read source)) []
    udfs := ← f.defaulted "udfFuncs" (asList (Udf.read source)) []
    resources := ← f.defaulted "resources" (asList Resource.read) [] }

/-- Reads a snapshot. -/
def read (source : Source) (d : Document) : Option Snapshot :=
  Fields.read? fieldNames d >>= ofFields? source

/-- The members of a snapshot in JSON. -/
def members (s : Snapshot) : List (String × Document) :=
  [("taskInstances", .list Task.document s.tasks),
    ("processInstances", .list ProcessRun.document s.processes),
    ("processDefinitions", .list Definition.document s.definitions),
    ("tenants", .list Tenant.document s.tenants),
    ("users", .list User.document s.users),
    ("dataSources", .list DataSource.document s.dataSources),
    ("udfFuncs", .list Udf.document s.udfs),
    ("resources", .list Resource.document s.resources)]

/-- A snapshot in JSON. -/
def document (s : Snapshot) : Document :=
  .record s.members

end Snapshot

end Handoff
