import Handoff.Json.Record
import Handoff.Text.Blank
/-!
# Identifiers

Every record is known by a 64-bit number. Numbers of different kinds of record are different types,
so that the number of a data source cannot be taken for that of a resource.

* `Id.text`: the form shown in messages, such as `task-42`.
* `Id.ofText`: reads the bare number, with blank space around it allowed.
-/

namespace Handoff

/-- The kinds of record that have a number. -/
inductive IdKind where
  | task
  | process
  | definition
  | project
  | tenant
  | user
  | dataSource
  | resource
  | udf
  deriving DecidableEq

/-- The word in front of a number of this kind. -/
def IdKind.label : IdKind → String
  | task => "task-"
  | process => "process-"
  | definition => "definition-"
  | project => "project-"
  | tenant => "tenant-"
  | user => "user-"
  | dataSource => "datasource-"
  | resource => "resource-"
  | udf => "udf-"

/-- The number of a record of one kind. -/
structure Id (kind : IdKind) where
  value : Int64
  deriving DecidableEq

abbrev TaskId := Id .task
abbrev ProcessId := Id .process
abbrev DefinitionId := Id .definition
abbrev ProjectId := Id .project
abbrev TenantId := Id .tenant
abbrev UserId := Id .user
abbrev DataSourceId := Id .dataSource
abbrev ResourceId := Id .resource
abbrev UdfId := Id .udf

namespace Id

variable {kind : IdKind}

/-- The number as an integer. -/
def toInt (id : Id kind) : Int :=
  id.value.toInt

/-- The bare decimal number. -/
def digits (id : Id kind) : String :=
  Text.showInt id.toInt

/-- The number with the word for its kind in front. -/
def text (id : Id kind) : String :=
  kind.label ++ id.digits

/-- Reads a bare number, with blank space around it allowed. -/
def ofText (cs : List Char) : Except Text.IntegerFault (Id kind) :=
  (Text.readInt64 (Text.trim cs)).map Id.mk

/-- Reads a number in JSON. -/
def read (d : Json.Document) : Option (Id kind) :=
  (Json.asInt64 d).map Id.mk

/-- A number in JSON. -/
def document (id : Id kind) : Json.Document :=
  .int id.toInt

instance : Ord (Id kind) := ⟨fun a b => compare a.toInt b.toInt⟩

theorem toInt_inj {a b : Id kind} : a.toInt = b.toInt ↔ a = b := by
  cases a; cases b
  simp [toInt, Int64.toInt_inj]

end Id

end Handoff
