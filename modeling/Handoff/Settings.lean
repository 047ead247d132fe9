import Handoff.Fault
import Handoff.Text.Blank
import Handoff.Text.Split
/-!
# Settings

Three settings, each looked up by a key: the directory under which tasks run, what to do about
resources that are not found, and the worker group of tasks that name none. A value that is blank
counts as not set.

* `Settings.ofLookup`: the settings that a look-up gives.
* `Settings.executePath`: the directory of one task, four ids below the base directory.
-/

namespace Handoff

open Text

/-- What to do about resources that are not found: go on without them, or fail. -/
inductive ResourcePolicy where
  | lenient
  | strict
  deriving DecidableEq

namespace ResourcePolicy

/-- The name of a policy. -/
def name : ResourcePolicy → String
  | lenient => "lenient"
  | strict => "strict"

/-- The policy of settings that name none. -/
def standard : ResourcePolicy := lenient

/-- A text without blank space around it, in small letters as far as it is ASCII. -/
def lowered (s : String) : String :=
  String.ofList ((trim s.toList).map Char.toLower)

/-- Reads a policy; blank space around the name and capital letters do not matter. -/
def ofText (s : String) : Except Fault ResourcePolicy :=
  if lowered s = lenient.name then .ok lenient
  else if lowered s = strict.name then .ok strict
  else .error (.settings
    ("RELAY_RESOURCE_POLICY must be 'lenient' or 'strict', got '" ++ lowered s ++ "'"))

end ResourcePolicy

/-- The settings of a program that hands over tasks. -/
structure Settings where
  execBaseDir : String
  resourcePolicy : ResourcePolicy
  defaultWorkerGroup : String
  deriving DecidableEq

namespace Settings

/-- The settings where nothing is set. -/
def standard : Settings :=
  ⟨"/tmp/relay/exec", .standard, "default"⟩

/-- The value of a key, unless it is blank. -/
def lookup? (lookup : String → Option String) (key : String) : Option String :=
  (lookup key).filter fun v => !blank v

/-- The keys of the settings. -/
def policyKey : String := "RELAY_RESOURCE_POLICY"

def baseDirKey : String := "RELAY_EXEC_BASE_DIR"

def workerGroupKey : String := "RELAY_DEFAULT_WORKER_GROUP"

def keys : List String := [policyKey, baseDirKey, workerGroupKey]

/-- The settings that a look-up gives. The base directory is kept as it is, the worker group without
the blank space around it. -/
def ofLookup (lookup : String → Option String) : Except Fault Settings := do
  let policy ← match lookup? lookup policyKey with
    | some raw => ResourcePolicy.ofText raw
    | none => .ok .standard
  return {
    execBaseDir := (lookup? lookup baseDirKey).getD standard.execBaseDir
    resourcePolicy := policy
    defaultWorkerGroup :=
      ((lookup? lookup workerGroupKey).map trimmed).getD standard.defaultWorkerGroup }

/-! ## Paths -/

/-- The components of a path: whether it starts at the root, and the names below. Superfluous
slashes do not count, nor do dots, but for one that starts a relative path. -/
def components (path : List Char) : Bool × List (List Char) :=
  let names := splitAll '/' path
  let kept := names.filter fun name => !(name = [] || name = ['.'])
  match names with
  | [] :: _ :: _ => (true, kept)
  | ['.'] :: _ => (false, ['.'] :: kept)
  | _ => (false, kept)

/-- Two settings say the same: their base directories may be spelled differently. -/
def agree (a b : Settings) : Bool :=
  components a.execBaseDir.toList = components b.execBaseDir.toList &&
    a.resourcePolicy = b.resourcePolicy && a.defaultWorkerGroup = b.defaultWorkerGroup

/-- A path and a component below it, with a slash between them unless there is one already or the
path is empty. -/
def below (path component : List Char) : List Char :=
  if path = [] ∨ path.getLast? = some '/' then path ++ component else path ++ '/' :: component

/-- The directory of a task: project, definition, process and task below the base directory. -/
def executePath (s : Settings) (project : ProjectId) (definition : DefinitionId)
    (process : ProcessId) (task : TaskId) : String :=
  String.ofList <|
    [project.digits, definition.digits, process.digits, task.digits].foldl
      (fun path id => below path id.toList) s.execBaseDir.toList

end Settings

end Handoff
