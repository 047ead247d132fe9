import Handoff.Context
import Handoff.Parameters
import Handoff.Service
import Handoff.Settings
/-!
# Finding resources

The resources that parameters refer to are looked up together, each once, in ascending order. What
becomes of a reference to an unknown resource is a matter of policy.

* `ascending`: distinct ids in ascending order.
* `findResources`: the names of the resources, or the mark that there are none to find.
-/

namespace Handoff

/-- Puts an id at its place, unless it is there already. -/
def insertId {kind : IdKind} (id : Id kind) : List (Id kind) → List (Id kind)
  | [] => [id]
  | x :: xs =>
    if id = x then x :: xs
    else if id.toInt < x.toInt then id :: x :: xs
    else x :: insertId id xs

/-- The ids of a list, each once, in ascending order. -/
def ascending {kind : IdKind} : List (Id kind) → List (Id kind)
  | [] => []
  | id :: ids => insertId id (ascending ids)

/-- The ids that none of the resources has. -/
def missingIds (ids : List ResourceId) (found : List Resource) : List ResourceId :=
  ids.filter fun id => !found.any fun r => r.id = id

/-- Looks up the resources that parameters refer to. Without any reference no call is made. -/
def findResources (policy : ResourcePolicy) (p : Parameters) : Resolving ResourceNames := do
  let ids := ascending p.resourceIds
  if ids = [] then return .none
  let found ← Resolving.ask (.resourcesByIds ids) fun s => s.resourcesOf ids
  let missing := missingIds ids found
  if missing ≠ [] then
    match policy with
    | .strict => throw (.missingResources missing)
    | .lenient => Resolving.log (.resourcesDropped missing)
  return .names (found.map (·.fullName))

end Handoff
