import Handoff.Resolver
/-!
# Wiring a consumer

A consumer needs a queue, a record service and a dispatcher. They are handed in one by one, together
with settings, further relation builders, and the types of task that are expected to have a builder;
what is handed in again replaces what was there. Whether all is there is checked once, at the end.

* `Wiring.build`: the consumer, or what is missing; missing builders are reported first.
* `Wiring.Step`, `Wiring.run`: a history of what was handed in.
-/

namespace Handoff

/-- The parts that a consumer cannot do without. -/
inductive Component where
  | queue
  | service
  | dispatcher
  deriving DecidableEq

/-- The name of a component. -/
def Component.name : Component → String
  | queue => "queue"
  | service => "service"
  | dispatcher => "dispatcher"

/-- Why a consumer cannot be built. -/
inductive WiringFault where
  | missingComponent (component : Component)
  | missingRelations (types : List TaskType)
  deriving DecidableEq

/-- Names in brackets, with commas between them. -/
def bracketed (names : List String) : String :=
  "[" ++ String.intercalate ", " names ++ "]"

/-- The words for a fault of wiring. -/
def WiringFault.message : WiringFault → String
  | missingComponent component =>
    "Missing component: " ++ component.name ++ ". Set it on the builder before build()."
  | missingRelations types =>
    "Missing relation builders for task types: " ++ bracketed (types.map TaskType.title)

/-- What was handed in so far. -/
structure Wiring (Q S D : Type) where
  queue : Option Q
  service : Option S
  dispatcher : Option D
  settings : Settings
  registry : Registry
  expected : Option (List TaskType)

/-- A consumer with all its parts. -/
structure WiredConsumer (Q S D : Type) where
  queue : Q
  service : S
  dispatcher : D
  resolver : Resolver

namespace Wiring

variable {Q S D : Type}

/-- Nothing but the standard settings and builders. -/
def start : Wiring Q S D :=
  ⟨none, none, none, .standard, .standard, none⟩

/-- One thing that is handed in. -/
inductive Step (Q S D : Type) where
  | queue (q : Q)
  | service (s : S)
  | dispatcher (d : D)
  | settings (s : Settings)
  | register (type : TaskType) (builder : Builder)
  | expect (types : List TaskType)

/-- Hands one thing in; a second builder for a type is refused. -/
def step (w : Wiring Q S D) : Step Q S D → Except Fault (Wiring Q S D)
  | .queue q => .ok { w with queue := some q }
  | .service s => .ok { w with service := some s }
  | .dispatcher d => .ok { w with dispatcher := some d }
  | .settings s => .ok { w with settings := s }
  | .register type builder =>
    match w.registry.register type builder with
    | .ok registry => .ok { w with registry := registry }
    | .error fault => .error fault
  | .expect types => .ok { w with expected := some types }

/-- Hands in one thing after another. -/
def run (w : Wiring Q S D) : List (Step Q S D) → Except Fault (Wiring Q S D)
  | [] => .ok w
  | s :: ss =>
    match w.step s with
    | .ok w => w.run ss
    | .error fault => .error fault

/-- The types that are expected to have a builder and have none, as they were listed. -/
def missing (w : Wiring Q S D) : List TaskType :=
  (w.expected.getD []).filter fun type => !w.registry.types.contains type

/-- The consumer, or what is missing. -/
def build (w : Wiring Q S D) : Except WiringFault (WiredConsumer Q S D) :=
  if w.missing ≠ [] then .error (.missingRelations w.missing)
  else
    match w.queue, w.service, w.dispatcher with
    | none, _, _ => .error (.missingComponent .queue)
    | _, none, _ => .error (.missingComponent .service)
    | _, _, none => .error (.missingComponent .dispatcher)
    | some q, some s, some d => .ok ⟨q, s, d, ⟨w.registry, w.settings⟩⟩

end Wiring

end Handoff
