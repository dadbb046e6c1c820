import PropertySheet.Json.Decode

/-!
# Components

A component is what a sheet edits: a processor, a reporting task or a controller service, known by
its id within the collection of its kind.
-/

namespace PropertySheet

inductive ComponentKind where
  | processor
  | reportingTask
  | controllerService
deriving DecidableEq, Repr, Inhabited

namespace ComponentKind

/-- The name of a kind in a configuration. -/
def name : ComponentKind → String
  | .processor => "processor"
  | .reportingTask => "reporting-task"
  | .controllerService => "controller-service"

def all : List ComponentKind := [.processor, .reportingTask, .controllerService]

/-- The collection that the components of a kind form. -/
def collection : ComponentKind → String
  | .processor => "processors"
  | .reportingTask => "reporting-tasks"
  | .controllerService => "controller-services"

/-- A processor keeps its properties one level deeper than the others. -/
def nestsConfig : ComponentKind → Bool
  | .processor => true
  | _ => false

def decoder : Json.Decoder ComponentKind := Json.Decoder.variant (all.map fun k => (k.name, k))

end ComponentKind

/-- A component by kind and id. -/
structure ComponentRef where
  kind : ComponentKind
  id : String
deriving DecidableEq, Repr, Inhabited

namespace ComponentRef

/-- Path of the component, which is also how a message names it. -/
def path (c : ComponentRef) : String := c.kind.collection ++ "/" ++ c.id

/-- Path under which single descriptors are looked up. -/
def descriptorsPath (c : ComponentRef) : String := c.path ++ "/descriptors"

def decoder : Json.Decoder ComponentRef := fun v => do
  let r ← Json.Record.ofValue "ComponentRef"
    [.of "kind" ComponentKind.decoder, .of "id" Json.Decoder.string] v
  return { kind := ← r.required "kind" ComponentKind.decoder, id := ← r.required "id" .string }

def toJson (c : ComponentRef) : Json.Value :=
  .object [("kind", .string c.kind.name), ("id", .string c.id)]

end ComponentRef

end PropertySheet
