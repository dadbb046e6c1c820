import PropertySheet.Changes
import PropertySheet.Component
import PropertySheet.Descriptor.Wire
import PropertySheet.Failure
import PropertySheet.Service.Wire

/-!
# Snapshots of a component

What a sheet needs of a component entity: its name, revision, group, property values in the order of
the entity, and descriptors. `Snapshot.ofEntity` reads one, and `Snapshot.updateBody` writes the
body of a save, which carries the changed properties and the revision that they were made against.
-/

namespace PropertySheet

open Json

/-- A component as fetched. -/
structure Snapshot where
  component : ComponentRef
  name : String
  revision : Revision := {}
  parentGroupId : Option String := none
  /-- Values in the order in which the backend listed them. -/
  properties : List (String × Option String) := []
  descriptors : Descriptors := .empty
deriving DecidableEq, Repr, Inhabited

namespace Snapshot

/-- A property value: null is none, and whatever is not a text becomes its compact text. -/
def propertyValue : Value → Option String
  | .null => none
  | .string s => some s
  | v => some v.text

/-- The part of a component entity that holds its properties. -/
def configOf (kind : ComponentKind) (component : Value) : Value :=
  if kind.nestsConfig then (component.get? "config").getD .null else component

/-- Read a component entity of a known kind. The id may stand in the component or beside it. -/
def ofEntity (kind : ComponentKind) (entity : Value) : Except Failure Snapshot := do
  let some component := entity.get? "component"
    | throw (.response "entity has no component")
  let some id := ((component.get? "id").orElse fun _ => entity.get? "id").bind Value.asString?
    | throw (.response "component has no id")
  let revision ← match entity.get? "revision" with
    | none => pure {}
    | some v => (Revision.decoder v).mapError .undecodable
  let config := configOf kind component
  let properties := match (config.get? "properties").bind Value.asObject? with
    | none => []
    | some ms => ms.map fun m => (m.1, propertyValue m.2)
  let descriptors ← match (config.get? "descriptors").bind Value.asObject? with
    | none => pure .empty
    | some ms => (Descriptors.decoder (.object ms)).mapError .undecodable
  return {
    component := ⟨kind, id⟩
    name := ((component.get? "name").bind Value.asString?).getD id
    revision
    parentGroupId := (component.get? "parentGroupId").bind Value.asString?
    properties
    descriptors }

/-- The body of a save. -/
def updateBody (s : Snapshot) (changes : Changes) (clientId : String) : Value :=
  let properties : Value := .object (changes.toList.map fun e => (e.1, .ofText? e.2))
  let component : Value :=
    if s.component.kind.nestsConfig then
      .object [("id", .string s.component.id), ("config", .object [("properties", properties)])]
    else .object [("id", .string s.component.id), ("properties", properties)]
  .object [
    ("revision", .object [("clientId", .string clientId), ("version", .nat s.revision.version)]),
    ("component", component)]

end Snapshot

end PropertySheet
