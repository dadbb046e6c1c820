import PropertySheet.Service
import PropertySheet.Json.Decode

/-!
# Controller services on the wire

A revision without a client id is written without that member; every other absent text is null.
-/

namespace PropertySheet

open Json

namespace ServiceType

def decoder : Decoder ServiceType := fun v => do
  let r ← Record.ofValue "DocumentedType"
    [.of "type" Decoder.string, .of "description" (Decoder.option Decoder.string),
      .of "tags" (Decoder.list Decoder.string)] v
  return {
    name := ← r.required "type" Decoder.string
    description := ← r.withDefault "description" (Decoder.option Decoder.string) none
    tags := ← r.withDefault "tags" (Decoder.list Decoder.string) [] }

/-- The types inside the answer to a lookup of the types of an interface. -/
def entityDecoder : Decoder (List ServiceType) := fun v => do
  let r ← Record.ofValue "ControllerServiceTypesEntity"
    [.of "controllerServiceTypes" (Decoder.list decoder)] v
  r.withDefault "controllerServiceTypes" (Decoder.list decoder) []

def toJson (t : ServiceType) : Value :=
  .object [("type", .string t.name), ("description", .ofText? t.description),
    ("tags", .array (t.tags.map .string))]

end ServiceType

namespace Revision

def decoder : Decoder Revision := fun v => do
  let r ← Record.ofValue "Revision"
    [.of "clientId" (Decoder.option Decoder.string), .of "version" Decoder.nat64] v
  return {
    clientId := ← r.withDefault "clientId" (Decoder.option Decoder.string) none
    version := ← r.withDefault "version" Decoder.nat64 0 }

end Revision

namespace Service

/-- The inner record: id, name, type and parent group. -/
def bodyDecoder : Decoder Service := fun v => do
  let r ← Record.ofValue "ControllerServiceComponent"
    [.of "id" Decoder.string, .of "name" Decoder.string, .of "type" Decoder.string,
      .of "parentGroupId" (Decoder.option Decoder.string)] v
  let id ← r.required "id" Decoder.string
  return {
    id
    componentId := id
    name := ← r.withDefault "name" Decoder.string ""
    typeName := ← r.withDefault "type" Decoder.string ""
    parentGroupId := ← r.withDefault "parentGroupId" (Decoder.option Decoder.string) none }

def decoder : Decoder Service := fun v => do
  let r ← Record.ofValue "ControllerServiceEntity"
    [.of "id" Decoder.string, .of "revision" Revision.decoder, .of "component" bodyDecoder] v
  let id ← r.required "id" Decoder.string
  let revision ← r.withDefault "revision" Revision.decoder {}
  let body ← r.required "component" bodyDecoder
  return { body with id, revision }

end Service

end PropertySheet
