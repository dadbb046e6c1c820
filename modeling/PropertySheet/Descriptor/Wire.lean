import PropertySheet.Descriptor
import PropertySheet.Json.Decode

/-!
# Descriptors and histories on the wire

Field names are in camel case, absent optional fields are written as null, and every field but the
identifying ones has a default.
-/

namespace PropertySheet

open Json

namespace AllowableValue

/-- The value, its label and its description. -/
def bodyDecoder : Decoder AllowableValue := fun v => do
  let r ← Record.ofValue "AllowableValue"
    [.of "value" Decoder.string, .of "displayName" Decoder.string,
      .of "description" (Decoder.option Decoder.string)] v
  return {
    value := ← r.required "value" Decoder.string
    displayName := ← r.withDefault "displayName" Decoder.string ""
    description := ← r.withDefault "description" (Decoder.option Decoder.string) none }

/-- A value with the caller's permission to read it. -/
def decoder : Decoder AllowableValue := fun v => do
  let r ← Record.ofValue "AllowableValueEntity"
    [.of "allowableValue" bodyDecoder, .of "canRead" (Decoder.option Decoder.bool)] v
  let body ← r.required "allowableValue" bodyDecoder
  return { body with canRead := ← r.withDefault "canRead" (Decoder.option Decoder.bool) none }

def toJson (a : AllowableValue) : Value :=
  .object [
    ("allowableValue", .object [("value", .string a.value), ("displayName", .string a.displayName),
      ("description", .ofText? a.description)]),
    ("canRead", match a.canRead with
      | none => .null
      | some b => .bool b)]

end AllowableValue

namespace Descriptor

def fields : List Field := [
  .of "name" Decoder.string,
  .of "displayName" Decoder.string,
  .of "description" (Decoder.option Decoder.string),
  .of "defaultValue" (Decoder.option Decoder.string),
  .of "required" Decoder.bool,
  .of "sensitive" Decoder.bool,
  .of "dynamic" Decoder.bool,
  .of "supportsEl" Decoder.bool,
  .of "allowableValues" (Decoder.option (Decoder.list AllowableValue.decoder)),
  .of "identifiesControllerService" (Decoder.option Decoder.string)]

def decoder : Decoder Descriptor := fun v => do
  let r ← Record.ofValue "PropertyDescriptor" fields v
  return {
    name := ← r.required "name" Decoder.string
    displayName := ← r.withDefault "displayName" Decoder.string ""
    description := ← r.withDefault "description" (Decoder.option Decoder.string) none
    defaultValue := ← r.withDefault "defaultValue" (Decoder.option Decoder.string) none
    required := ← r.withDefault "required" Decoder.bool false
    sensitive := ← r.withDefault "sensitive" Decoder.bool false
    dynamic := ← r.withDefault "dynamic" Decoder.bool false
    supportsExpressions := ← r.withDefault "supportsEl" Decoder.bool false
    allowableValues := ← r.withDefault "allowableValues"
      (Decoder.option (Decoder.list AllowableValue.decoder)) none
    serviceType := ← r.withDefault "identifiesControllerService"
      (Decoder.option Decoder.string) none }

/-- A descriptor inside the answer to a lookup of one property. -/
def entityDecoder : Decoder Descriptor := fun v => do
  let r ← Record.ofValue "PropertyDescriptorEntity" [.of "propertyDescriptor" decoder] v
  r.required "propertyDescriptor" decoder

def toJson (d : Descriptor) : Value :=
  .object [
    ("name", .string d.name),
    ("displayName", .string d.displayName),
    ("description", .ofText? d.description),
    ("defaultValue", .ofText? d.defaultValue),
    ("required", .bool d.required),
    ("sensitive", .bool d.sensitive),
    ("dynamic", .bool d.dynamic),
    ("supportsEl", .bool d.supportsExpressions),
    ("allowableValues", match d.allowableValues with
      | none => .null
      | some values => .array (values.map AllowableValue.toJson)),
    ("identifiesControllerService", .ofText? d.serviceType)]

end Descriptor

/-- An object from property names to descriptors. -/
def Descriptors.decoder : Decoder Descriptors := fun v =>
  (Decoder.members Descriptor.decoder v).map SortedMap.ofList

namespace PastValue

def decoder : Decoder PastValue := fun v => do
  let r ← Record.ofValue "PreviousValue"
    [.of "previousValue" (Decoder.option Decoder.string), .of "timestamp" Decoder.string,
      .of "userIdentity" Decoder.string] v
  return {
    value := ← r.withDefault "previousValue" (Decoder.option Decoder.string) none
    timestamp := ← r.withDefault "timestamp" Decoder.string ""
    user := ← r.withDefault "userIdentity" Decoder.string "" }

def toJson (p : PastValue) : Value :=
  .object [("previousValue", .ofText? p.value), ("timestamp", .string p.timestamp),
    ("userIdentity", .string p.user)]

end PastValue

namespace PropertyHistory

def decoder : Decoder PropertyHistory := fun v => do
  let r ← Record.ofValue "PropertyHistory" [.of "previousValues" (Decoder.list PastValue.decoder)] v
  return { pastValues := ← r.withDefault "previousValues" (Decoder.list PastValue.decoder) [] }

def toJson (h : PropertyHistory) : Value :=
  .object [("previousValues", .array (h.pastValues.map PastValue.toJson))]

end PropertyHistory

/-- An object from property names to histories. -/
def Histories.decoder : Decoder Histories := fun v =>
  (Decoder.members PropertyHistory.decoder v).map SortedMap.ofList

/-- Histories inside the answer to a lookup of a component's history. -/
def Histories.entityDecoder : Decoder Histories := fun v => do
  let inner : Decoder Histories := fun v => do
    let r ← Record.ofValue "ComponentHistory" [.of "propertyHistory" Histories.decoder] v
    r.withDefault "propertyHistory" Histories.decoder .empty
  let r ← Record.ofValue "ComponentHistoryEntity" [.of "componentHistory" inner] v
  r.required "componentHistory" inner

end PropertySheet
