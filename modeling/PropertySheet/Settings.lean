import PropertySheet.Component
import PropertySheet.Failure
import PropertySheet.SheetConfig
import PropertySheet.Text.Blank
import PropertySheet.Yaml.Decode

/-!
# Settings of the application

The settings come from a YAML text: where the backend is, which component to show first, and how.
They are read as a whole and then checked; the first check that fails is the one reported.
-/

namespace PropertySheet

/-- Names the file of the settings in the environment. -/
def settingsVariable : String := "PROPERTY_TABLE_CONFIG"

/-- The file of the settings if the environment names none. -/
def settingsFile : String := "./property-table.yml"

structure Settings where
  /-- Root of the backend's interface, such as `http://localhost:8080/api`. -/
  baseUrl : String
  /-- The component shown first. -/
  component : ComponentRef
  timeoutSeconds : Nat := 30
  unsavedChanges : UnsavedPolicy := .cancel
  logDirectory : String := "./logs"
  sheet : SheetConfig := {}
deriving DecidableEq, Repr, Inhabited

namespace Settings

/-! ## Reading -/

open Yaml.Decoder in
def componentDecoder : Yaml.Decoder ComponentRef := fun d n => do
  let es ← record ["kind", "id"] d n
  return {
    kind := ← field d es "kind" (variant (ComponentKind.all.map fun k => (k.name, k)))
    id := ← field d es "id" string }

open Yaml.Decoder in
def sheetDecoder : Yaml.Decoder SheetConfig := fun d n => do
  let es ← record ["read_only", "dialog_container", "supports_navigation"] d n
  return {
    readOnly := ← fieldOr d es "read_only" bool false
    dialogContainer := ← fieldOr d es "dialog_container" (option string) none
    supportsNavigation := ← fieldOr d es "supports_navigation" bool false }

open Yaml.Decoder in
def decoder : Yaml.Decoder Settings := fun d n => do
  let es ← record ["base_url", "component", "request_timeout_secs", "unsaved_changes", "log_dir",
    "table"] d n
  return {
    baseUrl := ← field d es "base_url" string
    component := ← field d es "component" componentDecoder
    timeoutSeconds := ← fieldOr d es "request_timeout_secs" nat64 30
    unsavedChanges := ← fieldOr d es "unsaved_changes"
      (variant (UnsavedPolicy.all.map fun p => (p.name, p))) .cancel
    logDirectory := ← fieldOr d es "log_dir" string "./logs"
    sheet := ← fieldOr d es "table" sheetDecoder {} }

/-! ## Checking -/

/-- What is wrong with some settings: the field, and what to do about it. -/
structure Fault where
  field : String
  advice : String
deriving DecidableEq, Repr

def Fault.message (f : Fault) : String := f.field ++ ": " ++ f.advice

/-- Whether an address names its scheme, which has to be one of the web. -/
def isWebAddress (s : String) : Bool := s.startsWith "http://" || s.startsWith "https://"

/-- The first fault of some settings. -/
def fault? (s : Settings) : Option Fault :=
  if !isWebAddress s.baseUrl then some ⟨"base_url", "Must start with http:// or https://"⟩
  else if Text.isBlank (some s.component.id) then some ⟨"component.id", "Cannot be empty"⟩
  else if s.timeoutSeconds = 0 then some ⟨"request_timeout_secs", "Must be greater than 0"⟩
  else if s.logDirectory.isEmpty then some ⟨"log_dir", "Cannot be empty"⟩
  else if s.sheet.dialogContainer.any fun c => Text.isBlank (some c) then
    some ⟨"table.dialog_container", "Omit it instead of leaving it blank"⟩
  else none

/-- The settings in a YAML text. -/
def ofYaml (text : String) : Except Failure Settings :=
  match Yaml.decode? decoder text with
  | none => .error .malformedYaml
  | some s =>
    match s.fault? with
    | some f => .error (.config f.message)
    | none => .ok s

/-- The settings in a file of which the text is given, if the file exists. -/
def ofFile : Option String → Except Failure Settings
  | none => .error .missingFile
  | some text => ofYaml text

end Settings

end PropertySheet
