import PropertySheet.Json.Decode

/-!
# Options of a sheet

Fixed when the sheet is made. Without a place to mount dialogs a sheet offers no way to add a
property.
-/

namespace PropertySheet

structure SheetConfig where
  readOnly : Bool := false
  /-- Where dialogs are mounted. -/
  dialogContainer : Option String := none
  /-- Whether the sheet can be switched to a service that a row names. -/
  supportsNavigation : Bool := false
deriving DecidableEq, Repr, Inhabited

/-- What to do with unsaved changes when the user follows a service. -/
inductive UnsavedPolicy where
  | save
  | discard
  | cancel
deriving DecidableEq, Repr, Inhabited

namespace UnsavedPolicy

/-- The name of a policy in a configuration. -/
def name : UnsavedPolicy → String
  | .save => "save"
  | .discard => "discard"
  | .cancel => "cancel"

def all : List UnsavedPolicy := [.save, .discard, .cancel]

def decoder : Json.Decoder UnsavedPolicy := Json.Decoder.variant (all.map fun p => (p.name, p))

end UnsavedPolicy

open Json in
/-- The options in a JSON configuration; each may be left out. -/
def SheetConfig.decoder : Decoder SheetConfig := fun v => do
  let r ← Record.ofValue "PropertyTableConfig"
    [.of "read_only" Decoder.bool, .of "dialog_container" (Decoder.option Decoder.string),
      .of "supports_navigation" Decoder.bool] v
  return {
    readOnly := ← r.withDefault "read_only" Decoder.bool false
    dialogContainer := ← r.withDefault "dialog_container" (Decoder.option Decoder.string) none
    supportsNavigation := ← r.withDefault "supports_navigation" Decoder.bool false }

end PropertySheet
