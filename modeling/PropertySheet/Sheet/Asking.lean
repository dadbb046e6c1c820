import PropertySheet.Sheet.Editing

/-!
# What a sheet asks for

Adding a property, following a service and creating one need an answer from outside, so they start
with a request. The dialogs that only tell something need none.
-/

namespace PropertySheet

namespace Sheet

/-! ## Adding a property -/

def nameRequired : Notice := .info "Configuration Error" "Property name must be specified."

def nameExists : Notice :=
  .info "Property Exists" "A property with this name already exists."

/-- Ask for the name of a property to add, after committing the open editor. A read-only sheet and
one without a place for dialogs do not. -/
def openNamePrompt (s : Sheet) : Sheet × Bool :=
  if s.config.readOnly || s.config.dialogContainer.isNone then (s, false)
  else ({ s.saveRow with dialog := some (.namePrompt .empty) }, true)

/-- Add a property under a name. A blank name leaves the prompt open; a visible row is selected
instead, and a hidden one comes back without its value. -/
def addProperty (s : Sheet) (name : String) : Sheet :=
  let name := Text.trim name
  if name.isEmpty then s.showNotice nameRequired
  else
    let s := { s with dialog := none }
    match s.findRow? name with
    | some r =>
      if r.hidden then
        match s.store.update r.id
            { hidden := some false, value := some none, previousValue := some none } with
        | .error _ => s
        | .ok store => ((sync { s with store }).selectId r.id).openEditor r.id
      else (s.selectId r.id).showNotice nameExists
    | none => s.ask (.addProperty name) (.resolveDescriptor · name)

/-! ## Services -/

/-- Follow the service that the selected row names, if the row offers it. -/
def goToService (s : Sheet) : Sheet × Bool :=
  match s.selectedRow? with
  | none => (s, false)
  | some r =>
    if (Markup.actions r (s.descriptors.get? r.property) s.markupOptions).goToService then
      match r.value with
      | none => (s, false)
      | some id =>
        let s := s.saveRow
        let unsaved := if s.config.readOnly then none else some s.changes
        (s.ask .goToService (.goToService · id unsaved), true)
    else (s, false)

/-- Start the creation of a service for a row. -/
def startCreation (s : Sheet) (rowId : Nat) (property serviceType : String) : Sheet :=
  { s.ask .serviceTypes (.listServiceTypes · serviceType) with
    dialog := some (.createService { rowId, property, serviceType }) }

/-- Leave the dialog that creates a service, and forget its requests. -/
def closeCreation (s : Sheet) : Sheet :=
  { s with
    dialog := match s.dialog with
      | some (.createService _) => none
      | d => d
    pending := s.pending.filter fun _ p => !p.servesCreation }

/-- Tell what is known about the selected property. -/
def showTooltip (s : Sheet) : Sheet × Bool :=
  match s.selectedRow? with
  | none => (s, false)
  | some r =>
    match s.descriptors.get? r.property with
    | none => (s, false)
    | some d =>
      ({ s with dialog := some (.tooltip (.ofDescriptor d (s.histories.get? r.property))) }, true)

end Sheet

end PropertySheet
