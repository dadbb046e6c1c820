import PropertySheet.Sheet.Basic

/-!
# Loading and editing a sheet

A load replaces everything, and starts from a cleared sheet even if it then fails. At most one
editor is open, and opening another one commits it first. A read-only sheet shows values instead of
editing them.
-/

namespace PropertySheet

namespace Sheet

/-! ## Editors -/

/-- Close the editor without touching its row. -/
def cancelEdit (s : Sheet) : Sheet := { s with editor := none }

/-- Close the editor and store its value if that is a change. -/
def saveRow (s : Sheet) : Sheet :=
  match s.editor with
  | none => s
  | some e =>
    let s := s.cancelEdit
    let c := e.commit
    let s := if c.dirty then s.updateRow e.rowId { value := some c.value } else s
    s.sync

/-- Open an editor on a visible row, after committing the one that is open. -/
def openEditor (s : Sheet) (id : Nat) : Sheet :=
  let s := s.saveRow
  match s.store.findById? id with
  | none => s
  | some r =>
    if r.hidden then s
    else
      let anchor := (s.view.cellArea? id).getD {}
      { s with editor := some (.onRow r (s.descriptors.get? r.property) anchor) }

/-- Open the editor of the selected row, or its detail if the sheet is read-only. -/
def activate (s : Sheet) : Sheet :=
  match s.view.selectedId? with
  | none => s
  | some id =>
    if s.config.readOnly then
      match (s.store.findById? id).bind fun r =>
          ValueDetail.ofRow? r (s.descriptors.get? r.property) with
      | some d => { s with dialog := some (.detail d) }
      | none => s
    else s.openEditor id

/-- Hide the selected row if the user added it. -/
def deleteSelected (s : Sheet) : Sheet × Bool :=
  if s.config.readOnly then (s, false)
  else
    match s.view.selectedId? with
    | none => (s, false)
    | some id =>
      if (s.store.findById? id).map (·.kind) ≠ some .userDefined then (s, false)
      else
        let t := if s.editor.map (·.rowId) = some id then s.cancelEdit else s
        match t.store.update id { hidden := some true } with
        | .error _ => (t, false)
        | .ok store => (sync { t with store }, true)

/-! ## Loading -/

/-- Empty the sheet and drop every outstanding request. Queued events stay. -/
def clear (s : Sheet) : Sheet :=
  { s.cancelEdit with
    dialog := none
    notice := none
    pending := .empty
    requests := []
    store := s.store.clear.takeEvents.1
    descriptors := .empty
    histories := .empty
    view := s.view.reset }

/-- Empty the sheet for good. -/
def destroy (s : Sheet) : Sheet := { s.clear with events := [], destroyed := true }

/-- The kind of a property at load time: without a descriptor it is the user's own. -/
def kindOf : Option Descriptor → PropertyKind
  | none => .userDefined
  | some d => if d.required then .required else if d.dynamic then .userDefined else .optional

/-- A property as it is loaded: an unset value is replaced by the default. -/
def loadedRow (descriptors : Descriptors) (name : String) (value : Option String) : NewRow :=
  let d := descriptors.get? name
  .loaded name ((d.map (·.label)).getD name) (value.orElse fun _ => d.bind (·.defaultValue))
    (kindOf d)

/-- Replace every row, in the order of the values. -/
def load (s : Sheet) (values : List (String × Option String)) (descriptors : Descriptors)
    (histories : Histories) : Sheet × Except Failure Unit :=
  let s := s.clear
  match s.store.replaceAll (values.map fun v => loadedRow descriptors v.1 v.2) with
  | .error e => (s, .error e)
  | .ok store =>
    let s := sync { s with store, descriptors, histories }
    ({ s with view := s.view.selectFirst }, .ok ())

end Sheet

end PropertySheet
