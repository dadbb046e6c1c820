import PropertySheet.Sheet.Asking

/-!
# Keys of a sheet

A key goes to the notice, the dialog, the editor or the grid, in that order. `handleKey` says
whether the key was for the sheet at all; a key that was not leaves the sheet as it is.
-/

namespace PropertySheet

namespace Sheet

/-- A key for the open editor. -/
def handleEditorKey (s : Sheet) (e : CellEditor) (k : Key) : Sheet :=
  let (e, input) := e.handleKey k
  let s := { s with editor := some e }
  match input with
  | .commit => s.saveRow
  | .cancel => s.cancelEdit
  | .createService serviceType => s.cancelEdit.startCreation e.rowId e.property serviceType
  | .changed | .none => s

/-- A key for the prompt. -/
def handlePromptKey (s : Sheet) (p : NamePrompt) (k : Key) : Sheet :=
  let (p, action) := p.handleKey k
  let s := { s with dialog := some (.namePrompt p) }
  match action with
  | .confirm name => s.addProperty name
  | .cancel => { s with dialog := none }
  | .changed | .none => s

/-- A key for the dialog that creates a service. -/
def handleCreationKey (s : Sheet) (d : ServiceDialog) (k : Key) : Sheet :=
  let (d, action) := d.handleKey k
  match action with
  | .create typeName =>
    { s with dialog := some (.createService d.startCreating) }.ask .createService
      (.createService · (.ofGroup? s.groupId) typeName)
  | .cancel => { s with dialog := some (.createService d) }.closeCreation
  | .changed | .none => { s with dialog := some (.createService d) }

/-- A key for the open dialog. -/
def handleDialogKey (s : Sheet) (d : Dialog) (k : Key) : Sheet :=
  match d with
  | .namePrompt p => s.handlePromptKey p k
  | .createService d => s.handleCreationKey d k
  | .detail _ => if k.code = .esc ∨ k.code = .enter then { s with dialog := none } else s
  | .tooltip _ => { s with dialog := none }

def moveSelection (s : Sheet) (delta : Int) : Sheet :=
  { s with view := s.view.moveSelection delta }

/-- How far a page moves the selection. -/
def pageStep (s : Sheet) : Int := (max s.view.viewportRows 1 : Nat)

/-- A key for the grid. -/
def handleGridKey (s : Sheet) (k : Key) : Sheet × Bool :=
  match k.code with
  | .up => (s.moveSelection (-1), true)
  | .down => (s.moveSelection 1, true)
  | .pageUp => (s.moveSelection (-s.pageStep), true)
  | .pageDown => (s.moveSelection s.pageStep, true)
  | .home => ({ s with view := s.view.selectFirst }, true)
  | .endOfLine => ({ s with view := s.view.selectLast }, true)
  | .enter => (s.activate, true)
  | .delete => s.deleteSelected
  | .char 'a' | .char '+' => s.openNamePrompt
  | .char 'd' => s.deleteSelected
  | .char 'g' => s.goToService
  | .char '?' | .char 'i' => s.showTooltip
  | _ => (s, false)

/-- The sheet after a key, and whether the key was for it. -/
def handleKey (s : Sheet) (k : Key) : Sheet × Bool :=
  if s.destroyed then (s, false)
  else
    match s.notice with
    | some _ => ({ s with notice := none }, true)
    | none =>
      match s.dialog with
      | some d => (s.handleDialogKey d k, true)
      | none =>
        match s.editor with
        | some e => (s.handleEditorKey e k, true)
        | none => s.handleGridKey k

end Sheet

end PropertySheet
