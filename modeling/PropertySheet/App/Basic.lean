import PropertySheet.Component.Snapshot
import PropertySheet.Settings
import PropertySheet.Sheet.Keys
import PropertySheet.Sheet.Responses

/-!
# The application

The application shows one component in a sheet. It never waits either: what takes time is a task,
which ends in an event. `App.handleKey` and `App.handleEvent` react to what happened, and
`App.flush` after each of them hands the requests of the sheet to tasks and follows the events of
the sheet.

Which component a task is for is fixed when the task is made.
-/

namespace PropertySheet

/-- Work in the background. -/
inductive Task where
  /-- Fetch a component with its history. -/
  | load (component : ComponentRef)
  /-- Save changes against the revision of a snapshot. -/
  | save (snapshot : Snapshot) (changes : Changes)
  /-- Answer a request of the sheet for the component that it shows. -/
  | respond (component : ComponentRef) (request : Request)
deriving DecidableEq, Repr

/-- The end of a task, or the wish to leave. -/
inductive AppEvent where
  | responded (response : Response)
  | loaded (result : Except Failure (Snapshot × Histories))
  | saved (result : Except Failure Snapshot)
  | quit

structure App where
  settings : Settings
  running : Bool := true
  /-- The component whose requests are answered. -/
  component : ComponentRef
  /-- What is shown, once something is. -/
  snapshot : Option Snapshot := none
  sheet : Sheet
  /-- The last message of the status line. -/
  status : String := ""
  /-- Tasks that have not ended, oldest first. -/
  tasks : List Task := []
  /-- Events that nobody has handled, oldest first. -/
  events : List AppEvent := []

namespace App

/-! ## Loading and saving -/

def addTask (a : App) (t : Task) : App := { a with tasks := a.tasks ++ [t] }

def emit (a : App) (e : AppEvent) : App := { a with events := a.events ++ [e] }

/-- Start to load a component. -/
def load (a : App) (component : ComponentRef) : App :=
  { a with status := "Loading " ++ component.path }.addTask (.load component)

/-- The application as it starts: its first component is being loaded. -/
def ofSettings (settings : Settings) : App :=
  { settings, component := settings.component, sheet := .ofConfig settings.sheet : App }.load
    settings.component

def loadFailed (a : App) (e : Failure) : App :=
  { a with status := "Load failed: " ++ e.message }

/-- Show a component that has been loaded. -/
def display (a : App) (s : Snapshot) (histories : Histories) : App :=
  let (sheet, result) := a.sheet.load s.properties s.descriptors histories
  let a := { a with component := s.component, sheet }
  match result with
  | .error e => a.loadFailed e
  | .ok () =>
    { a with
      sheet := sheet.setGroup s.parentGroupId
      status := toString sheet.visibleRows.length ++ " properties"
      snapshot := some s }

/-- Start to save the changes, if there are any and they may be saved. -/
def save (a : App) : App :=
  if a.sheet.config.readOnly then a
  else
    match a.snapshot with
    | none => a
    | some s =>
      if a.sheet.isSaveRequired then
        { a with status := "Saving" }.addTask (.save s a.sheet.changes)
      else { a with status := "No changes to save" }

/-- Load the component that is shown once more. -/
def reload (a : App) : App :=
  match a.snapshot with
  | none => a
  | some s => a.load s.component

/-- Leave, without touching the row that is being edited. -/
def quit (a : App) : App := { a with sheet := a.sheet.cancelEdit, running := false }

/-! ## Reacting -/

/-- React to a key that the sheet does not take. -/
def handleOwnKey (a : App) (k : Key) : App :=
  match k.code with
  | .char 's' => a.save
  | .char 'r' => a.reload
  | .char 'q' | .esc => a.emit .quit
  | _ => a

/-- React to a key. Control and `c` leave from anywhere; any other key goes to the sheet first. -/
def handleKey (a : App) (k : Key) : App :=
  if k.control ∧ k.code = .char 'c' then a.emit .quit
  else
    let (sheet, taken) := a.sheet.handleKey k
    let a := { a with sheet }
    if taken then a else a.handleOwnKey k

/-- React to an event. What has been saved is loaded again. -/
def handleEvent (a : App) : AppEvent → App
  | .responded r => { a with sheet := a.sheet.complete r }
  | .loaded (.ok (s, histories)) => a.display s histories
  | .loaded (.error e) => a.loadFailed e
  | .saved (.ok s) => { a with status := "Saved" }.load s.component
  | .saved (.error e) => { a with status := "Save failed: " ++ e.message }
  | .quit => a.quit

/-- Follow an event of the sheet. -/
def followSheet (a : App) : SheetEvent → App
  | .notice _ => a
  | .navigate id _ => a.load ⟨.controllerService, id⟩

/-- Hand the requests of the sheet to tasks, and follow its events. -/
def flush (a : App) : App :=
  let (sheet, requests) := a.sheet.takeRequests
  let (sheet, events) := sheet.takeEvents
  let a := { a with sheet, tasks := a.tasks ++ requests.map (.respond a.component) }
  events.foldl followSheet a

end App

end PropertySheet
