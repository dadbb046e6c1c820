import PropertySheet.Changes
import PropertySheet.Dialog.NamePrompt
import PropertySheet.Dialog.Notice
import PropertySheet.Dialog.ServiceDialog
import PropertySheet.Dialog.Tooltip
import PropertySheet.Dialog.ValueDetail
import PropertySheet.Editor.CellEditor
import PropertySheet.GridView
import PropertySheet.Request
import PropertySheet.SheetConfig

/-!
# The property sheet

A sheet shows the properties of one component and lets the user edit them. It holds the rows, what
it knows about the properties, the grid, at most one editor, at most one dialog over it and at most
one notice over that.

What it needs from outside it queues as requests, each noted in `pending` with its purpose until the
response comes. What the application has to react to it queues as events.
-/

namespace PropertySheet

/-- What an outstanding request is for. -/
inductive Purpose where
  | addProperty (name : String)
  | serviceTypes
  | createService
  /-- The property of a new service is looked up, to list the service among its values. -/
  | refreshDescriptor (rowId : Nat) (serviceId : String)
  | goToService
deriving DecidableEq, Repr, Inhabited

/-- Whether a request serves the dialog that creates a service. -/
def Purpose.servesCreation : Purpose → Bool
  | .serviceTypes | .createService | .refreshDescriptor _ _ => true
  | _ => false

/-- A dialog over the grid. -/
inductive Dialog where
  | namePrompt (prompt : NamePrompt)
  | createService (dialog : ServiceDialog)
  | detail (detail : ValueDetail)
  | tooltip (tooltip : Tooltip)
deriving DecidableEq, Repr, Inhabited

/-- What the application has to react to. -/
inductive SheetEvent where
  | notice (n : Notice)
  | navigate (serviceId : String) (parentGroupId : Option String)
deriving DecidableEq, Repr, Inhabited

structure Sheet where
  config : SheetConfig
  store : RowStore := {}
  descriptors : Descriptors := .empty
  histories : Histories := .empty
  view : GridView := {}
  /-- The group in which new services are created. -/
  groupId : Option String := none
  editor : Option CellEditor := none
  dialog : Option Dialog := none
  notice : Option Notice := none
  nextToken : Token := 0
  pending : SortedMap Token Purpose := .empty
  /-- Requests that nobody has taken yet, oldest first. -/
  requests : List Request := []
  /-- Events that nobody has taken yet, oldest first. -/
  events : List SheetEvent := []
  /-- A destroyed sheet ignores keys. -/
  destroyed : Bool := false
deriving DecidableEq, Repr, Inhabited

namespace Sheet

/-- An empty sheet. -/
def ofConfig (config : SheetConfig) : Sheet := { config }

/-! ## Looking at a sheet -/

def markupOptions (s : Sheet) : MarkupOptions :=
  { readOnly := s.config.readOnly, supportsNavigation := s.config.supportsNavigation }

def rows (s : Sheet) : List Row := s.store.rows

def visibleRows (s : Sheet) : List Row := s.store.visible

def findRow? (s : Sheet) (property : String) : Option Row := s.store.findByName? property

def selectedRow? (s : Sheet) : Option Row := s.view.selectedId?.bind s.store.findById?

/-- The changes that a save would send. -/
def changes (s : Sheet) : Changes := .ofRows s.rows

def isSaveRequired (s : Sheet) : Bool := PropertySheet.isSaveRequired s.rows

def hasPending (s : Sheet) : Bool := !s.pending.isEmpty

/-- Whether keys belong to an editor, a dialog or a notice. -/
def isCapturingInput (s : Sheet) : Bool := s.editor.isSome || s.dialog.isSome || s.notice.isSome

/-! ## Queues -/

/-- Hand over the queued requests. -/
def takeRequests (s : Sheet) : Sheet × List Request := ({ s with requests := [] }, s.requests)

/-- Hand over the queued events. -/
def takeEvents (s : Sheet) : Sheet × List SheetEvent := ({ s with events := [] }, s.events)

/-- Ask for something under the next token. -/
def ask (s : Sheet) (purpose : Purpose) (request : Token → Request) : Sheet :=
  { s with
    nextToken := s.nextToken + 1
    pending := s.pending.insert s.nextToken purpose
    requests := s.requests ++ [request s.nextToken] }

def emit (s : Sheet) (e : SheetEvent) : Sheet := { s with events := s.events ++ [e] }

/-- Show a notice, and tell the application. -/
def showNotice (s : Sheet) (n : Notice) : Sheet := { s.emit (.notice n) with notice := some n }

/-! ## Keeping the grid up to date -/

/-- Let the grid follow the rows. -/
def sync (s : Sheet) : Sheet :=
  let (view, store) := s.view.sync s.store s.descriptors s.markupOptions
  { s with view, store }

/-- Take a new area. -/
def resize (s : Sheet) (area : Rect) : Sheet :=
  { s with view := s.view.resize area s.store s.descriptors s.markupOptions }

/-- Set fields of a row; a row that does not exist is left at that. -/
def updateRow (s : Sheet) (id : Nat) (p : RowPatch) : Sheet :=
  match s.store.update id p with
  | .ok store => { s with store }
  | .error _ => s

/-- Select a row by its id, if it is visible. -/
def selectId (s : Sheet) (id : Nat) : Sheet := { s with view := s.view.trySelect id }

/-- Select a property, if it is visible. -/
def select (s : Sheet) (property : String) : Sheet × Bool :=
  match (s.findRow? property).bind fun r => s.view.select r.id with
  | some view => ({ s with view }, true)
  | none => (s, false)

def setGroup (s : Sheet) (groupId : Option String) : Sheet := { s with groupId }

end Sheet

end PropertySheet
