import PropertySheet.Editor.ChoiceList
import PropertySheet.Editor.Surface
import PropertySheet.Row

/-!
# The cell editor

One editor serves one row. Its kind follows from the descriptor: a choice where there are allowable
values, a field for expressions where they are supported or nothing is known of the property, and a
plain field otherwise. A commit says which value to store and whether that is a change; the row
itself is never touched from here.
-/

namespace PropertySheet

inductive EditorKind where
  | plain
  | expression
  | choice
deriving DecidableEq, Repr, Inhabited

/-- The kind of editor that a property calls for. -/
def EditorKind.ofDescriptor : Option Descriptor → EditorKind
  | none => .expression
  | some d => if d.isChoice then .choice else if d.supportsExpressions then .expression else .plain

/-- The content of an editor. -/
inductive EditorBody where
  | plain (field : TextField)
  | expression (field : TextField)
  | choice (list : ChoiceList)
deriving DecidableEq, Repr, Inhabited

namespace EditorBody

def kind : EditorBody → EditorKind
  | .plain _ => .plain
  | .expression _ => .expression
  | .choice _ => .choice

def textLines : Nat := 5

def maxChoiceLines : Nat := 10

/-- Lines that the body needs: the text, a box and the keys; or the entries, a description and the
keys. -/
def height : EditorBody → Nat
  | .plain _ | .expression _ => textLines + 2
  | .choice l => min (asCoordinate l.entries.length) maxChoiceLines + 3

def reset : EditorBody → EditorBody
  | .plain f => .plain f.reset
  | .expression f => .expression f.reset
  | .choice l => .choice l.reset

/-- The body after a key, and what the key asks for. -/
def handleKey (b : EditorBody) (k : Key) (serviceType : Option String) : EditorBody × EditorInput :=
  match b with
  | .plain f => (.plain (f.handleKey k).1, (f.handleKey k).2)
  | .expression f => (.expression (f.handleKey k).1, (f.handleKey k).2)
  | .choice l => (.choice (l.handleKey k serviceType).1, (l.handleKey k serviceType).2)

end EditorBody

structure CellEditor where
  rowId : Nat
  property : String
  displayName : String
  descriptor : Option Descriptor
  /-- The value of the row when the editor opened. -/
  previousValue : Option String
  surface : Surface
  body : EditorBody
  /-- A closed editor takes no keys. -/
  destroyed : Bool := false
deriving DecidableEq, Repr, Inhabited

/-- The value to store, and whether it is a change. -/
structure EditorCommit where
  value : Option String
  dirty : Bool
deriving DecidableEq, Repr, Inhabited

/-- Whether the content may be committed, and what to say if not. -/
structure Validation where
  valid : Bool
  message : Option String
deriving DecidableEq, Repr, Inhabited

namespace CellEditor

/-- The content of an editor that opens on a row. -/
def bodyFor (r : Row) (d : Option Descriptor) : EditorBody :=
  let sensitive := d.any (·.sensitive)
  match EditorKind.ofDescriptor d, d with
  | .choice, some d => .choice (.load d r.value r.previousValue)
  | .plain, _ => .plain (.load r.value sensitive)
  | _, _ => .expression (.load r.value sensitive)

/-- An editor on a row, beside its cell. -/
def onRow (r : Row) (d : Option Descriptor) (anchor : Rect) : CellEditor :=
  { rowId := r.id, property := r.property, displayName := r.displayName, descriptor := d,
    previousValue := r.value, surface := { anchor }, body := bodyFor r d }

/-- The value that the content stands for. -/
def value (e : CellEditor) : Option String :=
  match e.body with
  | .plain f | .expression f => f.resolve e.descriptor e.previousValue
  | .choice l => l.selectedValue

/-- Whether a commit changes the row. -/
def isDirty (e : CellEditor) : Bool :=
  match e.body with
  | .choice l => l.isChanged
  | _ => e.value ≠ e.previousValue

def commit (e : CellEditor) : EditorCommit := { value := e.value, dirty := e.isDirty }

/-- Every content is valid: the backend checks it when it is saved. -/
def validate (_ : CellEditor) : Validation := { valid := true, message := none }

/-- Put the initial content back. -/
def cancel (e : CellEditor) : CellEditor := { e with body := e.body.reset }

def destroy (e : CellEditor) : CellEditor := { e with destroyed := true }

def moveBy (e : CellEditor) (dx dy : Int) : CellEditor :=
  { e with surface := e.surface.moveBy dx dy }

/-- Only the editor for expressions can be made higher. -/
def resizeBy (e : CellEditor) (dh : Int) : CellEditor :=
  match e.body with
  | .expression _ => { e with surface := e.surface.resizeBy dh }
  | _ => e

/-- How far a key with Alt drags the surface. -/
def dragStep : KeyCode → Option (Int × Int)
  | .left => some (-2, 0)
  | .right => some (2, 0)
  | .up => some (0, -1)
  | .down => some (0, 1)
  | _ => none

/-- How much a key with Control adds to the height. -/
def resizeStep : KeyCode → Option Int
  | .down => some 1
  | .up => some (-1)
  | _ => none

/-- A key for the content. -/
def handleBodyKey (e : CellEditor) (k : Key) : CellEditor × EditorInput :=
  let (body, input) := e.body.handleKey k (e.descriptor.bind (·.serviceType))
  ({ e with body }, input)

/-- The editor after a key, and what the key asks for. -/
def handleKey (e : CellEditor) (k : Key) : CellEditor × EditorInput :=
  if e.destroyed then (e, .none)
  else
    match if k.alt then dragStep k.code else none with
    | some (dx, dy) => (e.moveBy dx dy, .changed)
    | none =>
      match if k.control then resizeStep k.code else none with
      | some dh => (e.resizeBy dh, .changed)
      | none => e.handleBodyKey k

end CellEditor

end PropertySheet
