import PropertySheet.Columns
import PropertySheet.RowStore

/-!
# The grid view

The view keeps the visible rows in order, their formatted cells, the selection and the scroll
offset. It does not look at the rows on its own: `sync` takes the notes of the store and formats
again only the rows that they name, `resize` formats every row for new columns.
-/

namespace PropertySheet

structure GridView where
  area : Rect := {}
  widths : ColumnWidths := {}
  /-- Formatted rows by id. -/
  cache : SortedMap Nat RowMarkup := .empty
  /-- Ids of the visible rows. -/
  order : List Nat := []
  /-- Place of each id in the order. -/
  positions : SortedMap Nat Nat := .empty
  selected : Nat := 0
  offset : Nat := 0
  /-- How many rows the last synchronisation or resize formatted. -/
  lastFormatted : Nat := 0
deriving DecidableEq, Repr, Inhabited

namespace GridView

/-- The header above the rows and the help below them. -/
def chromeLines : Nat := 2

def selectedIndex? (g : GridView) : Option Nat := if g.order.isEmpty then none else some g.selected

def selectedId? (g : GridView) : Option Nat := g.order[g.selected]?

/-- Lines that rows can take. -/
def viewportRows (g : GridView) : Nat := g.area.inside.height - chromeLines

/-- The visible slice of the order. -/
def viewport (g : GridView) : List Nat := (g.order.drop g.offset).take g.viewportRows

/-! ## Scrolling -/

/-- Move the offset as little as brings the selection into view, and leave no line blank that a row
could fill. -/
def scrollToSelection (g : GridView) : GridView :=
  let rows := max g.viewportRows 1
  let offset :=
    if g.selected < g.offset then g.selected
    else if g.offset + rows ≤ g.selected then g.selected + 1 - rows
    else g.offset
  { g with offset := min offset (g.order.length - rows) }

def select (g : GridView) (id : Nat) : Option GridView :=
  (g.positions.get? id).map fun position => { g with selected := position }.scrollToSelection

/-- Select a row if it is visible. -/
def trySelect (g : GridView) (id : Nat) : GridView := (g.select id).getD g

def moveSelection (g : GridView) (delta : Int) : GridView :=
  if g.order.isEmpty then g
  else
    let last : Int := (g.order.length : Int) - 1
    { g with selected := (max 0 (min last (g.selected + delta))).toNat }.scrollToSelection

def selectFirst (g : GridView) : GridView := { g with selected := 0 }.scrollToSelection

def selectLast (g : GridView) : GridView :=
  { g with selected := g.order.length - 1 }.scrollToSelection

/-! ## Following the rows -/

/-- Forget the rows. The area and the columns stay. -/
def reset (g : GridView) : GridView :=
  { g with cache := .empty, order := [], positions := .empty, selected := 0, offset := 0 }

/-- Take a new area and format every row for its columns. -/
def resize (g : GridView) (area : Rect) (store : RowStore) (descriptors : Descriptors)
    (options : MarkupOptions) : GridView :=
  let widths := ColumnWidths.ofWidth area.inside.width
  { g with
    area
    widths
    cache := store.rows.foldl
      (fun cache (r : Row) => cache.insert r.id (.ofRow r descriptors widths options)) .empty
    lastFormatted := store.rows.length }.scrollToSelection

/-- What a synchronisation has done so far: the view, and whether the order has to be built anew. -/
structure SyncState where
  view : GridView
  rebuild : Bool

/-- Format a row that a note names, or forget it when it is gone. A visible row without a place
calls for a new order. -/
def syncRow (store : RowStore) (descriptors : Descriptors) (options : MarkupOptions) (s : SyncState)
    (id : Nat) : SyncState :=
  match store.findById? id with
  | some r =>
    { view := { s.view with
        cache := s.view.cache.insert id (.ofRow r descriptors s.view.widths options)
        lastFormatted := s.view.lastFormatted + 1 }
      rebuild := s.rebuild || (!r.hidden && !s.view.positions.contains id) }
  | none => { s with view := { s.view with cache := s.view.cache.erase id } }

/-- Follow one note. -/
def syncEvent (store : RowStore) (descriptors : Descriptors) (options : MarkupOptions)
    (s : SyncState) : RowEvent → SyncState
  | .countChanged _ _ => { s with rebuild := true }
  | .rowsChanged ids => ids.foldl (syncRow store descriptors options) s

/-- Places of the ids of an order. -/
def positionsOf (order : List Nat) : SortedMap Nat Nat :=
  order.zipIdx.foldl (fun m e => m.insert e.1 e.2) .empty

/-- Build the order anew. A selected row that is still visible stays selected. -/
def rebuild (g : GridView) (store : RowStore) : GridView :=
  let order := store.visible.map (·.id)
  let positions := positionsOf order
  { g with
    order
    positions
    cache := g.cache.filter fun id _ => (store.findById? id).isSome
    selected := match g.selectedId?.bind positions.get? with
      | some position => position
      | none => min g.selected (order.length - 1) }

/-- Follow the notes of the store, and take them. -/
def sync (g : GridView) (store : RowStore) (descriptors : Descriptors) (options : MarkupOptions) :
    GridView × RowStore :=
  let (store, events) := store.takeEvents
  let s := events.foldl (syncEvent store descriptors options)
    { view := { g with lastFormatted := 0 }, rebuild := false }
  let view := if s.rebuild then s.view.rebuild store else s.view
  (view.scrollToSelection, store)

/-! ## Cells on the screen -/

/-- Where the value cell of a row is drawn, when the row is in view. -/
def cellArea? (g : GridView) (id : Nat) : Option Rect := do
  let index ← g.positions.get? id
  if index < g.offset ∨ g.offset + g.viewportRows ≤ index then none
  else
    let inner := g.area.inside
    return .make (inner.x + g.widths.valueX) (inner.y + 1 + asCoordinate (index - g.offset))
      g.widths.value 1

end GridView

end PropertySheet
