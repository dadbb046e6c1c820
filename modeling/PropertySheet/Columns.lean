import PropertySheet.Markup
import PropertySheet.Rect

/-!
# Columns of the grid

The name column takes about a third, the actions a few cells at the right edge, and the value the
rest, with a gap of one cell between columns. `RowMarkup` is a row formatted for such columns.
-/

namespace PropertySheet

/-- Widths of the three columns. -/
structure ColumnWidths where
  name : Nat := 0
  value : Nat := 0
  actions : Nat := 0
deriving DecidableEq, Repr, Inhabited

namespace ColumnWidths

def actionsWidth : Nat := 4

def gap : Nat := 1

def minNameWidth : Nat := 12

/-- Columns that share a width. -/
def ofWidth (width : Nat) : ColumnWidths :=
  let actions := min actionsWidth width
  let rest := width - (actions + 2 * gap)
  let name := min (max (rest * 35 / 100) minNameWidth) rest
  { name, value := rest - name, actions }

/-- Where the value column starts. -/
def valueX (w : ColumnWidths) : Nat := w.name + gap

/-- Where the actions start. -/
def actionsX (w : ColumnWidths) : Nat := w.valueX + w.value + gap

end ColumnWidths

/-- A row formatted for the columns. -/
structure RowMarkup where
  name : CellMarkup
  value : CellMarkup
  actions : Actions
deriving DecidableEq, Repr, Inhabited

/-- Format a row with the descriptor of its name. -/
def RowMarkup.ofRow (r : Row) (descriptors : Descriptors) (widths : ColumnWidths)
    (options : MarkupOptions) : RowMarkup :=
  let d := descriptors.get? r.property
  { name := Markup.name r d widths.name
    value := Markup.value r d widths.value
    actions := Markup.actions r d options }

end PropertySheet
