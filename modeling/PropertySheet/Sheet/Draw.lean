import PropertySheet.Editor.Draw
import PropertySheet.Sheet.Basic

/-!
# Drawing a sheet

The grid in its frame, with a header above the rows and the keys below them; then, each over what
was drawn before, the editor, the dialog and the notice. Drawing changes nothing: rows that are
formatted for another area are formatted again for the drawing alone.
-/

namespace PropertySheet

namespace Sheet

/-! ## The grid -/

def title (s : Sheet) : String :=
  if s.config.readOnly then " Properties (read only) " else " Properties "

/-- The keys that the sheet takes. -/
def help (s : Sheet) : String :=
  if s.config.readOnly then "↑/↓: Select | Enter: View | g: Go to service | ?: Info"
  else if s.config.dialogContainer.isSome then
    "↑/↓: Select | Enter: Edit | a: Add | d: Delete | g: Go to service | ?: Info"
  else "↑/↓: Select | Enter: Edit | d: Delete | g: Go to service | ?: Info"

/-- The style of a selected row. -/
def selectedStyle : Style := .boldOf .yellow

/-- The style of a value. -/
def valueStyle : CellStyle → Style
  | .unset | .sensitive | .blank => .italicOf .darkGray
  | _ => .of .white

/-- Draw a row into a line. The mark for more information follows the name, and stays within its
column. -/
def drawRow (m : RowMarkup) (selected : Bool) (widths : ColumnWidths) (x y : Nat)
    (screen : Screen) : Screen :=
  let nameStyle := if selected then selectedStyle
    else if m.name.required then .boldOf .white else .of .white
  let (screen, nameEnd) := screen.writeAtMost x y widths.name m.name.text nameStyle
  let screen :=
    if m.name.info then
      screen.write (min nameEnd (x + (widths.name - Markup.infoWidth))) y " ?" (.of .darkGray)
    else screen
  let style := if selected then selectedStyle else valueStyle m.value.style
  let screen := (screen.writeAtMost (x + widths.valueX) y widths.value m.value.text style).1
  let actionsX := x + widths.actionsX
  let screen :=
    if m.actions.goToService then screen.write actionsX y "→" (.of .cyan) else screen
  if m.actions.delete ∧ 2 < widths.actions then
    screen.write (actionsX + 2) y "✕" (.of .red)
  else screen

/-- The rows in view of a grid with a number of lines, as ids. -/
def shownIds (s : Sheet) (lines : Nat) : List Nat := (s.view.order.drop s.view.offset).take lines

/-- A row as formatted for an area: the cache holds the rows for the area of the view only. -/
def markupFor (s : Sheet) (area : Rect) (widths : ColumnWidths) (r : Row) : RowMarkup :=
  match if s.view.area = area then s.view.cache.get? r.id else none with
  | some m => m
  | none => .ofRow r s.descriptors widths s.markupOptions

/-- Draw the grid. An area without room for it shows its frame only. -/
def drawGrid (s : Sheet) (area : Rect) (screen : Screen) : Screen :=
  let screen := screen.drawFrame area s.title (.of .cyan)
  let inner := area.inside
  if inner.height < 3 ∨ inner.width < 10 then screen
  else
    let widths := if s.view.area = area then s.view.widths else ColumnWidths.ofWidth inner.width
    let header : Style := { color := some .white, bold := true, underlined := true }
    let screen := screen.write inner.x inner.y "Property" header
    let screen := screen.write (inner.x + widths.valueX) inner.y "Value" header
    let screen :=
      if s.view.order.isEmpty then
        screen.write inner.x (inner.y + 1) "No properties" (.of .darkGray)
      else screen
    let screen := (s.shownIds (inner.height - GridView.chromeLines)).zipIdx.foldl (fun screen e =>
      match s.store.findById? e.1 with
      | none => screen
      | some r =>
        drawRow (s.markupFor area widths r) (s.view.selectedId? = some e.1) widths inner.x
          (inner.y + 1 + e.2) screen) screen
    (screen.writeAtMost inner.x (inner.bottom - 1) inner.width s.help (.of .darkGray)).1

/-! ## What lies over the grid -/

/-- Draw a dialog in the middle of an area. -/
def drawDialog (d : Dialog) (area : Rect) (screen : Screen) : Screen :=
  match d with
  | .namePrompt p => p.draw (area.centered 50 5) screen
  | .createService d => d.draw (area.centered 64 18) screen
  | .detail d => d.draw (area.centered 64 14) screen
  | .tooltip t => t.draw (area.centered 64 (t.height + 2)) screen

/-- Draw something that may be absent. -/
def drawOver {α : Type} (shown : Option α) (draw : α → Screen → Screen) (screen : Screen) :
    Screen :=
  match shown with
  | some a => draw a screen
  | none => screen

/-- Draw the sheet into an area. An area without room for the grid shows nothing over it either. -/
def draw (s : Sheet) (area : Rect) (screen : Screen) : Screen :=
  let screen := s.drawGrid area screen
  if area.inside.height < 3 ∨ area.inside.width < 10 then screen
  else
    let screen := drawOver s.editor (fun e => e.draw area) screen
    let screen := drawOver s.dialog (fun d => drawDialog d area) screen
    drawOver s.notice (fun n => n.draw area) screen

end Sheet

end PropertySheet
