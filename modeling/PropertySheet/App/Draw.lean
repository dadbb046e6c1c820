import PropertySheet.App.Basic
import PropertySheet.Sheet.Draw

/-!
# Drawing the application

The sheet above and a status line below. The sheet is given five lines before the status line is
given any.
-/

namespace PropertySheet

namespace App

def minSheetLines : Nat := 5

/-- The part of an area that the sheet takes. -/
def sheetArea (area : Rect) : Rect :=
  { area with height := if minSheetLines < area.height then area.height - 1 else area.height }

/-- The part of an area below the sheet. -/
def statusArea (area : Rect) : Rect :=
  let above := (sheetArea area).height
  { area with y := area.y + above, height := area.height - above }

/-- The keys that the application takes. -/
def help (a : App) : String :=
  if a.sheet.config.readOnly then "r: Reload | q: Quit" else "s: Save | r: Reload | q: Quit"

def statusLine (a : App) : String :=
  let name := match a.snapshot with
    | some s => s.name
    | none => "loading"
  let modified := if a.sheet.isSaveRequired then " *" else ""
  " " ++ name ++ modified ++ " | " ++ a.help ++ " | " ++ a.status

/-- The application with its sheet formatted for an area. -/
def fit (a : App) (area : Rect) : App :=
  if a.sheet.view.area = sheetArea area then a
  else { a with sheet := a.sheet.resize (sheetArea area) }

/-- Draw the application, whose sheet is formatted for the area. -/
def draw (a : App) (area : Rect) (s : Screen) : Screen :=
  (a.sheet.draw (sheetArea area) s).drawParagraph (statusArea area) (plainLines a.statusLine)
    (.of .darkGray) .cut 0

end App

end PropertySheet
