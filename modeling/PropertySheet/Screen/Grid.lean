import PropertySheet.Rect
import PropertySheet.Screen.Style
import PropertySheet.Text.Cluster
import PropertySheet.Text.Width

/-!
# The screen

A screen is a rectangle of cells. Every drawing is a sequence of changes of single cells, and a cell
outside the screen is left alone, so drawings need no bounds of their own.

A text is written cluster by cluster until the next one would cross the limit or the edge of the
screen. The limit is the caller's: a text is not kept inside a box unless the caller says so.
-/

namespace PropertySheet

/-- A rectangle of cells, line by line. -/
structure Screen where
  area : Rect
  cells : Array Cell
deriving Repr, Inhabited

namespace Screen

/-- A screen of blanks. -/
def blank (area : Rect) : Screen := { area, cells := Array.replicate (area.width * area.height) {} }

/-- Place of a cell among the cells. -/
def index? (s : Screen) (x y : Nat) : Option Nat :=
  if s.area.contains x y then some ((y - s.area.y) * s.area.width + (x - s.area.x)) else none

def cell? (s : Screen) (x y : Nat) : Option Cell := (s.index? x y).bind fun i => s.cells[i]?

/-- Change one cell. -/
def modify (s : Screen) (x y : Nat) (f : Cell → Cell) : Screen :=
  match s.index? x y with
  | some i => { s with cells := s.cells.modify i f }
  | none => s

/-- Change the cells of a stretch of a line. -/
def modifyRun (s : Screen) (x y count : Nat) (f : Cell → Cell) : Screen :=
  (List.range count).foldl (fun s i => s.modify (x + i) y f) s

/-- Change every cell of a rectangle. -/
def modifyArea (s : Screen) (r : Rect) (f : Cell → Cell) : Screen :=
  (List.range r.height).foldl (fun s i => s.modifyRun r.x (r.y + i) r.width f) s

/-- Make every cell of a rectangle blank. -/
def clear (s : Screen) (r : Rect) : Screen := s.modifyArea r fun _ => {}

/-- Add a style to every cell of a rectangle. -/
def patchArea (s : Screen) (r : Rect) (style : Style) : Screen := s.modifyArea r (·.patch style)

/-- Show a cluster in a cell. -/
def draw (s : Screen) (x y : Nat) (symbol : List Char) (style : Style) : Screen :=
  s.modify x y (·.draw symbol style)

/-! ## Writing text -/

/-- Write clusters from a cell on, within a number of columns. Clusters with control characters and
those without a column are left out; the cells that a wide cluster hides become blank. The result is
the screen and the column after the text. -/
def writeClusters (s : Screen) (x y columns : Nat) (style : Style) :
    List (List Char) → Screen × Nat
  | [] => (s, x)
  | g :: rest =>
    let w := Text.charsWidth g
    if g.any Text.isControl || w = 0 then writeClusters s x y columns style rest
    else if w ≤ columns then
      writeClusters ((s.draw x y g style).modifyRun (x + 1) y (w - 1) fun _ => {})
        (x + w) y (columns - w) style rest
    else (s, x)

/-- Write a text of at most a number of columns, up to the edge of the screen. -/
def writeAtMost (s : Screen) (x y columns : Nat) (text : String) (style : Style) : Screen × Nat :=
  s.writeClusters x y (min columns (s.area.right - x)) style (Text.clusters text.toList)

/-- Write a text, up to the edge of the screen. -/
def write (s : Screen) (x y : Nat) (text : String) (style : Style) : Screen :=
  (s.writeAtMost x y maxCoordinate text style).1

/-! ## Reading the screen -/

/-- The cells of a line. -/
def line (s : Screen) (i : Nat) : List Cell :=
  (s.cells.extract (i * s.area.width) ((i + 1) * s.area.width)).toList

/-- The text of a line: the symbols of its cells, so that a hidden cell adds its blank. -/
def lineText (s : Screen) (i : Nat) : String := String.ofList ((s.line i).flatMap (·.symbol))

/-- Runs of equal looks, with their lengths. -/
def runs : List Look → List (Nat × Look)
  | [] => []
  | l :: rest =>
    match runs rest with
    | (n, m) :: more => if l = m then (n + 1, m) :: more else (1, l) :: (n, m) :: more
    | [] => [(1, l)]

end Screen

end PropertySheet
