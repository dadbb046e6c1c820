/-!
# Rectangles on a terminal

Coordinates and sizes are numbers of 16 bits. A rectangle never reaches beyond the last coordinate:
`Rect.make` cuts its size there.
-/

namespace PropertySheet

/-- The largest coordinate and the largest size. -/
def maxCoordinate : Nat := 65535

/-- A number of cells as a coordinate of 16 bits. -/
def asCoordinate (n : Nat) : Nat := n % 65536

/-- A rectangle of cells by its left top corner and its size. -/
structure Rect where
  x : Nat := 0
  y : Nat := 0
  width : Nat := 0
  height : Nat := 0
deriving DecidableEq, Repr, Inhabited

namespace Rect

/-- A rectangle cut at the last coordinate. -/
def make (x y width height : Nat) : Rect :=
  { x, y, width := min width (maxCoordinate - x), height := min height (maxCoordinate - y) }

/-- First column right of the rectangle. -/
def right (r : Rect) : Nat := r.x + r.width

/-- First line below the rectangle. -/
def bottom (r : Rect) : Nat := r.y + r.height

def isEmpty (r : Rect) : Bool := r.width = 0 || r.height = 0

/-- Whether a cell lies in the rectangle. -/
def contains (r : Rect) (x y : Nat) : Bool :=
  r.x ≤ x && x < r.right && r.y ≤ y && y < r.bottom

/-- The cells that two rectangles share. -/
def inter (r s : Rect) : Rect :=
  let x := max r.x s.x
  let y := max r.y s.y
  { x, y, width := min r.right s.right - x, height := min r.bottom s.bottom - y }

/-- The space inside a border, for the layout of the grid. -/
def inside (r : Rect) : Rect :=
  make (min (r.x + 1) maxCoordinate) (min (r.y + 1) maxCoordinate) (r.width - 2) (r.height - 2)

/-- The space inside a border that is drawn. A border without room stays at its corner. -/
def insideBorder (r : Rect) : Rect :=
  { x := min (r.x + 1) r.right, y := min (r.y + 1) r.bottom,
    width := r.width - 2, height := r.height - 2 }

/-- A rectangle of the given size in the middle of another, shrunk to fit. An odd free cell goes
before it. -/
def centered (width height : Nat) (r : Rect) : Rect :=
  let w := min width r.width
  let h := min height r.height
  { x := r.x + (r.width - w + 1) / 2, y := r.y + (r.height - h + 1) / 2, width := w, height := h }

end Rect

end PropertySheet
