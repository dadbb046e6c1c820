import PropertySheet.Rect

/-!
# The floating surface

An editor is drawn in a box near its cell, one line above it. The user may drag the box and make it
higher; it is cut to the bounds and pushed back into them.
-/

namespace PropertySheet

structure Surface where
  /-- The cell that is edited. -/
  anchor : Rect
  dx : Int := 0
  dy : Int := 0
  extraHeight : Nat := 0
deriving DecidableEq, Repr, Inhabited

namespace Surface

def minWidth : Nat := 30

def maxExtraHeight : Nat := 20

/-- A number moved into an interval. -/
def clamp (n low high : Int) : Int := max low (min n high)

/-- The box for a body of a number of lines, within bounds. -/
def area (s : Surface) (bounds : Rect) (bodyHeight : Nat) : Rect :=
  let width := min (max s.anchor.width minWidth) bounds.width
  let height := min (bodyHeight + s.extraHeight + 2) bounds.height
  let maxX : Int := max (bounds.right - width : Nat) bounds.x
  let maxY : Int := max (bounds.bottom - height : Nat) bounds.y
  .make (clamp (s.anchor.x + s.dx) bounds.x maxX).toNat
    (clamp (s.anchor.y - 1 + s.dy) bounds.y maxY).toNat width height

/-- A step is added to the distance, which has no bounds here. The steps of fewer than `2 ^ 30` keys
add up to a number of 32 bits with a sign. -/
def moveBy (s : Surface) (dx dy : Int) : Surface := { s with dx := s.dx + dx, dy := s.dy + dy }

def resizeBy (s : Surface) (dh : Int) : Surface :=
  { s with extraHeight := (clamp (s.extraHeight + dh) 0 maxExtraHeight).toNat }

end Surface

end PropertySheet
