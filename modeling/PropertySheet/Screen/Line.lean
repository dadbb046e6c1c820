import PropertySheet.Screen.Grid
import PropertySheet.Text.Blank

/-!
# Styled lines and frames

A line is a list of spans, each a text in a style. Drawn into a rectangle it takes the first line of
it and never leaves it. A frame is a border of single lines with a title in its top edge.
-/

namespace PropertySheet

/-- A text in a style. -/
structure Span where
  text : String
  style : Style := {}
deriving DecidableEq, Repr, Inhabited

namespace Span

def width (s : Span) : Nat := Text.textWidth s.text

/-- Clusters of the span that are drawn: all but line feeds. A control character takes a column. -/
def clusters (s : Span) : List (List Char) :=
  (Text.clusters s.text.toList).filter (· ≠ ['\n'])

end Span

namespace Screen

/-! ## Spans -/

/-- Draw clusters into a rectangle from a column on. A cluster without a column joins the cell
before it; at the start of the rectangle it joins the first cell, unless it is the very first. -/
def drawClusters (s : Screen) (area : Rect) (x : Nat) (first : Bool) (style : Style) :
    List (List Char) → Screen
  | [] => s
  | g :: rest =>
    let w := Text.charsWidth g
    if area.right < x + w then s
    else
      let s :=
        if first then s.draw x area.y g style
        else if x = area.x then s.modify x area.y (·.append g style)
        else if w = 0 then s.modify (x - 1) area.y (·.append g style)
        else s.draw x area.y g style
      drawClusters (s.modifyRun (x + 1) area.y (w - 1) fun _ => {}) area (x + w) false style rest

/-- Draw spans one after the other into a rectangle, as far as they fit. -/
def drawSpans (s : Screen) (area : Rect) : List Span → Screen
  | [] => s
  | span :: rest =>
    if span.width = 0 then drawSpans s area rest
    else if area.isEmpty then s
    else
      let drawn := s.drawClusters area area.x true span.style span.clusters
      drawSpans drawn { area with x := area.x + span.width, width := area.width - span.width } rest

/-- Draw a line into a rectangle. -/
def drawLine (s : Screen) (area : Rect) (spans : List Span) : Screen :=
  let area := area.inter s.area
  if area.isEmpty then s else s.drawSpans { area with height := 1 } spans

/-! ## Frames -/

/-- The border of a rectangle. Where edges meet the corner at the left or the top wins. -/
def drawBorder (s : Screen) (r : Rect) (style : Style) : Screen :=
  let column := fun (s : Screen) x (c : Char) =>
    (List.range r.height).foldl (fun s i => s.draw x (r.y + i) [c] style) s
  let line := fun (s : Screen) y (c : Char) =>
    (List.range r.width).foldl (fun s i => s.draw (r.x + i) y [c] style) s
  let s := column s r.x '│'
  let s := line s r.y '─'
  let s := column s (r.right - 1) '│'
  let s := line s (r.bottom - 1) '─'
  let s := s.draw (r.right - 1) (r.bottom - 1) ['┘'] style
  let s := s.draw (r.right - 1) r.y ['┐'] style
  let s := s.draw r.x (r.bottom - 1) ['└'] style
  s.draw r.x r.y ['┌'] style

/-- The spans of a title. Line ends in it are dropped. -/
def titleSpans (title : String) : List Span := (Text.lines title).map fun l => { text := l }

/-- A border with a title between its top corners, as far as it fits. -/
def drawFrame (s : Screen) (area : Rect) (title : String) (style : Style) : Screen :=
  let r := area.inter s.area
  if r.isEmpty then s
  else
    let s := s.drawBorder r style
    let spans := titleSpans title
    let width := min (spans.foldl (· + ·.width) 0) (r.width - 2)
    s.drawLine { x := r.x + 1, y := r.y, width, height := 1 } spans

end Screen

end PropertySheet
