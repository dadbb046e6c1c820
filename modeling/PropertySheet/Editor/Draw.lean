import PropertySheet.Editor.CellEditor
import PropertySheet.Expression
import PropertySheet.Screen.Paragraph
import PropertySheet.Text.Ellipsis

/-!
# Drawing the cell editor

The editor is a framed box named after its property. The last line tells the keys; the line above it
holds the box for an empty value, or what is known of the highlighted choice. A body of less than
three lines shows nothing but its frame.
-/

namespace PropertySheet

namespace TextField

/-- The characters of the field, each a span of its own, with expressions in a style of their own
where they are supported. -/
def charSpans (f : TextField) (expressions : Bool) : List Span :=
  let segments := if expressions then Segment.ofChars f.chars else [⟨f.chars, false⟩]
  segments.flatMap fun s =>
    let style : Style := if s.isExpression then .boldOf .cyan else .of .green
    s.chars.map fun c => { text := c.toString, style }

/-- The mark of the cursor. -/
def cursorSpan : Span := { text := "│", style := .of .white }

/-- The spans with the cursor between them. -/
def markedSpans (f : TextField) (expressions : Bool) : List Span :=
  let spans := f.charSpans expressions
  spans.take f.cursor ++ cursorSpan :: spans.drop f.cursor

/-- Spans cut into lines at each span that is a line feed. -/
def breakLines : List Span → List (List Span)
  | [] => [[]]
  | s :: rest =>
    match breakLines rest with
    | [] => [[s]]
    | line :: more => if s.text = "\n" then [] :: line :: more else (s :: line) :: more

/-- Place of the line that holds the cursor. -/
def cursorLine (f : TextField) : Nat := (f.chars.take f.cursor).count '\n'

/-- What the last line of the box tells. -/
def help (expressions : Bool) : String :=
  if expressions then "Enter: Ok | Shift+Enter: New line | Esc: Cancel"
  else "Enter: Ok | Esc: Cancel | Alt+Arrows: Move"

/-- Draw a field. The text is scrolled just so far that the line of the cursor is in view. -/
def draw (f : TextField) (expressions : Bool) (area : Rect) (s : Screen) : Screen :=
  let height := area.height - 2
  let s := s.drawParagraph { area with height } (breakLines (f.markedSpans expressions))
    (if f.placeholder then .italicOf .darkGray else {}) .cut
    (asCoordinate (f.cursorLine - (height - 1)))
  let box := if f.emptyRequested then "[x]" else "[ ]"
  let s := s.write area.x (area.bottom - 2) (box ++ " Set empty string (Ctrl+E)") (.of .white)
  (s.writeAtMost area.x (area.bottom - 1) area.width (help expressions) (.of .darkGray)).1

end TextField

namespace ChoiceList

/-- The style of an entry. -/
def entryStyle (e : ChoiceEntry) (highlighted : Bool) : Style :=
  if highlighted then .boldOf .yellow
  else { color := some (if e.disabled then .darkGray else .white), italic := e.unset }

/-- Draw the list, scrolled just so far that the highlighted entry is in view. -/
def draw (l : ChoiceList) (area : Rect) (s : Screen) : Screen :=
  let height := area.height - 3
  let first := l.highlighted - (height - 1)
  let s := ((l.entries.drop first).take height).zipIdx.foldl (fun s e =>
    let place := first + e.2
    let marker := if place = l.selected then "● " else "  "
    s.write area.x (area.y + e.2) (Text.ellipsis (marker ++ e.1.text) area.width)
      (entryStyle e.1 (place = l.highlighted))) s
  let description := (l.entries[l.highlighted]?.bind (·.description)).getD ""
  let s := (s.writeAtMost area.x (area.bottom - 2) area.width
    (Text.ellipsis description area.width) (.of .gray)).1
  (s.writeAtMost area.x (area.bottom - 1) area.width "↑/↓: Choose | Enter: Ok | Esc: Cancel"
    (.of .darkGray)).1

end ChoiceList

/-- Draw the content of an editor. -/
def EditorBody.draw (b : EditorBody) (area : Rect) (s : Screen) : Screen :=
  match b with
  | .plain f => f.draw false area s
  | .expression f => f.draw true area s
  | .choice l => l.draw area s

/-- Draw an editor within bounds. -/
def CellEditor.draw (e : CellEditor) (bounds : Rect) (s : Screen) : Screen :=
  let area := e.surface.area bounds e.body.height
  let s := (s.clear area).drawFrame area (" " ++ e.displayName ++ " ") (.of .cyan)
  let inner := area.insideBorder
  if inner.height < 3 then s else e.body.draw inner s

end PropertySheet
