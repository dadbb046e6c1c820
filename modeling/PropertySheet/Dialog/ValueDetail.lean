import PropertySheet.Descriptor
import PropertySheet.Expression
import PropertySheet.Row
import PropertySheet.Screen.Paragraph
import PropertySheet.Text.Ellipsis

/-!
# The full value of a property

A sheet that cannot be edited shows a value in full: the allowable values with the current one
marked, or the text with its expressions highlighted. An unset value and a secret have no detail.
-/

namespace PropertySheet

inductive DetailContent where
  /-- The allowable values, and whether each is the current one. -/
  | options (entries : List (String × Bool))
  | text (text : String) (hasExpressions : Bool)
deriving DecidableEq, Repr, Inhabited

structure ValueDetail where
  title : String
  content : DetailContent
deriving DecidableEq, Repr, Inhabited

namespace ValueDetail

/-- The detail of a row, if its value may be shown. -/
def ofRow? (r : Row) (d : Option Descriptor) : Option ValueDetail :=
  match r.value with
  | none => none
  | some value =>
    if d.any (·.sensitive) then none
    else
      let content := match d.bind (·.allowableValues) with
        | some choices => .options (choices.map fun a => (a.displayName, a.value = value))
        | none => .text value (d.all (·.supportsExpressions))
      some { title := r.displayName, content }

/-- The style of a segment of a text. -/
def segmentStyle (s : Segment) : Style := .of (if s.isExpression then .cyan else .white)

/-- A line of text as spans. -/
def textLine (hasExpressions : Bool) (line : String) : List Span :=
  if hasExpressions then
    (Segment.ofText line).map fun s => { text := s.text, style := segmentStyle s }
  else [{ text := line, style := .of .white }]

/-- The lines of a detail within a number of columns. -/
def lines (d : ValueDetail) (columns : Nat) : List (List Span) :=
  match d.content with
  | .options entries => entries.map fun e =>
    [{ text := Text.ellipsis ((if e.2 then "> " else "  ") ++ e.1) columns,
       style := if e.2 then .boldOf .yellow else .of .darkGray }]
  | .text text hasExpressions => (Text.splitLines text).map (textLine hasExpressions)

def draw (d : ValueDetail) (area : Rect) (s : Screen) : Screen :=
  let s := (s.clear area).drawFrame area (" " ++ d.title ++ " ") (.of .cyan)
  let inner := area.insideBorder
  let s := s.drawParagraph (.make inner.x inner.y inner.width (inner.height - 1))
    (d.lines inner.width) {} (.wrap false) 0
  s.write inner.x (inner.bottom - 1) "Enter/Esc: Close" (.of .darkGray)

end ValueDetail

end PropertySheet
