import PropertySheet.Screen.Paragraph

/-!
# Notices

A message over the sheet that the next key removes.
-/

namespace PropertySheet

inductive Severity where
  | info
  | error
deriving DecidableEq, Repr, Inhabited

structure Notice where
  title : String
  message : String
  severity : Severity
deriving DecidableEq, Repr, Inhabited

namespace Notice

def genericError : String := "Unable to complete the request"

def info (title message : String) : Notice := { title, message, severity := .info }

/-- The notice of a failure. -/
def failure (detail : String) : Notice :=
  { title := "Error", message := genericError ++ ". " ++ detail, severity := .error }

def color (n : Notice) : Color :=
  match n.severity with
  | .error => .red
  | .info => .cyan

def draw (n : Notice) (bounds : Rect) (s : Screen) : Screen :=
  let area := bounds.centered 54 7
  let s := (s.clear area).drawFrame area (" " ++ n.title ++ " ") (.of n.color)
  let inner := area.insideBorder
  let s := s.drawParagraph (.make inner.x inner.y inner.width (inner.height - 1))
    (plainLines n.message) (.of .white) (.wrap true) 0
  s.write inner.x (inner.bottom - 1) "Press any key" (.of .darkGray)

end Notice

end PropertySheet
