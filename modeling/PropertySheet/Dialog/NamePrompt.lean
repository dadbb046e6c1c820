import PropertySheet.Editor.TextField
import PropertySheet.Screen.Line

/-!
# The name prompt

A dialog of one line that asks for the name of a property to add. Confirming hands over the text as
it stands; whether the name will do is decided by the sheet.
-/

namespace PropertySheet

/-- What a key asks of whoever shows the prompt. -/
inductive PromptAction where
  | none
  | changed
  | confirm (name : String)
  | cancel
deriving DecidableEq, Repr, Inhabited

structure NamePrompt where
  field : TextField
deriving DecidableEq, Repr, Inhabited

namespace NamePrompt

/-- A prompt without text. -/
def empty : NamePrompt := { field := .load none false }

def name (p : NamePrompt) : String := p.field.text

/-- The prompt after a key. It takes no tabs, and Enter confirms with any modifier. -/
def handleKey (p : NamePrompt) (k : Key) : NamePrompt × PromptAction :=
  match k.code with
  | .esc => (p, .cancel)
  | .enter => (p, .confirm p.name)
  | .tab => (p, .none)
  | _ =>
    let (field, input) := p.field.handleKey k
    ({ field }, if input = .changed then .changed else .none)

/-- The text with a mark at the cursor. -/
def marked (p : NamePrompt) : String :=
  String.ofList (p.field.chars.take p.field.cursor ++ '│' :: p.field.chars.drop p.field.cursor)

def draw (p : NamePrompt) (area : Rect) (s : Screen) : Screen :=
  let s := (s.clear area).drawFrame area " Add Property " (.of .cyan)
  let inner := area.insideBorder
  if inner.height < 2 then s
  else
    let s := s.write (inner.x + 1) inner.y ("Property Name: " ++ p.marked) (.of .green)
    s.write (inner.x + 1) (inner.bottom - 1) "Enter: Add | Esc: Cancel" (.of .darkGray)

end NamePrompt

end PropertySheet
