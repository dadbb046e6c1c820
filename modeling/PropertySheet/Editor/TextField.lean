import PropertySheet.Descriptor
import PropertySheet.Key

/-!
# The text field

A text with a cursor between its characters, for plain values and for values with expressions.
Beside the text there is a box to ask for an explicitly empty value, and a secret is stood in for by
a placeholder that the first edit drops.

`resolve` says which value the field stands for when it is committed.
-/

namespace PropertySheet

/-- What a key asks of whoever shows the editor. -/
inductive EditorInput where
  | none
  | changed
  | commit
  | cancel
  /-- The entry that creates a service was chosen. -/
  | createService (serviceType : String)
deriving DecidableEq, Repr, Inhabited

/-- Shown instead of a secret; never a value. -/
def sensitivePlaceholder : String := "Sensitive value set"

structure TextField where
  chars : List Char
  /-- Characters before the cursor. -/
  cursor : Nat
  initial : List Char
  initialEmptyRequested : Bool
  initialPlaceholder : Bool
  /-- An empty text is meant as an empty value. -/
  emptyRequested : Bool
  /-- No edit has touched the secret yet. -/
  placeholder : Bool
deriving DecidableEq, Repr, Inhabited

namespace TextField

def text (f : TextField) : String := String.ofList f.chars

/-- A field with the cursor behind its content. -/
def withContent (chars : List Char) (emptyRequested placeholder : Bool) : TextField :=
  { chars, cursor := chars.length, initial := chars, initialEmptyRequested := emptyRequested,
    initialPlaceholder := placeholder, emptyRequested, placeholder }

/-- A field on a value. A secret that is set shows the placeholder; an empty value that is no secret
has its box checked. -/
def load (value : Option String) (sensitive : Bool) : TextField :=
  match value with
  | none => withContent [] false sensitive
  | some v =>
    if sensitive then withContent sensitivePlaceholder.toList false true
    else withContent v.toList v.isEmpty false

/-- Put the initial content back. -/
def reset (f : TextField) : TextField :=
  { f with
    chars := f.initial
    cursor := f.initial.length
    emptyRequested := f.initialEmptyRequested
    placeholder := f.initialPlaceholder }

/-- The value that the field stands for, given the value before the edit. A required property falls
back to its default and then to that value; an untouched secret keeps it. -/
def resolve (f : TextField) (d : Option Descriptor) (previous : Option String) : Option String :=
  if f.chars.isEmpty then
    if f.emptyRequested then some ""
    else match d with
      | some d => if d.required then d.visibleDefault?.orElse fun _ => previous else none
      | none => none
  else if f.placeholder then previous
  else some f.text

/-! ## Editing -/

/-- The first edit of a secret drops the placeholder. -/
def beginEdit (f : TextField) : TextField :=
  if f.placeholder then
    if f.chars = sensitivePlaceholder.toList then
      { f with chars := [], cursor := 0, placeholder := false }
    else { f with placeholder := false }
  else f

/-- Put characters at the cursor and step behind them. -/
def insert (f : TextField) (cs : List Char) : TextField :=
  let f := f.beginEdit
  { f with
    chars := f.chars.take f.cursor ++ cs ++ f.chars.drop f.cursor
    cursor := f.cursor + cs.length }

/-- Remove the character before the cursor. -/
def backspace (f : TextField) : TextField :=
  let f := f.beginEdit
  if f.cursor = 0 then f
  else { f with chars := f.chars.eraseIdx (f.cursor - 1), cursor := f.cursor - 1 }

/-- Remove the character behind the cursor. -/
def delete (f : TextField) : TextField :=
  let f := f.beginEdit
  { f with chars := f.chars.eraseIdx f.cursor }

def clear (f : TextField) : TextField := { f.beginEdit with chars := [], cursor := 0 }

def moveLeft (f : TextField) : TextField := { f with cursor := f.cursor - 1 }

def moveRight (f : TextField) : TextField := { f with cursor := min (f.cursor + 1) f.chars.length }

def moveHome (f : TextField) : TextField := { f with cursor := 0 }

def moveEnd (f : TextField) : TextField := { f with cursor := f.chars.length }

def toggleEmpty (f : TextField) : TextField := { f with emptyRequested := !f.emptyRequested }

/-- The field after a key, and what the key asks for. -/
def handleKey (f : TextField) (k : Key) : TextField × EditorInput :=
  match k.code with
  | .esc => (f, .cancel)
  | .enter => if k.shift || k.alt then (f.insert ['\n'], .changed) else (f, .commit)
  | .char c =>
    if k.control then
      if c = 'e' then (f.toggleEmpty, .changed)
      else if c = 'u' then (f.clear, .changed)
      else (f, .none)
    else (f.insert [c], .changed)
  | .tab => (f.insert ['\t'], .changed)
  | .backspace => (f.backspace, .changed)
  | .delete => (f.delete, .changed)
  | .left => (f.moveLeft, .changed)
  | .right => (f.moveRight, .changed)
  | .home => (f.moveHome, .changed)
  | .endOfLine => (f.moveEnd, .changed)
  | _ => (f, .none)

end TextField

end PropertySheet
