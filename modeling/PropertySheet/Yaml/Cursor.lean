/-!
# A place in a YAML text

A cursor is the text that is still to be read, with the number of characters before it and its line
and column. Blanks are spaces and tabs. Five characters break a line; a carriage return and the line
feed after it break it once.
-/

namespace PropertySheet.Yaml

def isBlank (c : Char) : Bool := c = ' ' || c = '\t'

def isBreak (c : Char) : Bool :=
  c = '\n' || c = '\r' || c = '\x85' || c = '\u2028' || c = '\u2029'

/-- Letters, digits, `-` and `_` of ASCII, of which the names of anchors and directives consist. -/
def isNameChar (c : Char) : Bool := c.isAlphanum || c = '-' || c = '_'

/-- Characters that may stand in a text at all. -/
def isAllowed (c : Char) : Bool :=
  c = '\t' || c = '\n' || c = '\r' || (' ' ≤ c && c ≤ '~') || c = '\x85' ||
    ('\xa0' ≤ c && c ≤ '\ufffd') || 0x10000 ≤ c.toNat

/-- Whether a character, if there is one, ends a word: a blank, a line break or the end. -/
def endsWord : Option Char → Bool
  | none => true
  | some c => isBlank c || isBreak c

structure Cursor where
  rest : List Char
  index : Nat := 0
  line : Nat := 0
  column : Nat := 0
deriving Repr, Inhabited

namespace Cursor

def peek (c : Cursor) : Option Char := c.rest.head?

/-- The character a number of places further on. -/
def peekAt (c : Cursor) (k : Nat) : Option Char := c.rest[k]?

def atEnd (c : Cursor) : Bool := c.rest.isEmpty

def atChar (c : Cursor) (x : Char) : Bool := c.peek = some x

def atBlank (c : Cursor) : Bool := c.peek.any isBlank

def atBreak (c : Cursor) : Bool := c.peek.any isBreak

/-- Whether a word ends here. -/
def atWordEnd (c : Cursor) : Bool := endsWord c.peek

/-- Whether a word ends after one more character. -/
def wordEndsNext (c : Cursor) : Bool := endsWord (c.peekAt 1)

/-- Move on by a number of characters of the line. -/
def advance (c : Cursor) (n : Nat) : Cursor :=
  { c with rest := c.rest.drop n, index := c.index + n, column := c.column + n }

/-- The characters from here on that satisfy a condition, and the place after them. They must not
break a line. -/
def span (c : Cursor) (p : Char → Bool) : List Char × Cursor :=
  let run := c.rest.takeWhile p
  (run, c.advance run.length)

def skipWhile (c : Cursor) (p : Char → Bool) : Cursor := (c.span p).2

/-- Skip spaces, but not beyond a column. -/
def skipSpacesTo (c : Cursor) (column : Nat) : Cursor :=
  c.advance (min (column - c.column) (c.rest.takeWhile (· = ' ')).length)

/-- Move to the end of the line. -/
def skipToBreak (c : Cursor) : Cursor := c.skipWhile fun x => !isBreak x

/-- The line break that stands here, as it counts in a scalar, and the place after it. Nothing
stands for a line break that is not there. -/
def readBreak (c : Cursor) : List Char × Cursor :=
  let next := fun n rest => ({ rest, index := c.index + n, line := c.line + 1 } : Cursor)
  match c.rest with
  | '\r' :: '\n' :: rest => (['\n'], next 2 rest)
  | x :: rest =>
    if x = '\u2028' ∨ x = '\u2029' then ([x], next 1 rest)
    else if isBreak x then (['\n'], next 1 rest)
    else ([], c)
  | [] => ([], c)

def skipBreak (c : Cursor) : Cursor := c.readBreak.2

/-- Whether a line starts here with three characters that form a word. -/
def atMarker (c : Cursor) (x : Char) : Bool :=
  c.column = 0 && c.rest.take 3 = [x, x, x] && endsWord (c.peekAt 3)

/-- Whether a line starts here that begins or ends a document. -/
def atDocumentMarker (c : Cursor) : Bool := c.atMarker '-' || c.atMarker '.'

end Cursor

end PropertySheet.Yaml
