import PropertySheet.Text.Digit
import PropertySheet.Yaml.Cursor

/-!
# Scalars of a YAML text

Each function reads one scalar from the cursor on. Between the words of a plain or quoted scalar a
single line break counts as a space, and of several line breaks the first does not count. A block
scalar keeps its line breaks after `|`; after `>` a line break between two lines that start with no
blank counts as a space.

The loops are bounded by the length of the text, since each round reads a character.
-/

namespace PropertySheet.Yaml

/-! ## Gaps between words -/

/-- Blanks and line breaks between two words. -/
structure Gap where
  /-- Blanks before the first line break. -/
  blanks : List Char := []
  /-- Whether there is a line break. -/
  broken : Bool := false
  /-- The first line break. -/
  first : List Char := []
  /-- The line breaks after the first. -/
  more : List Char := []
deriving Repr, Inhabited

namespace Gap

/-- What a gap counts as. -/
def text (g : Gap) : List Char :=
  if !g.broken then g.blanks
  else if g.first.head? = some '\n' then if g.more.isEmpty then [' '] else g.more
  else g.first ++ g.more

/-- Read the rest of a gap. A tab that stands for indentation, before the given column, is refused.
-/
def read (column : Nat) : Nat → Gap → Cursor → Option (Gap × Cursor)
  | 0, _, _ => none
  | fuel + 1, g, c =>
    match c.peek with
    | none => some (g, c)
    | some x =>
      if isBlank x then
        if g.broken && c.column < column && x = '\t' then none
        else
          read column fuel (if g.broken then g else { g with blanks := g.blanks ++ [x] })
            (c.advance 1)
      else if isBreak x then
        let (b, c) := c.readBreak
        read column fuel
          (if g.broken then { g with more := g.more ++ b }
            else { blanks := [], broken := true, first := b }) c
      else some (g, c)

end Gap

/-! ## Plain scalars -/

def isFlowIndicator (c : Char) : Bool :=
  c = ',' || c = '[' || c = ']' || c = '\x7b' || c = '\x7d'

/-- The next characters of a word, or nothing where `:` would have to be a key's in a flow
collection but stands before an indicator. -/
def plainWord (inFlow : Bool) : List Char → Option (List Char)
  | [] => some []
  | x :: rest =>
    if isBlank x || isBreak x then some []
    else if inFlow && x = ':' && rest.head?.any (fun y => isFlowIndicator y || y = '?') then none
    else if (x = ':' && endsWord rest.head?) || (inFlow && isFlowIndicator x) then some []
    else (plainWord inFlow rest).map (x :: ·)

/-- A plain scalar that has been read: its text, whether the lines after it have been read as well,
and the place after it. -/
structure Plain where
  text : List Char
  broken : Bool
  cursor : Cursor

/-- Read a plain scalar. Outside of flow collections its lines start at the given column at least.
-/
def readPlain (inFlow : Bool) (column : Nat) : Nat → List Char → Gap → Cursor → Option Plain
  | 0, _, _, _ => none
  | fuel + 1, text, gap, c =>
    if c.atDocumentMarker || c.atChar '#' then some ⟨text, gap.broken, c⟩
    else do
      let word ← plainWord inFlow c.rest
      let c := c.advance word.length
      let text := if word.isEmpty then text else text ++ gap.text ++ word
      if !(c.atBlank || c.atBreak) then some ⟨text, word.isEmpty && gap.broken, c⟩
      else
        let (gap, c) ← Gap.read column (c.rest.length + 1) {} c
        if !inFlow && c.column < column then some ⟨text, gap.broken, c⟩
        else readPlain inFlow column fuel text gap c

/-! ## Quoted scalars -/

/-- A character by its code, which is not half of a surrogate pair. -/
def char? (code : Nat) : Option Char := if code.isValidChar then some (Char.ofNat code) else none

/-- Escapes of one letter. -/
def escapes : List (Char × Char) := [
  ('0', '\x00'), ('a', '\x07'), ('b', '\x08'), ('t', '\t'), ('\t', '\t'), ('n', '\n'),
  ('v', '\x0b'), ('f', '\x0c'), ('r', '\r'), ('e', '\x1b'), (' ', ' '), ('"', '"'), ('/', '/'),
  ('\\', '\\'), ('N', '\x85'), ('_', '\xa0'), ('L', '\u2028'), ('P', '\u2029')]

/-- Number of hexadecimal digits after an escape letter. -/
def codeLength : Char → Nat
  | 'x' => 2
  | 'u' => 4
  | 'U' => 8
  | _ => 0

/-- The character of an escape, given what follows the backslash, and the number of characters it
takes after the backslash. -/
def readEscape : List Char → Option (Char × Nat)
  | [] => none
  | x :: rest =>
    let n := codeLength x
    if n = 0 then (escapes.lookup x).map fun y => (y, 1)
    else do
      let digits := rest.take n
      if digits.length < n then none
      else return (← char? (← Text.number? 16 digits), n + 1)

/-- Read characters of a quoted scalar up to a blank, a line break or the closing quote. An escaped
line break ends them as well, and is told apart. -/
def readQuotedRun (quote : Char) : Nat → List Char → Cursor → Option (List Char × Bool × Cursor)
  | 0, _, _ => none
  | fuel + 1, text, c =>
    match c.rest with
    | [] => some (text, false, c)
    | x :: rest =>
      if isBlank x || isBreak x then some (text, false, c)
      else if x = quote then
        if quote = '\'' && rest.head? = some '\'' then
          readQuotedRun quote fuel (text ++ [x]) (c.advance 2)
        else some (text, false, c)
      else if quote = '"' && x = '\\' then
        if rest.head?.any isBreak then some (text, true, (c.advance 1).skipBreak)
        else do
          let (y, n) ← readEscape rest
          readQuotedRun quote fuel (text ++ [y]) (c.advance (n + 1))
      else readQuotedRun quote fuel (text ++ [x]) (c.advance 1)

/-- Read a quoted scalar from behind its opening quote. -/
def readQuoted (quote : Char) : Nat → List Char → Cursor → Option (List Char × Cursor)
  | 0, _, _ => none
  | fuel + 1, text, c =>
    if c.atDocumentMarker || c.atEnd then none
    else do
      let (text, escaped, c) ← readQuotedRun quote (c.rest.length + 1) text c
      if c.atChar quote then some (text, c.advance 1)
      else
        let (gap, c) ← Gap.read 0 (c.rest.length + 1) { broken := escaped } c
        readQuoted quote fuel (text ++ gap.text) c

/-! ## Block scalars -/

/-- Which line breaks at the end of a block scalar count. -/
inductive Chomping where
  | strip
  | clip
  | keep
deriving DecidableEq, Repr, Inhabited

/-- The header of a block scalar: chomping and the number of columns of its indentation, 0 if the
text determines it. -/
structure BlockHeader where
  chomping : Chomping := .clip
  columns : Nat := 0
deriving Repr, Inhabited

def readChomping (c : Cursor) : Option (Chomping × Cursor) :=
  match c.peek with
  | some '+' => some (.keep, c.advance 1)
  | some '-' => some (.strip, c.advance 1)
  | _ => none

/-- An indentation indicator, which is not 0. -/
def readColumns (c : Cursor) : Option (Nat × Cursor) :=
  match c.peek with
  | some x =>
    if x.isDigit then if x = '0' then none else some (x.toNat - '0'.toNat, c.advance 1)
    else some (0, c)
  | none => some (0, c)

/-- Read the header behind `|` or `>`, to the start of the next line. -/
def readBlockHeader (c : Cursor) : Option (BlockHeader × Cursor) := do
  let (header, c) ← match readChomping c with
    | some (chomping, c) => do
      let (columns, c) ← readColumns c
      pure (({ chomping, columns } : BlockHeader), c)
    | none => do
      let (columns, c) ← readColumns c
      if columns = 0 then pure (({} : BlockHeader), c)
      else
        match readChomping c with
        | some (chomping, c) => pure ({ chomping, columns }, c)
        | none => pure ({ columns }, c)
  let c := c.skipWhile isBlank
  let c := if c.atChar '#' then c.skipToBreak else c
  if c.atEnd || c.atBreak then return (header, c.skipBreak) else none

/-- Read empty lines and the indentation of the next line. While the indentation is 0 it is still to
be found: it is that of the widest line, and at least `least`. A tab in it is refused. The result is
the indentation, the line breaks and the place after them. -/
def readIndentation (least : Nat) : Nat → Nat → Nat → List Char → Cursor →
    Option (Nat × List Char × Cursor)
  | 0, _, _, _, _ => none
  | fuel + 1, columns, widest, breaks, c =>
    let c := if columns = 0 then c.skipWhile (· = ' ') else c.skipSpacesTo columns
    let widest := max widest c.column
    if (columns = 0 || c.column < columns) && c.atChar '\t' then none
    else if c.atBreak then
      let (b, c) := c.readBreak
      readIndentation least fuel columns widest (breaks ++ b) c
    else some (if columns = 0 then max (max widest least) 1 else columns, breaks, c)

/-- A block scalar as far as it has been read. -/
structure BlockText where
  text : List Char := []
  /-- The line break of the last line that is not empty. -/
  first : List Char := []
  /-- The line breaks after it. -/
  more : List Char := []
  /-- Whether the last line that is not empty starts with a blank. -/
  blank : Bool := false
deriving Repr, Inhabited

/-- The line breaks before a line, as they count. -/
def BlockText.gap (b : BlockText) (folded blank : Bool) : List Char :=
  if folded && b.first.head? = some '\n' && !b.blank && !blank then
    if b.more.isEmpty then [' '] else b.more
  else b.first ++ b.more

/-- Read the lines of a block scalar. -/
def readBlockLines (folded : Bool) (columns : Nat) : Nat → BlockText → Cursor →
    Option (BlockText × Cursor)
  | 0, _, _ => none
  | fuel + 1, b, c =>
    if c.column ≠ columns || c.atEnd then some (b, c)
    else do
      let (line, d) := c.span fun x => !isBreak x
      let (first, d) := d.readBreak
      let (_, more, d) ← readIndentation 0 (d.rest.length + 1) columns 0 [] d
      readBlockLines folded columns fuel
        { text := b.text ++ b.gap folded c.atBlank ++ line, first, more, blank := c.atBlank } d

/-- The text of a block scalar after chomping. -/
def BlockText.chomp (b : BlockText) : Chomping → List Char
  | .strip => b.text
  | .clip => b.text ++ b.first
  | .keep => b.text ++ b.first ++ b.more

/-- Read a block scalar from behind `|` or `>`, inside blocks of the given indentations, the
innermost first. -/
def readBlock (folded : Bool) (indents : List Nat) (c : Cursor) : Option (List Char × Cursor) := do
  let (header, c) ← readBlockHeader c
  let columns := if header.columns = 0 then 0 else indents.headD 0 + header.columns
  let least := match indents with
    | [] => 0
    | i :: _ => i + 1
  let (columns, more, c) ← readIndentation least (c.rest.length + 1) columns 0 [] c
  let (b, c) ← readBlockLines folded columns (c.rest.length + 1) { more } c
  return (b.chomp header.chomping, c)

end PropertySheet.Yaml
