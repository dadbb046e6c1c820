import PropertySheet.Yaml.Tag

/-!
# From a text to tokens

`Token.ofText?` cuts a text into tokens. Indentation is made explicit on the way: a line that starts
further to the right opens a block, and one further to the left closes it.

That a node is the key of a mapping is only known at the `:` behind it. Tokens are therefore kept in
slots: the slot at which a key may start is remembered as a candidate, and the tokens that announce
the key are put in front of it when the `:` comes. A candidate lasts to the end of its line and for
1024 characters, and there is one for each open collection.
-/

namespace PropertySheet.Yaml

/-- A token, and what turned out to stand before it. -/
structure Slot where
  before : List Token := []
  token : Token
deriving Repr, Inhabited

/-- A slot at which a key may start. -/
structure Candidate where
  slot : Nat
  /-- Nothing but a key may start here. -/
  required : Bool
  index : Nat
  line : Nat
  column : Nat
deriving Repr, Inhabited

structure Scanner where
  cursor : Cursor
  slots : Array Slot := #[]
  /-- Columns of the open blocks, the innermost first. -/
  indents : List Nat := []
  /-- The candidate in the innermost collection. -/
  candidate : Option Candidate := none
  /-- The candidates around each open flow collection, the innermost first. -/
  outer : List (Option Candidate) := []
  /-- Whether a key may start here. -/
  keyAllowed : Bool := true
deriving Repr, Inhabited

namespace Scanner

def inFlow (s : Scanner) : Bool := !s.outer.isEmpty

/-- The column at which a line has to start to lie inside the innermost block. -/
def minColumn (s : Scanner) : Nat :=
  match s.indents with
  | [] => 0
  | i :: _ => i + 1

/-- Append a token. -/
def emit (s : Scanner) (t : Token) : Scanner := { s with slots := s.slots.push { token := t } }

/-! ## Blocks -/

/-- Close the blocks of a stack that lie right of a bound. -/
def closeBlocks (slots : Array Slot) (inside : Nat → Bool) : List Nat → Array Slot × List Nat
  | [] => (slots, [])
  | i :: rest =>
    if inside i then closeBlocks (slots.push { token := .blockEnd }) inside rest
    else (slots, i :: rest)

/-- Close the blocks that a line at a column no longer belongs to. -/
def unindent (s : Scanner) (column : Nat) : Scanner :=
  if s.inFlow then s
  else
    let (slots, indents) := closeBlocks s.slots (fun i => column < i) s.indents
    { s with slots, indents }

/-- Close every block. -/
def closeAll (s : Scanner) : Scanner :=
  if s.inFlow then s
  else
    let (slots, indents) := closeBlocks s.slots (fun _ => true) s.indents
    { s with slots, indents }

/-- Open a block at the cursor unless one is open at its column. -/
def indent (s : Scanner) (start : Token) : Scanner :=
  let column := s.cursor.column
  if s.inFlow || column < s.minColumn then s
  else { s with indents := column :: s.indents }.emit start

/-! ## Candidates -/

def isStale (c : Cursor) (k : Candidate) : Bool := k.line < c.line || k.index + 1024 < c.index

/-- A candidate that is still one, given up if it is stale. To give up a required one is an error.
-/
def refresh (c : Cursor) : Option Candidate → Option (Option Candidate)
  | none => some none
  | some k => if isStale c k then if k.required then none else some none else some (some k)

/-- Give up the candidates that are stale. -/
def dropStale (s : Scanner) : Option Scanner := do
  return { s with
    candidate := ← refresh s.cursor s.candidate
    outer := ← s.outer.mapM (refresh s.cursor) }

/-- Give up the candidate. -/
def dropCandidate (s : Scanner) : Option Scanner :=
  if s.candidate.any (·.required) then none else some { s with candidate := none }

/-- Note that a key may start with the next token. -/
def saveCandidate (s : Scanner) : Option Scanner :=
  if !s.keyAllowed then some s
  else do
    let s ← s.dropCandidate
    let c := s.cursor
    return { s with candidate := some {
      slot := s.slots.size
      required := !s.inFlow && s.indents.head? = some c.column
      index := c.index, line := c.line, column := c.column } }

/-- Announce a key in front of its slot, and the mapping that it opens. -/
def announceKey (s : Scanner) (k : Candidate) : Scanner :=
  let opens := !s.inFlow && s.minColumn ≤ k.column
  let before := if opens then [.blockMappingStart, .key] else [.key]
  { s with
    slots := s.slots.modify k.slot fun slot => { slot with before := before ++ slot.before }
    indents := if opens then k.column :: s.indents else s.indents
    candidate := none
    keyAllowed := false }

/-! ## Tokens -/

/-- Skip blanks, comments and line breaks. A tab is a blank only where no block can start. In block
context a key may start on every new line. -/
def skipToToken : Nat → Scanner → Scanner
  | 0, s => s
  | fuel + 1, s =>
    let c := s.cursor
    let c := if c.index = 0 && c.atChar '\ufeff' then c.advance 1 else c
    let tabs := s.inFlow || !s.keyAllowed
    let c := c.skipWhile fun x => x = ' ' || (tabs && x = '\t')
    let c := if c.atChar '#' then c.skipToBreak else c
    if c.atBreak then
      skipToToken fuel { s with cursor := c.skipBreak, keyAllowed := s.keyAllowed || !s.inFlow }
    else { s with cursor := c }

/-- Append a token of a number of characters. -/
def take (s : Scanner) (n : Nat) (t : Token) : Scanner :=
  { s with cursor := s.cursor.advance n }.emit t

/-- The start or end of a document. -/
def documentMarker (s : Scanner) (t : Token) : Option Scanner := do
  let s ← s.closeAll.dropCandidate
  return { s with keyAllowed := false }.take 3 t

def directive (s : Scanner) : Option Scanner := do
  let s ← s.closeAll.dropCandidate
  let (t, c) ← readDirective (s.cursor.advance 1)
  return { s with keyAllowed := false, cursor := c }.emit t

/-- The start of a flow collection, which may be a key itself. -/
def flowStart (s : Scanner) (t : Token) : Option Scanner := do
  let s ← s.saveCandidate
  return { s with outer := s.candidate :: s.outer, candidate := none, keyAllowed := true }.take 1 t

def flowEnd (s : Scanner) (t : Token) : Option Scanner := do
  let s ← s.dropCandidate
  let s := match s.outer with
    | [] => s
    | k :: outer => { s with candidate := k, outer }
  return { s with keyAllowed := false }.take 1 t

def flowEntry (s : Scanner) : Option Scanner := do
  let s ← s.dropCandidate
  return { s with keyAllowed := true }.take 1 .flowEntry

def blockEntry (s : Scanner) : Option Scanner :=
  if !s.inFlow && !s.keyAllowed then none
  else do
    let s ← (s.indent .blockSequenceStart).dropCandidate
    return { s with keyAllowed := true }.take 1 .blockEntry

/-- A key announced by `?`. -/
def complexKey (s : Scanner) : Option Scanner :=
  if !s.inFlow && !s.keyAllowed then none
  else do
    let s ← (s.indent .blockMappingStart).dropCandidate
    return { s with keyAllowed := !s.inFlow }.take 1 .key

/-- The `:` behind a key. -/
def value (s : Scanner) : Option Scanner :=
  match s.candidate with
  | some k => some ((s.announceKey k).take 1 .value)
  | none =>
    if !s.inFlow && !s.keyAllowed then none
    else
      let s := s.indent .blockMappingStart
      some ({ s with keyAllowed := !s.inFlow }.take 1 .value)

/-- The name of an anchor or of an alias. -/
def anchor (s : Scanner) (t : String → Token) : Option Scanner := do
  let s ← s.saveCandidate
  let (name, c) ← readAnchor (s.cursor.advance 1)
  return { s with keyAllowed := false, cursor := c }.emit (t name)

def tag (s : Scanner) : Option Scanner := do
  let s ← s.saveCandidate
  let (handle, suffix, c) ← readTag s.inFlow s.cursor
  return { s with keyAllowed := false, cursor := c }.emit (.tag handle suffix)

def blockScalar (s : Scanner) (folded : Bool) : Option Scanner := do
  let s ← s.dropCandidate
  let (text, c) ← readBlock folded s.indents (s.cursor.advance 1)
  return { s with keyAllowed := true, cursor := c }.emit
    (.scalar (String.ofList text) (if folded then .other else .literal))

def quotedScalar (s : Scanner) (quote : Char) : Option Scanner := do
  let s ← s.saveCandidate
  let c := s.cursor.advance 1
  let (text, c) ← readQuoted quote (c.rest.length + 1) [] c
  return { s with keyAllowed := false, cursor := c }.emit (.scalar (String.ofList text) .other)

def plainScalar (s : Scanner) : Option Scanner := do
  let s ← s.saveCandidate
  let p ← readPlain s.inFlow s.minColumn (s.cursor.rest.length + 1) [] {} s.cursor
  return { s with keyAllowed := p.broken, cursor := p.cursor }.emit
    (.scalar (String.ofList p.text) .plain)

/-- Characters that start no plain scalar. -/
def isIndicator (c : Char) : Bool :=
  isFlowIndicator c ||
    c ∈ ['-', '?', ':', '#', '&', '*', '!', '|', '>', '\'', '"', '%', '@', '\x60']

/-- Whether a plain scalar starts with a character, given the one after it. -/
def startsPlain (inFlow : Bool) (x : Char) (next : Option Char) : Bool :=
  !(isIndicator x || endsWord x) || (x = '-' && !next.any isBlank) ||
    (!inFlow && (x = '?' || x = ':') && !endsWord next)

/-- Read the token that starts with a character, in the innermost collection. -/
def readToken (s : Scanner) (x : Char) : Option Scanner :=
  let c := s.cursor
  if c.column = 0 && x = '%' then s.directive
  else if c.atMarker '-' then s.documentMarker .documentStart
  else if c.atMarker '.' then s.documentMarker .documentEnd
  else if x = '[' then s.flowStart .flowSequenceStart
  else if x = '\x7b' then s.flowStart .flowMappingStart
  else if x = ']' then s.flowEnd .flowSequenceEnd
  else if x = '\x7d' then s.flowEnd .flowMappingEnd
  else if x = ',' then s.flowEntry
  else if x = '-' && c.wordEndsNext then s.blockEntry
  else if x = '?' && (s.inFlow || c.wordEndsNext) then s.complexKey
  else if x = ':' && (s.inFlow || c.wordEndsNext) then s.value
  else if x = '*' then s.anchor .alias
  else if x = '&' then s.anchor .anchor
  else if x = '!' then s.tag
  else if x = '|' && !s.inFlow then s.blockScalar false
  else if x = '>' && !s.inFlow then s.blockScalar true
  else if x = '\'' || x = '"' then s.quotedScalar x
  else if startsPlain s.inFlow x (c.peekAt 1) then s.plainScalar
  else none

/-- Read tokens up to the end of the text. Each takes a character at least. -/
def run : Nat → Scanner → Option Scanner
  | 0, _ => none
  | fuel + 1, s => do
    let s ← (skipToToken (s.cursor.rest.length + 1) s).dropStale
    let s := s.unindent s.cursor.column
    match s.cursor.peek with
    | some x => run fuel (← s.readToken x)
    | none => s.closeAll.dropCandidate

/-- The tokens in order. -/
def tokens (s : Scanner) : List Token :=
  s.slots.toList.flatMap fun slot => slot.before ++ [slot.token]

end Scanner

/-- The tokens of a text, or nothing if it has none that fit together or holds a character that is
not allowed. -/
def Token.ofText? (text : String) : Option (List Token) :=
  let cs := text.toList
  if cs.all isAllowed then (Scanner.run (cs.length + 1) { cursor := { rest := cs } }).map (·.tokens)
  else none

end PropertySheet.Yaml
