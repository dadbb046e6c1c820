import PropertySheet.Yaml.Scalar
import PropertySheet.Yaml.Token

/-!
# Anchors, tags and directives

The marks in front of a node and the lines in front of a document. Each function reads one of them
and makes sure that nothing but a blank or an indicator follows.
-/

namespace PropertySheet.Yaml

/-! ## Anchors -/

/-- Indicators that may follow the name of an anchor at once. -/
def endsAnchor (c : Char) : Bool :=
  c = '?' || c = ':' || c = ',' || c = ']' || c = '\x7d' || c = '%' || c = '@' || c = '\x60'

/-- Read the name behind `&` or `*`. -/
def readAnchor (c : Cursor) : Option (String × Cursor) :=
  let (name, c) := c.span isNameChar
  if name.isEmpty || !(c.atWordEnd || c.peek.any endsAnchor) then none
  else some (String.ofList name, c)

/-! ## Tags -/

/-- Characters of a tag, escapes apart. Commas and brackets belong to a verbatim tag only. -/
def isTagChar (verbatim : Bool) (c : Char) : Bool :=
  isNameChar c ||
    c ∈ [';', '/', '?', ':', '@', '&', '=', '+', '$', '.', '!', '~', '*', '\'', '(', ')'] ||
    (verbatim && (c = ',' || c = '[' || c = ']'))

/-- An octet written as `%` and two digits. -/
def readOctet : List Char → Option Nat
  | '%' :: a :: b :: _ => Text.number? 16 [a, b]
  | _ => none

/-- Number of octets of a character in UTF-8, and the bits that its first octet adds. -/
def octetCount (first : Nat) : Option (Nat × Nat) :=
  if first < 0x80 then some (1, first)
  else if 0xc0 ≤ first ∧ first < 0xe0 then some (2, first % 0x20)
  else if 0xe0 ≤ first ∧ first < 0xf0 then some (3, first % 0x10)
  else if 0xf0 ≤ first ∧ first < 0xf8 then some (4, first % 0x08)
  else none

/-- The octets after the first: their bits added to a code. -/
def readMoreOctets : Nat → Nat → List Char → Option Nat
  | 0, code, _ => some code
  | n + 1, code, cs => do
    let o ← readOctet cs
    if 0x80 ≤ o ∧ o < 0xc0 then readMoreOctets n (code * 64 + o % 64) (cs.drop 3) else none

/-- An escaped character, and the number of characters it takes. -/
def readTagEscape (cs : List Char) : Option (Char × Nat) := do
  let (n, bits) ← octetCount (← readOctet cs)
  let code ← readMoreOctets (n - 1) bits (cs.drop 3)
  return (Char.ofNat code, 3 * n)

/-- Read the characters of a tag. -/
def readTagChars (verbatim : Bool) : Nat → List Char → Cursor → Option (List Char × Cursor)
  | 0, _, _ => none
  | fuel + 1, text, c =>
    match c.peek with
    | none => some (text, c)
    | some x =>
      if x = '%' then do
        let (y, n) ← readTagEscape c.rest
        readTagChars verbatim fuel (text ++ [y]) (c.advance n)
      else if isTagChar verbatim x then readTagChars verbatim fuel (text ++ [x]) (c.advance 1)
      else some (text, c)

/-- Read the characters of a tag, of which there must be some, behind what has been read of it. -/
def readTagText (verbatim : Bool) (head : List Char) (c : Cursor) :
    Option (List Char × Cursor) := do
  let (text, d) ← readTagChars verbatim (c.rest.length + 1) [] c
  if head.isEmpty && text.isEmpty then none else return (head.drop 1 ++ text, d)

/-- Read `!`, a name and a second `!` if there is one. -/
def readHandle (c : Cursor) : Option (List Char × Cursor) :=
  if !c.atChar '!' then none
  else
    let (name, c) := (c.advance 1).span isNameChar
    if c.atChar '!' then some ('!' :: name ++ ['!'], c.advance 1) else some ('!' :: name, c)

/-- Whether what has been read as a handle is one: it ends with a second `!`. -/
def isHandle (cs : List Char) : Bool := 1 < cs.length && cs.getLast? = some '!'

/-- Read a tag at its `!`: its handle and the rest of it. A verbatim tag and the lone `!` have an
empty handle. -/
def readTag (inFlow : Bool) (c : Cursor) : Option (String × String × Cursor) := do
  let (handle, suffix, c) ←
    if c.peekAt 1 = some '<' then do
      let (suffix, c) ← readTagText true [] (c.advance 2)
      if c.atChar '>' then pure ([], suffix, c.advance 1) else none
    else do
      let (handle, c) ← readHandle c
      if isHandle handle then
        let (suffix, c) ← readTagText false [] c
        pure (handle, suffix, c)
      else
        let (suffix, c) ← readTagText false handle c
        pure (if suffix.isEmpty then ([], ['!'], c) else (['!'], suffix, c))
  if c.atWordEnd || (inFlow && c.atChar ',') then
    return (String.ofList handle, String.ofList suffix, c)
  else none

/-! ## Directives -/

/-- Read a number of at most nine digits. -/
def readVersionNumber (c : Cursor) : Option (Nat × Cursor) :=
  let (digits, d) := c.span Char.isDigit
  if digits.isEmpty || 9 < digits.length then none
  else (Text.number? 10 digits).map fun n => (n, d)

def readVersion (c : Cursor) : Option (Token × Cursor) := do
  let (major, c) ← readVersionNumber (c.skipWhile isBlank)
  if !c.atChar '.' then none
  else
    let (minor, c) ← readVersionNumber (c.advance 1)
    return (.version major minor, c)

def readTagDirective (c : Cursor) : Option (Token × Cursor) := do
  let (handle, c) ← readHandle (c.skipWhile isBlank)
  if !(handle = ['!'] || isHandle handle) || !c.atBlank then none
  else
    let (expansion, c) ← readTagText true [] (c.skipWhile isBlank)
    if c.atWordEnd then return (.tagDirective (String.ofList handle) (String.ofList expansion), c)
    else none

/-- Read a directive behind its `%`, to the start of the next line. -/
def readDirective (c : Cursor) : Option (Token × Cursor) := do
  let (name, c) := c.span isNameChar
  if !c.atWordEnd then none
  else
    let (token, c) ←
      if name = "YAML".toList then readVersion c
      else if name = "TAG".toList then readTagDirective c
      else none
    let c := c.skipWhile isBlank
    let c := if c.atChar '#' then c.skipToBreak else c
    if c.atEnd || c.atBreak then return (token, c.skipBreak) else none

end PropertySheet.Yaml
