/-!
# Keys

A key press is a key with its modifiers, as a terminal reports it.
-/

namespace PropertySheet

inductive KeyCode where
  | char (c : Char)
  | enter
  | esc
  | tab
  | backTab
  | backspace
  | delete
  | insert
  | left
  | right
  | up
  | down
  | home
  | endOfLine
  | pageUp
  | pageDown
  | function (n : Nat)
  | null
deriving DecidableEq, Repr, Inhabited

structure Key where
  code : KeyCode
  control : Bool := false
  alt : Bool := false
  shift : Bool := false
deriving DecidableEq, Repr, Inhabited

/-- A character key without modifiers. -/
def Key.ofChar (c : Char) : Key := { code := .char c }

namespace KeyCode

/-- Keys that have a name. -/
def named : List (String × KeyCode) := [
  ("Enter", .enter), ("Esc", .esc), ("Tab", .tab), ("BackTab", .backTab),
  ("Backspace", .backspace), ("Delete", .delete), ("Insert", .insert), ("Left", .left),
  ("Right", .right), ("Up", .up), ("Down", .down), ("Home", .home), ("End", .endOfLine),
  ("PageUp", .pageUp), ("PageDown", .pageDown), ("F5", .function 5), ("Null", .null)]

end KeyCode

/-- Read a key from its name: modifiers as `C+`, `A+` and `S+`, then a named key or `c:` and a
character. -/
def Key.parseChars? (k : Key) : List Char → Option Key
  | 'C' :: '+' :: rest => parseChars? { k with control := true } rest
  | 'A' :: '+' :: rest => parseChars? { k with alt := true } rest
  | 'S' :: '+' :: rest => parseChars? { k with shift := true } rest
  | ['c', ':', c] => some { k with code := .char c }
  | cs => (KeyCode.named.lookup (String.ofList cs)).map fun code => { k with code }

/-- Read a key from its name. -/
def Key.parse? (s : String) : Option Key := Key.parseChars? { code := .null } s.toList

end PropertySheet
