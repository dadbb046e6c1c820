import PropertySheet.SortedMap
import PropertySheet.Yaml.Scan

/-!
# YAML documents

A document is a tree of scalars, sequences and mappings in which an alias stands for the node of its
anchor. Aliases stay in the tree as numbers, so that a node may contain itself; `Document.resolve`
follows one.

`Document.ofText?` reads a text that holds one document.
-/

namespace PropertySheet.Yaml

inductive Node where
  | scalar (text : String) (style : ScalarStyle) (tag : Option String)
  | sequence (items : List Node) (tag : Option String)
  | mapping (entries : List (Node × Node)) (tag : Option String)
  /-- The node whose anchor has the number. -/
  | alias (number : Nat)
deriving Repr, Inhabited

/-- A node of which nothing is written. -/
def Node.empty (tag : Option String) : Node := .scalar "" .plain tag

structure Document where
  root : Node
  /-- The nodes with an anchor, by number. -/
  anchored : SortedMap Nat Node := .empty
deriving Inhabited

/-- The node that an alias stands for; any other node is itself. -/
def Document.resolve (d : Document) : Node → Node
  | .alias n => (d.anchored.get? n).getD (.alias n)
  | n => n

/-! ## Reading -/

/-- The tokens that are left, and what is known of tag handles and anchors. -/
structure Composer where
  tokens : List Token
  handles : List (String × String) := []
  /-- Numbers of the anchors so far. -/
  numbers : SortedMap String Nat := .empty
  anchored : SortedMap Nat Node := .empty

/-- A step of reading a document. -/
abbrev Compose (α : Type) : Type := StateT Composer Option α

namespace Compose

/-- The next token; nothing at the end. -/
def peek : Compose (Option Token) := do return (← get).tokens.head?

def skip : Compose Unit := modify fun s => { s with tokens := s.tokens.tail }

/-- Whether the next token is one of some tokens. -/
def next (ts : List Token) : Compose Bool := do
  return match ← peek with
    | some t => t ∈ ts
    | none => false

/-- Take a token that has to be there. -/
def expect (t : Token) : Compose Unit := do
  if ← next [t] then skip else failure

/-- Handles that are known in every document. -/
def standardHandles : List (String × String) := [("!", "!"), ("!!", "tag:yaml.org,2002:")]

/-- The tag of a handle and the rest of it. -/
def tagOf (handle suffix : String) : Compose String := do
  if handle.isEmpty then return suffix
  match (← get).handles.lookup handle with
  | some expansion => return expansion ++ suffix
  | none => failure

/-- An anchor and a tag, in any order, each at most once. -/
def properties : Compose (Option String × Option String) := do
  match ← peek with
  | some (.anchor a) =>
    skip
    match ← peek with
    | some (.tag h t) => skip; return (some a, some (← tagOf h t))
    | _ => return (some a, none)
  | some (.tag h t) =>
    skip
    match ← peek with
    | some (.anchor a) => skip; return (some a, some (← tagOf h t))
    | _ => return (none, some (← tagOf h t))
  | _ => return (none, none)

/-- Give an anchor its number: the count of the names before it. A name that comes again takes a new
number. -/
def number (anchor : Option String) : Compose (Option Nat) := do
  match anchor with
  | none => return none
  | some a =>
    let s ← get
    let n := s.numbers.keys.length
    set { s with numbers := s.numbers.insert a n }
    return some n

/-- Note the node of an anchor. -/
def record (n : Option Nat) (node : Node) : Compose Node := do
  match n with
  | none => return node
  | some n =>
    modify fun s => { s with anchored := s.anchored.insert n node }
    return node

mutual

/-- A node. Only in a block may a block start, and only the value of a mapping may be a sequence
that is not indented. The lone tag `!` of a scalar says nothing. Fuel bounds the depth. -/
def node (fuel : Nat) (block unindented : Bool) : Compose Node :=
  match fuel with
  | 0 => failure
  | fuel + 1 => do
    match ← peek with
    | some (.alias a) =>
      skip
      match (← get).numbers.get? a with
      | some n => return .alias n
      | none => failure
    | _ =>
      let (anchor, tag) ← properties
      let n ← number anchor
      let t ← peek
      if unindented ∧ t = some .blockEntry then
        record n (.sequence (← unindentedItems fuel) tag)
      else
        match t with
        | some (.scalar text style) =>
          skip
          record n (.scalar text style (tag.filter (· ≠ "!")))
        | some .flowSequenceStart => skip; record n (.sequence (← flowItems fuel true) tag)
        | some .flowMappingStart => skip; record n (.mapping (← flowEntries fuel true) tag)
        | some .blockSequenceStart =>
          if block then skip; record n (.sequence (← blockItems fuel) tag) else failure
        | some .blockMappingStart =>
          if block then skip; record n (.mapping (← blockEntries fuel) tag) else failure
        | _ => if anchor.isSome || tag.isSome then record n (.empty tag) else failure

/-- A node unless one of some tokens comes, which leaves it empty. -/
def nodeUnless (fuel : Nat) (block unindented : Bool) (stops : List Token) : Compose Node :=
  match fuel with
  | 0 => failure
  | fuel + 1 => do
    if ← next stops then return .empty none else node fuel block unindented

/-- The items of a block sequence, behind its start. -/
def blockItems (fuel : Nat) : Compose (List Node) :=
  match fuel with
  | 0 => failure
  | fuel + 1 => do
    match ← peek with
    | some .blockEntry =>
      skip
      let n ← nodeUnless fuel true false [.blockEntry, .blockEnd]
      return n :: (← blockItems fuel)
    | some .blockEnd => skip; return []
    | _ => failure

/-- The items of a sequence at the column of the key before it. -/
def unindentedItems (fuel : Nat) : Compose (List Node) :=
  match fuel with
  | 0 => failure
  | fuel + 1 => do
    match ← peek with
    | some .blockEntry =>
      skip
      let n ← nodeUnless fuel true false [.blockEntry, .key, .value, .blockEnd]
      return n :: (← unindentedItems fuel)
    | _ => return []

/-- The entries of a block mapping, behind its start. -/
def blockEntries (fuel : Nat) : Compose (List (Node × Node)) :=
  match fuel with
  | 0 => failure
  | fuel + 1 => do
    match ← peek with
    | some .key =>
      skip
      let k ← nodeUnless fuel true true [.key, .value, .blockEnd]
      let v ← if ← next [.value] then do
          skip
          nodeUnless fuel true true [.key, .value, .blockEnd]
        else pure (.empty none)
      return (k, v) :: (← blockEntries fuel)
    | some .blockEnd => skip; return []
    | _ => failure

/-- The items of a flow sequence, behind its start. An item with a key is a mapping of one entry; a
key of which nothing is written takes the token after it. -/
def flowItems (fuel : Nat) (first : Bool) : Compose (List Node) :=
  match fuel with
  | 0 => failure
  | fuel + 1 => do
    if ← next [.flowSequenceEnd] then skip; return []
    if !first then expect .flowEntry
    match ← peek with
    | some .flowSequenceEnd => skip; return []
    | some .key =>
      skip
      let k ← if ← next [.value, .flowEntry, .flowSequenceEnd] then do
          skip
          pure (.empty none)
        else node fuel false false
      let v ← if ← next [.value] then do
          skip
          nodeUnless fuel false false [.flowEntry, .flowSequenceEnd]
        else pure (.empty none)
      return .mapping [(k, v)] none :: (← flowItems fuel false)
    | _ =>
      let n ← node fuel false false
      return n :: (← flowItems fuel false)

/-- The entries of a flow mapping, behind its start. An entry without a key indicator has an empty
value. -/
def flowEntries (fuel : Nat) (first : Bool) : Compose (List (Node × Node)) :=
  match fuel with
  | 0 => failure
  | fuel + 1 => do
    if ← next [.flowMappingEnd] then skip; return []
    if !first then expect .flowEntry
    match ← peek with
    | some .flowMappingEnd => skip; return []
    | some .key =>
      skip
      let k ← nodeUnless fuel false false [.value, .flowEntry, .flowMappingEnd]
      let v ← if ← next [.value] then do
          skip
          nodeUnless fuel false false [.flowEntry, .flowMappingEnd]
        else pure (.empty none)
      return (k, v) :: (← flowEntries fuel false)
    | _ =>
      let k ← node fuel false false
      return (k, .empty none) :: (← flowEntries fuel false)

end

/-! ## Directives -/

/-- Directives as far as they have been read. -/
structure Directives where
  versioned : Bool := false
  handles : List (String × String) := []

/-- The directives before a document: at most one version, of 1.1 or 1.2, and each handle once. -/
def directives (fuel : Nat) (d : Directives) : Compose Directives :=
  match fuel with
  | 0 => failure
  | fuel + 1 => do
    match ← peek with
    | some (.version major minor) =>
      if d.versioned ∨ major ≠ 1 ∨ (minor ≠ 1 ∧ minor ≠ 2) then failure
      skip
      directives fuel { d with versioned := true }
    | some (.tagDirective h e) =>
      if (d.handles.lookup h).isSome then failure
      skip
      directives fuel { d with handles := d.handles ++ [(h, e)] }
    | _ => return d

/-- Whether a token is a directive. -/
def isDirective : Token → Bool
  | .version _ _ | .tagDirective _ _ => true
  | _ => false

/-- The content of a document. Behind a document start it may be empty. -/
def content (fuel : Nat) : Compose Node := do
  let t ← peek
  let explicit := t = some .documentStart || t.any isDirective
  if !explicit then
    modify fun s => { s with handles := standardHandles }
    node fuel true false
  else
    let d ← directives fuel {}
    expect .documentStart
    modify fun s => { s with handles := d.handles ++ standardHandles }
    match ← peek with
    | none => return .empty none
    | some t =>
      if t = .documentStart || t = .documentEnd || isDirective t then return .empty none
      else node fuel true false

end Compose

/-- The document that a list of tokens makes up. -/
def Document.ofTokens? (tokens : List Token) : Option Document := do
  let (root, s) ← (Compose.content (4 * tokens.length + 8)).run { tokens }
  if s.tokens.all (· = .documentEnd) then return { root, anchored := s.anchored } else none

/-- The document of a text that holds exactly one. -/
def Document.ofText? (text : String) : Option Document := do
  Document.ofTokens? (← Token.ofText? text)

end PropertySheet.Yaml
