import PropertySheet.Yaml.Document

/-!
# Decoding YAML nodes

A decoder turns a node of a document into a domain value, or refuses it. A text is the text of any
scalar, whatever it looks like; other values are plain scalars of their form. A record is a mapping
whose keys are scalars. Unknown keys are ignored with their values, and a known key may stand only
once.
-/

namespace PropertySheet.Yaml

/-- A decoder of the nodes of a document. -/
abbrev Decoder (α : Type) : Type := Document → Node → Option α

namespace Decoder

/-- The text of a scalar. -/
def string : Decoder String := fun d n =>
  match d.resolve n with
  | .scalar text _ _ => some text
  | _ => none

/-- The text of a scalar that may be of a form: a plain one, or a literal one that its tag claims
for the form. -/
def formed (tag : String) : Decoder String := fun d n =>
  match d.resolve n with
  | .scalar text .plain _ => some text
  | .scalar text .literal t => if t = some tag then some text else none
  | _ => none

def bool : Decoder Bool := fun d n => do
  let text ← formed "tag:yaml.org,2002:bool" d n
  if text ∈ ["true", "True", "TRUE"] then some true
  else if text ∈ ["false", "False", "FALSE"] then some false
  else none

/-! ## Numbers -/

/-- A whole number of 64 bits by its digits, of which there is at least one. -/
def digits64? (base : Nat) (cs : List Char) : Option Nat :=
  if cs.isEmpty then none else (Text.number? base cs).filter (· < Nat.pow 2 64)

/-- A whole number without sign: hexadecimal after `0x`, octal after `0o`, binary after `0b`, and
decimal otherwise, then without a zero in front. A plus sign may stand before all of it. -/
def nat64? (cs : List Char) : Option Nat :=
  let cs := match cs with
    | '+' :: rest => rest
    | _ => cs
  match cs with
  | '0' :: 'x' :: rest => digits64? 16 rest
  | '0' :: 'o' :: rest => digits64? 8 rest
  | '0' :: 'b' :: rest => digits64? 2 rest
  | '0' :: _ :: _ => none
  | _ => digits64? 10 cs

def nat64 : Decoder Nat := fun d n => do
  nat64? (← formed "tag:yaml.org,2002:int" d n).toList

/-! ## Absence -/

def nullTag : String := "tag:yaml.org,2002:null"

def isNull (text : String) : Bool := text ∈ ["null", "Null", "NULL", "~"]

/-- None for a plain null and for a scalar of which nothing is written. A tag other than that of
null makes it a value, and that of null allows for nothing else. -/
def option {α : Type} (value : Decoder α) : Decoder (Option α) := fun d n =>
  let some_ := (value d n).map some
  match d.resolve n with
  | .scalar text .plain none => if text.isEmpty || isNull text then some none else some_
  | .scalar text .plain (some tag) =>
    if tag = nullTag then if isNull text then some none else none else some_
  | _ => some_

/-- Whether a scalar is there only for its tag. -/
def isUnit (text : String) (style : ScalarStyle) : Bool :=
  style = .plain && (text.isEmpty || isNull text)

/-- A name out of a list of alternatives: the text of a scalar, or the private tag of an empty one.
-/
def variant {α : Type} (known : List (String × α)) : Decoder α := fun d n =>
  match d.resolve n with
  | .scalar text style tag =>
    match tag.map String.toList with
    | some ('!' :: name) =>
      if isUnit text style then
        known.lookup (if name.isEmpty then "!" else String.ofList name)
      else none
    | _ => known.lookup text
  | _ => none

/-! ## Records -/

/-- The entries of a mapping under the texts of their keys. A plain scalar of which nothing is
written has none. -/
def entries : Decoder (List (String × Node)) := fun d n =>
  match d.resolve n with
  | .mapping es _ => es.mapM fun e => (string d e.1).map fun k => (k, e.2)
  | .scalar text .plain _ => if text.isEmpty then some [] else none
  | _ => none

/-- The entries of a record with the given fields. -/
def record (fields : List String) : Decoder (List (String × Node)) := fun d n => do
  let es ← entries d n
  if fields.any fun f => 1 < (es.filter (·.1 = f)).length then none else some es

/-- A field that has to be there. -/
def field {α : Type} (d : Document) (es : List (String × Node)) (name : String)
    (value : Decoder α) : Option α := do
  value d (← es.lookup name)

/-- A field that may be left out. -/
def fieldOr {α : Type} (d : Document) (es : List (String × Node)) (name : String)
    (value : Decoder α) (default : α) : Option α :=
  match es.lookup name with
  | some n => value d n
  | none => some default

end Decoder

/-- Decode the document of a text. -/
def decode? {α : Type} (value : Decoder α) (text : String) : Option α := do
  let d ← Document.ofText? text
  value d d.root

end PropertySheet.Yaml
