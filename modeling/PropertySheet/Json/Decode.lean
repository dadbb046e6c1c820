import PropertySheet.Json.Write
import PropertySheet.Text.Quoted

/-!
# Decoding JSON values

A decoder turns a value into a domain value or says why it cannot. Records may come as objects,
whose unknown members are ignored, or as arrays of their fields in order, of which only trailing
ones with a default may be left out.

The members of an object are decoded in the order they stand in; a field that is missing is noticed
after all of them. So of two faults the one that stands first is reported, and a bad member wins
over a missing one.
-/

namespace PropertySheet.Json

/-! ## Errors -/

/-- Why a value does not decode. -/
inductive DecodeError where
  | missingField (name : String)
  /-- A value of another kind than expected. -/
  | invalidType (found : String) (expected : String)
  /-- A value of the expected kind outside its range. -/
  | invalidValue (found : String) (expected : String)
  | invalidLength (length : Nat) (expected : String)
  | unknownVariant (name : String) (known : List String)
deriving DecidableEq, Repr

/-- Names in backquotes, as a message lists the alternatives. -/
def alternatives : List String → String
  | [] => "there are no variants"
  | [a] => "expected " ++ tick a
  | [a, b] => "expected " ++ tick a ++ " or " ++ tick b
  | names => "expected one of " ++ ", ".intercalate (names.map tick)
where
  tick (s : String) : String := "\x60" ++ s ++ "\x60"

def DecodeError.message : DecodeError → String
  | .missingField name => "missing field \x60" ++ name ++ "\x60"
  | .invalidType found expected => "invalid type: " ++ found ++ ", expected " ++ expected
  | .invalidValue found expected => "invalid value: " ++ found ++ ", expected " ++ expected
  | .invalidLength length expected =>
    "invalid length " ++ toString length ++ ", expected " ++ expected
  | .unknownVariant name known =>
    "unknown variant \x60" ++ name ++ "\x60, " ++ alternatives known

/-- What a message calls a value. -/
def Value.describe : Value → String
  | .null => "null"
  | .bool true => "boolean \x60true\x60"
  | .bool false => "boolean \x60false\x60"
  | .number (.int i) => "integer \x60" ++ toString i ++ "\x60"
  | .number (.double d) => "floating point \x60" ++ d.text ++ "\x60"
  | .string s => "string " ++ Text.quoted s
  | .array _ => "sequence"
  | .object _ => "map"

/-! ## Decoders -/

/-- A decoder of values of a type. -/
abbrev Decoder (α : Type) : Type := Value → Except DecodeError α

namespace Decoder

def string : Decoder String
  | .string s => .ok s
  | v => .error (.invalidType v.describe "a string")

def bool : Decoder Bool
  | .bool b => .ok b
  | v => .error (.invalidType v.describe "a boolean")

/-- A whole number of 64 bits without sign. -/
def nat64 : Decoder Nat
  | .number (.int i) =>
    if 0 ≤ i then .ok i.toNat
    else .error (.invalidValue (Value.describe (.number (.int i))) "u64")
  | v => .error (.invalidType v.describe "u64")

/-- Null for none. -/
def option {α : Type} (d : Decoder α) : Decoder (Option α)
  | .null => .ok none
  | v => (d v).map some

/-- Elements in order; the first that does not decode is reported. -/
def list {α : Type} (d : Decoder α) : Decoder (List α)
  | .array elements => elements.mapM d
  | v => .error (.invalidType v.describe "a sequence")

/-- Members in order; the first that does not decode is reported. -/
def members {α : Type} (d : Decoder α) : Decoder (List (String × α))
  | .object ms => ms.mapM fun m => (d m.2).map fun a => (m.1, a)
  | v => .error (.invalidType v.describe "a map")

/-- A name out of a list of alternatives. -/
def variant {α : Type} (known : List (String × α)) : Decoder α
  | .string s => pick s
  | .object [(s, v)] => do
    let a ← pick s
    match v with
    | .null => return a
    | v => throw (.invalidType v.describe "unit")
  | .object _ => .error (.invalidValue "map" "map with a single key")
  | v => .error (.invalidType v.describe "string or map")
where
  pick (s : String) : Except DecodeError α :=
    match known.find? (·.1 = s) with
    | some (_, a) => .ok a
    | none => .error (.unknownVariant s (known.map (·.1)))

end Decoder

/-! ## Records -/

/-- A field of a record: its name, and whether a value decodes as it. -/
structure Field where
  name : String
  check : Value → Except DecodeError Unit

/-- A field with the values that a decoder accepts. -/
def Field.of {α : Type} (name : String) (d : Decoder α) : Field :=
  ⟨name, fun v => (d v).map fun _ => ()⟩

/-- The known members of a record, each of which decodes, and how the absence of one is reported. -/
structure Record where
  known : List (String × Value)
  absent : String → DecodeError

namespace Record

/-- Members checked in order. -/
def checkAll (fields : List Field) (ms : List (String × Value)) :
    Except DecodeError (List (String × Value)) :=
  ms.filterMapM fun m =>
    match fields.find? (·.name = m.1) with
    | some f => (f.check m.2).map fun _ => some m
    | none => .ok none

/-- Message text for the number of fields. -/
def shape (name : String) (fields : List Field) : String :=
  "struct " ++ name ++ " with " ++ toString fields.length ++
    (if fields.length = 1 then " element" else " elements")

/-- A value read as a record of the given name and fields. -/
def ofValue (name : String) (fields : List Field) : Value → Except DecodeError Record
  | .object ms => do
    return ⟨← checkAll fields ms, .missingField⟩
  | .array elements => do
    let known ← checkAll fields ((fields.map (·.name)).zip elements)
    if fields.length < elements.length then
      throw (.invalidLength elements.length "fewer elements in array")
    return ⟨known, fun absent =>
      .invalidLength (fields.findIdx (·.name = absent)) (shape name fields)⟩
  | v => .error (.invalidType v.describe ("struct " ++ name))

/-- A field that must be there. -/
def required {α : Type} (r : Record) (name : String) (d : Decoder α) : Except DecodeError α :=
  match Value.findMember name r.known with
  | some v => d v
  | none => .error (r.absent name)

/-- A field with a default. -/
def withDefault {α : Type} (r : Record) (name : String) (d : Decoder α) (default : α) :
    Except DecodeError α :=
  match Value.findMember name r.known with
  | some v => d v
  | none => .ok default

end Record

end PropertySheet.Json
