import PropertySheet.Json.Binary64

/-!
# JSON values

Numbers are whole where their text is (within 64 bits) and doubles otherwise. The members of an
object keep the order of the text; a repeated key keeps its first place and takes its last value.
-/

namespace PropertySheet.Json

/-- A number: whole from -2^63 to 2^64 - 1, else a double. -/
inductive Number where
  | int (i : Int)
  | double (d : Binary64)
deriving DecidableEq, Repr, Inhabited

inductive Value where
  | null
  | bool (b : Bool)
  | number (n : Number)
  | string (s : String)
  | array (elements : List Value)
  | object (members : List (String × Value))
deriving Repr, Inhabited

namespace Value

/-- Bind a key among the members of an object: in its old place, or at the end. -/
def setMember (k : String) (v : Value) : List (String × Value) → List (String × Value)
  | [] => [(k, v)]
  | m :: rest => if m.1 = k then (k, v) :: rest else m :: setMember k v rest

/-- The value of the first member with the key. -/
def findMember (k : String) : List (String × Value) → Option Value
  | [] => none
  | m :: rest => if m.1 = k then some m.2 else findMember k rest

/-- A member of an object. Other values have no members. -/
def get? (v : Value) (k : String) : Option Value :=
  match v with
  | .object members => findMember k members
  | _ => none

def asString? : Value → Option String
  | .string s => some s
  | _ => none

def asObject? : Value → Option (List (String × Value))
  | .object members => some members
  | _ => none

/-- A natural number as a value. -/
def nat (n : Nat) : Value := .number (.int n)

/-- A text, or null for none. -/
def ofText? : Option String → Value
  | none => .null
  | some s => .string s

end Value

end PropertySheet.Json
