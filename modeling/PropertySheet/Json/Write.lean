import PropertySheet.Json.Value
import PropertySheet.Text.Digit

/-!
# Compact JSON text

No space between tokens. In a string only the quote, the backslash and the control characters below
the blank are escaped. A double is written with the fewest digits that read back: positionally, with
a point, from 1e-5 up to below 1e16, and with an explicit sign of the exponent elsewhere.
-/

namespace PropertySheet.Json

/-- The escaped form of a character inside a string. -/
def escapeChar (c : Char) : List Char :=
  if c = '"' then ['\\', '"']
  else if c = '\\' then ['\\', '\\']
  else if c = '\n' then ['\\', 'n']
  else if c = '\r' then ['\\', 'r']
  else if c = '\t' then ['\\', 't']
  else if c.toNat = 0x08 then ['\\', 'b']
  else if c.toNat = 0x0C then ['\\', 'f']
  else if c.toNat < 0x20 then
    ['\\', 'u', '0', '0', Text.hexDigit (c.toNat / 16), Text.hexDigit c.toNat]
  else [c]

/-- A string in quotes. -/
def quote (s : String) : String := String.ofList ('"' :: s.toList.flatMap escapeChar ++ ['"'])

/-- Digits with a decimal point `places` before their end. -/
def positional (digits : List Char) (places : Nat) : List Char :=
  let padded := List.replicate (places + 1 - digits.length) '0' ++ digits
  padded.take (padded.length - places) ++ '.' :: padded.drop (padded.length - places)

/-- The text of a double. -/
def Binary64.text (d : Binary64) : String :=
  let sign := if d.negative then ['-'] else []
  if d.isZero then String.ofList (sign ++ ['0', '.', '0'])
  else
    let (n, p) := d.shortest
    let digits := Nat.toDigits 10 n
    let top : Int := digits.length + p
    let body :=
      if 0 ≤ p ∧ top ≤ 16 then digits ++ List.replicate p.toNat '0' ++ ['.', '0']
      else if p < 0 ∧ -5 < top ∧ top ≤ 16 then positional digits (-p).toNat
      else
        let lead := match digits with
          | [] => []
          | [c] => [c]
          | c :: rest => c :: '.' :: rest
        let e := top - 1
        lead ++ 'e' :: (if e < 0 then '-' else '+') :: Nat.toDigits 10 e.natAbs
    String.ofList (sign ++ body)

def Number.text : Number → String
  | .int i => toString i
  | .double d => d.text

mutual

/-- The compact text of a value. -/
def Value.text : Value → String
  | .null => "null"
  | .bool true => "true"
  | .bool false => "false"
  | .number n => n.text
  | .string s => quote s
  | .array elements => "[" ++ elementsText elements ++ "]"
  | .object members => "\x7b" ++ membersText members ++ "\x7d"

/-- Elements with commas between them. -/
def elementsText : List Value → String
  | [] => ""
  | [v] => v.text
  | v :: rest => v.text ++ "," ++ elementsText rest

/-- Members with commas between them. -/
def membersText : List (String × Value) → String
  | [] => ""
  | [(k, v)] => quote k ++ ":" ++ v.text
  | (k, v) :: rest => quote k ++ ":" ++ v.text ++ "," ++ membersText rest

end

end PropertySheet.Json
