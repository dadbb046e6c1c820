import PropertySheet.Text.Digit

/-!
# Percent-encoding

A character that a part of an address cannot hold is written as the octets of its UTF-8 form, each
`%` and two hexadecimal digits. Which characters can stay depends on the part. In the values of a
form a space is written as `+` and only letters, digits and four marks stay, so that a value holds
neither a `&` nor a `=` of its own.
-/

namespace PropertySheet.Url

/-- An octet as `%` and two digits. -/
def percentOctet (b : UInt8) : List Char :=
  ['%', Text.upperHexDigit (b.toNat / 16), Text.upperHexDigit b.toNat]

/-- A character as its octets. -/
def percentChar (c : Char) : List Char := (String.utf8EncodeChar c).flatMap percentOctet

/-- A text in which the characters stay that satisfy a condition. -/
def percentEncode (keep : Char → Bool) (cs : List Char) : List Char :=
  cs.flatMap fun c => if keep c then [c] else percentChar c

/-! ## What stays where -/

/-- ASCII that is neither a control character nor one of the given ones. -/
def printableBut (others : List Char) (c : Char) : Bool :=
  0x20 ≤ c.toNat && c.toNat < 0x7f && !others.contains c

def keptInFragment : Char → Bool := printableBut [' ', '"', '<', '>', '\x60']

def keptInPath : Char → Bool :=
  printableBut [' ', '"', '<', '>', '\x60', '#', '?', '\x7b', '\x7d']

def keptInQuery : Char → Bool := printableBut [' ', '"', '#', '<', '>', '\'']

def keptInForm (c : Char) : Bool := c.isAlphanum || c = '*' || c = '-' || c = '.' || c = '_'

/-- A name or a value of a form. -/
def formEncode (s : String) : String :=
  String.ofList (s.toList.flatMap fun c =>
    if c = ' ' then ['+'] else if keptInForm c then [c] else percentChar c)

/-- Names with their values, as a form is written into a query. -/
def formPairs (pairs : List (String × String)) : String :=
  "&".intercalate (pairs.map fun p => formEncode p.1 ++ "=" ++ formEncode p.2)

/-! ## Decoding -/

/-- The character of an ASCII octet that is written out. -/
def asciiOctet? (a b : Char) : Option Char := do
  let n ← Text.number? 16 [a, b]
  if n < 0x80 then some (Char.ofNat n) else none

/-- A text with its ASCII octets decoded. -/
def percentDecode : List Char → List Char
  | '%' :: a :: b :: rest =>
    match asciiOctet? a b with
    | some c => c :: percentDecode rest
    | none => '%' :: percentDecode (a :: b :: rest)
  | c :: rest => c :: percentDecode rest
  | [] => []

end PropertySheet.Url
