import PropertySheet.Json.Value
import PropertySheet.Text.Digit

/-!
# Reading JSON text

`Value.parse?` reads one value with white space around it and refuses everything else: leading
zeros, control characters and lone surrogates in strings, numbers beyond the largest double, and
more than 127 levels of brackets.

The digits of a number are gathered into a 64-bit significand. Once the next digit would not fit,
the remaining digits of the whole part only count places, and those of a fraction are dropped.
-/

namespace PropertySheet.Json

/-- Brackets may be nested this deep. -/
def maxDepth : Nat := 127

def isBlank (c : Char) : Bool := c == ' ' || c == '\n' || c == '\t' || c == '\r'

def skipBlanks (cs : List Char) : List Char := cs.dropWhile isBlank

/-- The value of a decimal digit. -/
def digit? (c : Char) : Option Nat := Text.digit? 10 c

def isDigit (c : Char) : Bool := (digit? c).isSome

/-! ## Numbers -/

/-- Add digits to a significand while it stays below 2^64: the significand, how many digits it took,
and the rest. -/
def gatherDigits (significand taken : Nat) : List Char → Nat × Nat × List Char
  | [] => (significand, taken, [])
  | c :: rest =>
    match digit? c with
    | none => (significand, taken, c :: rest)
    | some d =>
      if significand * 10 + d < Nat.pow 2 64 then gatherDigits (significand * 10 + d) (taken + 1) rest
      else (significand, taken, c :: rest)

/-- The exponent part after its letter: its value and the rest. -/
def readExponent (cs : List Char) : Option (Int × List Char) :=
  let (negative, cs) := match cs with
    | '+' :: rest => (false, rest)
    | '-' :: rest => (true, rest)
    | _ => (false, cs)
  let digits := cs.takeWhile isDigit
  if digits.isEmpty then none
  else
    let e := (Text.number? 10 digits).getD 0
    some (if negative then -(e : Int) else e, cs.dropWhile isDigit)

/-- The exponent part if there is one, and nothing of it otherwise. -/
def optionalExponent (cs : List Char) : Option (Int × List Char) :=
  match cs with
  | 'e' :: rest => readExponent rest
  | 'E' :: rest => readExponent rest
  | _ => some (0, cs)

/-- The double of the digits read so far, after the exponent part if there is one. -/
def finishDouble (negative : Bool) (significand : Nat) (e : Int) (cs : List Char) :
    Option (Number × List Char) := do
  let (f, rest) ← optionalExponent cs
  return (.double (← Binary64.ofDecimal? negative significand (e + f)), rest)

/-- The fraction after its point. -/
def readFraction (negative : Bool) (significand : Nat) (e : Int) (cs : List Char) :
    Option (Number × List Char) :=
  let (s, taken, rest) := gatherDigits significand 0 cs
  match rest with
  | c :: _ =>
    if isDigit c then finishDouble negative s (e - taken) (rest.dropWhile isDigit)
    else if taken = 0 then none
    else finishDouble negative s (e - taken) rest
  | [] => if taken = 0 then none else finishDouble negative s (e - taken) rest

/-- A number without its sign. A negative whole number below -2^63, and a negative zero, are
doubles. -/
def readUnsigned (negative : Bool) (cs : List Char) : Option (Number × List Char) :=
  match cs with
  | [] => none
  | c :: _ =>
    if !isDigit c then none
    else
      let (s, _, rest) := gatherDigits 0 0 cs
      if c = '0' ∧ (cs.drop 1).head?.any isDigit then none
      else
        let more := rest.takeWhile isDigit
        let after := rest.dropWhile isDigit
        match after with
        | '.' :: fraction => readFraction negative s more.length fraction
        | d :: _ =>
          if d = 'e' ∨ d = 'E' ∨ !more.isEmpty then finishDouble negative s more.length after
          else whole negative s after
        | [] =>
          if more.isEmpty then whole negative s after
          else finishDouble negative s more.length after
where
  whole (negative : Bool) (s : Nat) (rest : List Char) : Option (Number × List Char) :=
    if !negative then some (.int s, rest)
    else if 0 < s ∧ s ≤ Nat.pow 2 63 then some (.int (-s), rest)
    else (Binary64.ofDecimal? true s 0).map fun d => (.double d, rest)

/-- A number. -/
def readNumber (cs : List Char) : Option (Number × List Char) :=
  match cs with
  | '-' :: rest => readUnsigned true rest
  | _ => readUnsigned false cs

/-! ## Strings -/

/-- Four hexadecimal digits. -/
def readHex4 : List Char → Option (Nat × List Char)
  | a :: b :: c :: d :: rest => do
    let a ← Text.hexValue? a
    let b ← Text.hexValue? b
    let c ← Text.hexValue? c
    let d ← Text.hexValue? d
    return (((a * 16 + b) * 16 + c) * 16 + d, rest)
  | _ => none

/-- The character of an escape after its backslash; a pair of surrogates is one character. -/
def readEscape : List Char → Option (Char × List Char)
  | '"' :: rest => some ('"', rest)
  | '\\' :: rest => some ('\\', rest)
  | '/' :: rest => some ('/', rest)
  | 'b' :: rest => some (Char.ofNat 0x08, rest)
  | 'f' :: rest => some (Char.ofNat 0x0C, rest)
  | 'n' :: rest => some ('\n', rest)
  | 'r' :: rest => some ('\r', rest)
  | 't' :: rest => some ('\t', rest)
  | 'u' :: rest => do
    let (n, rest) ← readHex4 rest
    if 0xDC00 ≤ n ∧ n ≤ 0xDFFF then none
    else if 0xD800 ≤ n ∧ n ≤ 0xDBFF then
      match rest with
      | '\\' :: 'u' :: rest => do
        let (low, rest) ← readHex4 rest
        if 0xDC00 ≤ low ∧ low ≤ 0xDFFF then
          some (Char.ofNat (0x10000 + (n - 0xD800) * 0x400 + (low - 0xDC00)), rest)
        else none
      | _ => none
    else some (Char.ofNat n, rest)
  | _ => none

/-- A string after its opening quote. -/
def readString (fuel : Nat) (cs : List Char) : Option (List Char × List Char) :=
  match fuel with
  | 0 => none
  | fuel + 1 =>
    match cs with
    | [] => none
    | '"' :: rest => some ([], rest)
    | '\\' :: rest => do
      let (c, rest) ← readEscape rest
      let (s, rest) ← readString fuel rest
      return (c :: s, rest)
    | c :: rest =>
      if c.toNat < 0x20 then none
      else do
        let (s, rest) ← readString fuel rest
        return (c :: s, rest)

/-! ## Values -/

/-- A word that must stand here. -/
def expectWord (word : List Char) (cs : List Char) : Option (List Char) :=
  if word.isPrefixOf cs then some (cs.drop word.length) else none

mutual

/-- A value at the start of the text. Every step takes a character, so a fuel beyond the length of
the text never runs out. -/
def readValue (fuel depth : Nat) (cs : List Char) : Option (Value × List Char) :=
  match fuel with
  | 0 => none
  | fuel + 1 =>
    match cs with
    | [] => none
    | 'n' :: rest => (expectWord ['u', 'l', 'l'] rest).map fun rest => (.null, rest)
    | 't' :: rest => (expectWord ['r', 'u', 'e'] rest).map fun rest => (.bool true, rest)
    | 'f' :: rest => (expectWord ['a', 'l', 's', 'e'] rest).map fun rest => (.bool false, rest)
    | '"' :: rest => do
      let (s, rest) ← readString fuel rest
      return (.string (String.ofList s), rest)
    | '[' :: rest =>
      match depth with
      | 0 => none
      | depth + 1 =>
        match skipBlanks rest with
        | ']' :: rest => some (.array [], rest)
        | rest => do
          let (elements, rest) ← readElements fuel depth rest
          return (.array elements, rest)
    | '\x7b' :: rest =>
      match depth with
      | 0 => none
      | depth + 1 =>
        match skipBlanks rest with
        | '\x7d' :: rest => some (.object [], rest)
        | rest => do
          let (members, rest) ← readMembers fuel depth [] rest
          return (.object members, rest)
    | _ => do
      let (n, rest) ← readNumber cs
      return (.number n, rest)

/-- Elements up to the closing bracket; at least one. -/
def readElements (fuel depth : Nat) (cs : List Char) : Option (List Value × List Char) :=
  match fuel with
  | 0 => none
  | fuel + 1 => do
    let (v, rest) ← readValue fuel depth (skipBlanks cs)
    match skipBlanks rest with
    | ']' :: rest => return ([v], rest)
    | ',' :: rest => do
      let (vs, rest) ← readElements fuel depth rest
      return (v :: vs, rest)
    | _ => none

/-- Members up to the closing brace, added to those already read; at least one. -/
def readMembers (fuel depth : Nat) (sofar : List (String × Value)) (cs : List Char) :
    Option (List (String × Value) × List Char) :=
  match fuel with
  | 0 => none
  | fuel + 1 => do
    match skipBlanks cs with
    | '"' :: rest => do
      let (k, rest) ← readString fuel rest
      match skipBlanks rest with
      | ':' :: rest => do
        let (v, rest) ← readValue fuel depth (skipBlanks rest)
        let members := Value.setMember (String.ofList k) v sofar
        match skipBlanks rest with
        | '\x7d' :: rest => return (members, rest)
        | ',' :: rest => readMembers fuel depth members rest
        | _ => none
      | _ => none
    | _ => none

end

/-- The value of a JSON text. -/
def Value.parse? (s : String) : Option Value :=
  let cs := s.toList
  match readValue (2 * cs.length + 2) maxDepth (skipBlanks cs) with
  | some (v, rest) => if (skipBlanks rest).isEmpty then some v else none
  | none => none

end PropertySheet.Json
