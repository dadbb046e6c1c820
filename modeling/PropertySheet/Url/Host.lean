import PropertySheet.Text.Blank
import PropertySheet.Url.Percent

/-!
# Hosts

A host is a name of ASCII, an IPv4 address or an IPv6 address in brackets. A name is written in
lower case. A host whose last part is a number has to be an IPv4 address, of which parts may be left
out or written in octal or hexadecimal; it is written as four decimal numbers.
-/

namespace PropertySheet.Url

/-! ## IPv4 addresses -/

/-- A part of an IPv4 address: hexadecimal after `0x`, octal after `0`, decimal otherwise. -/
def ipv4Part? : List Char → Option Nat
  | [] => none
  | '0' :: 'x' :: rest | '0' :: 'X' :: rest => Text.number? 16 rest
  | '0' :: c :: rest => Text.number? 8 (c :: rest)
  | cs => Text.number? 10 cs

/-- The parts of a host between its dots; a dot at the end adds none. -/
def dotted (cs : List Char) : List (List Char) :=
  let parts := Text.splitChars (· == '.') cs
  if 1 < parts.length ∧ parts.getLast? = some [] then parts.dropLast else parts

/-- Whether a host can only be an IPv4 address. -/
def endsInNumber (cs : List Char) : Bool :=
  match (dotted cs).getLast? with
  | none => false
  | some part => !part.isEmpty && (part.all Char.isDigit || (ipv4Part? part).isSome)

/-- An address by its parts; the last one stands for all bytes that are left. -/
def ipv4Number? (parts : List Nat) : Option Nat :=
  match parts.reverse with
  | [] => none
  | last :: init =>
    if 3 < init.length ∨ init.any (255 < ·) ∨ Nat.pow 256 (4 - init.length) ≤ last then none
    else some (init.reverse.zipIdx.foldl (fun n p => n + p.1 * Nat.pow 256 (3 - p.2)) last)

/-- An address as four decimal numbers. -/
def ipv4Text (n : Nat) : String :=
  ".".intercalate ([3, 2, 1, 0].map fun i => toString (n / Nat.pow 256 i % 256))

def ipv4? (cs : List Char) : Option String := do
  let parts ← (dotted cs).mapM ipv4Part?
  (ipv4Number? parts).map ipv4Text

/-! ## Hosts -/

/-- Characters that no name can hold. -/
def isForbiddenInName (c : Char) : Bool :=
  c.toNat ≤ 0x20 || c.toNat = 0x7f ||
    c ∈ ['#', '/', ':', '<', '>', '?', '@', '[', '\\', ']', '^', '|', '%']

/-- Characters of an IPv6 address. -/
def isIpv6Char (c : Char) : Bool := (Text.hexValue? c).isSome || c = ':' || c = '.'

/-- A host as it is written in an address. -/
def host? (cs : List Char) : Option String :=
  match cs with
  | '[' :: rest =>
    let inner := rest.dropLast
    if rest.getLast? = some ']' ∧ !inner.isEmpty ∧ inner.all isIpv6Char then
      some (String.ofList (cs.map Char.toLower))
    else none
  | _ =>
    let name := (percentDecode cs).map Char.toLower
    if name.isEmpty ∨ name.any (fun c => isForbiddenInName c || 0x80 ≤ c.toNat) then none
    else if endsInNumber name then ipv4? name
    else some (String.ofList name)

end PropertySheet.Url
