/-!
# Digits

The value of a digit in a base of at most sixteen, the number that digits make up, and the digits of
a number. Letters count as digits in either case.
-/

namespace PropertySheet.Text

/-- The value of a hexadecimal digit. -/
def hexValue? (c : Char) : Option Nat :=
  if '0' ≤ c ∧ c ≤ '9' then some (c.toNat - '0'.toNat)
  else if 'a' ≤ c ∧ c ≤ 'f' then some (c.toNat - 'a'.toNat + 10)
  else if 'A' ≤ c ∧ c ≤ 'F' then some (c.toNat - 'A'.toNat + 10)
  else none

/-- The value of a digit in a base. -/
def digit? (base : Nat) (c : Char) : Option Nat := (hexValue? c).filter (· < base)

/-- The number that the values of digits make up. -/
def ofDigits (base : Nat) (ds : List Nat) : Nat := ds.foldl (fun n d => n * base + d) 0

/-- The number that characters make up, if each is a digit; 0 for none at all. -/
def number? (base : Nat) (cs : List Char) : Option Nat :=
  (cs.mapM (digit? base)).map (ofDigits base)

/-- A hexadecimal digit, with letters in lower case. -/
def hexDigit (n : Nat) : Char := Nat.digitChar (n % 16)

/-- A hexadecimal digit, with letters in upper case. -/
def upperHexDigit (n : Nat) : Char := (hexDigit n).toUpper

theorem hexValue?_hexDigit (n : Nat) : hexValue? (hexDigit n) = some (n % 16) := by
  have h : ∀ m < 16, hexValue? (Nat.digitChar m) = some m := by decide
  exact h _ (Nat.mod_lt n (by decide))

end PropertySheet.Text
