import PropertySheet.Text.Digit

/-!
# Identities of clients

A client calls itself by 128 random bits, of which six are fixed to say so, in hexadecimal digits.
-/

namespace PropertySheet

/-- A number in a given count of hexadecimal digits in lower case. -/
def hexDigits : Nat → Nat → List Char
  | 0, _ => []
  | count + 1, n => hexDigits count (n / 16) ++ [Text.hexDigit n]

/-- Digits cut into groups of the given lengths. -/
def groups : List Nat → List Char → List String
  | [], _ => []
  | k :: ks, cs => String.ofList (cs.take k) :: groups ks (cs.drop k)

/-- Digits of a random identity: the thirteenth tells the version, the seventeenth the variant. -/
def markDigits (cs : List Char) (variant : Nat) : List Char :=
  cs.take 12 ++ '4' :: (cs.drop 13).take 3 ++ Text.hexDigit (8 + variant % 4) :: cs.drop 17

/-- The identity that random bits give. -/
def identity (bits : Nat) : String :=
  "-".intercalate (groups [8, 4, 4, 4, 12] (markDigits (hexDigits 32 bits) bits))

end PropertySheet
