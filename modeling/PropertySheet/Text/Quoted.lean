import PropertySheet.Text.ClusterTable

/-!
# Text quoted for a message

A message that names a text shows it between quotes on one line: quotes, backslashes and line ends
are escaped, and so is every character that would not show, by its code point in braces.
-/

namespace PropertySheet.Text

/-- Characters that show nothing of their own: controls, formats, marks, separators other than the
blank, and code points without an assigned character. -/
def isInvisible (c : Char) : Bool :=
  let n := c.toNat
  if 0x20 ≤ n && n < 0x7F then false
  else inRanges n controlRanges || inRanges n extendRanges && !(0x1F3FB ≤ n && n ≤ 0x1F3FF) ||
    n == 0x200D || n == 0xA0 || n == 0x1680 || (0x2000 ≤ n && n ≤ 0x200A) || n == 0x202F ||
    n == 0x205F || n == 0x3000 || (0x600 ≤ n && n ≤ 0x605) || n == 0x6DD || n == 0x70F ||
    n == 0x890 || n == 0x891 || n == 0x8E2 || n == 0x110BD || n == 0x110CD ||
    (0xE000 ≤ n && n ≤ 0xF8FF) || 0xE0000 ≤ n || n % 0x10000 ≥ 0xFFFE

/-- A character inside the quotes. -/
def quotedChar (c : Char) : List Char :=
  if c = '"' then ['\\', '"']
  else if c = '\\' then ['\\', '\\']
  else if c = '\n' then ['\\', 'n']
  else if c = '\r' then ['\\', 'r']
  else if c = '\t' then ['\\', 't']
  else if c.toNat = 0 then ['\\', '0']
  else if isInvisible c then
    ['\\', 'u', '\x7b'] ++ Nat.toDigits 16 c.toNat ++ ['\x7d']
  else [c]

/-- The text between quotes. -/
def quoted (s : String) : String :=
  String.ofList ('"' :: s.toList.flatMap quotedChar ++ ['"'])

end PropertySheet.Text
