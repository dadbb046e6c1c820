import PropertySheet.Text.Width

/-!
# Shortening a text to a number of columns

A cell holds one line, so line breaks and tabs become blanks first. A text that fits stays as it is;
a longer one is cut at the last character that leaves a column for the mark `…`.

The functions take the width of a character as a parameter: nothing about them depends on the table
of widths beyond the sum of the widths of the characters.
-/

namespace PropertySheet.Text

/-- Line breaks and tabs as blanks. -/
def flattenChar (c : Char) : Char := if c = '\n' ∨ c = '\r' ∨ c = '\t' then ' ' else c

/-- Sum of the widths of the characters. -/
def totalWidth (w : Char → Nat) (cs : List Char) : Nat := cs.foldl (· + w ·) 0

/-- The longest prefix whose characters fit into the columns. -/
def takeColumns (w : Char → Nat) : Nat → List Char → List Char
  | _, [] => []
  | columns, c :: rest => if w c ≤ columns then c :: takeColumns w (columns - w c) rest else []

/-- The flattened text, cut and marked with `…` when it is wider than the columns. -/
def elide (w : Char → Nat) (cs : List Char) (columns : Nat) : List Char :=
  let flat := cs.map flattenChar
  if totalWidth w flat ≤ columns then flat
  else if columns = 0 then []
  else takeColumns w (columns - 1) flat ++ ['…']

/-- A text shortened to a number of terminal columns. -/
def ellipsis (s : String) (columns : Nat) : String :=
  String.ofList (elide charWidth s.toList columns)

end PropertySheet.Text
