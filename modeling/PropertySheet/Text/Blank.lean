/-!
# Blank text

White space is the character standard's property of that name: 25 characters, among them the
no-break space and the ideographic space, but neither the zero-width space nor the joiners.
A value counts as blank when nothing else is left of it.
-/

namespace PropertySheet.Text

/-- White space, by the character standard. -/
def isSpace (c : Char) : Bool :=
  let n := c.toNat
  n == 0x20 || (0x09 ≤ n && n ≤ 0x0D) || n == 0x85 || n == 0xA0 || n == 0x1680 ||
    (0x2000 ≤ n && n ≤ 0x200A) || n == 0x2028 || n == 0x2029 || n == 0x202F || n == 0x205F ||
    n == 0x3000

/-- Characters that steer a terminal instead of being drawn: the two control ranges. -/
def isControl (c : Char) : Bool :=
  let n := c.toNat
  n < 0x20 || (0x7F ≤ n && n < 0xA0)

/-- The characters without the white space at both ends. -/
def trimChars (cs : List Char) : List Char :=
  ((cs.dropWhile isSpace).reverse.dropWhile isSpace).reverse

/-- The text without the white space at both ends. -/
def trim (s : String) : String := String.ofList (trimChars s.toList)

/-- Absent, empty and white-space-only text is blank. -/
def isBlank : Option String → Bool
  | none => true
  | some s => s.toList.all isSpace

theorem dropWhile_eq_nil {p : Char → Bool} {cs : List Char} :
    cs.dropWhile p = [] ↔ cs.all p = true := by
  induction cs with
  | nil => simp
  | cons c rest ih => by_cases h : p c <;> simp [h, ih]

/-- A blank text is one of which trimming leaves nothing. -/
theorem isBlank_some_iff (s : String) : isBlank (some s) = true ↔ trimChars s.toList = [] := by
  have hhead : ∀ cs : List Char,
      (cs.dropWhile isSpace).all isSpace = true → cs.all isSpace = true := by
    intro cs
    induction cs with
    | nil => simp
    | cons c rest ih =>
      by_cases h : isSpace c = true
      · simpa [h] using ih
      · simp [h]
  simp only [isBlank, trimChars, List.reverse_eq_nil_iff, dropWhile_eq_nil, List.all_reverse]
  constructor
  · intro h
    rw [dropWhile_eq_nil.2 h]
    rfl
  · exact hhead s.toList

/-! ## Cutting a text -/

/-- The characters after the last `c`, or all of them when there is none. -/
def charsAfterLast (c : Char) (cs : List Char) : List Char :=
  (cs.reverse.takeWhile (· ≠ c)).reverse

/-- The text after the last `c`, or the whole text when there is none. -/
def afterLast (c : Char) (s : String) : String := String.ofList (charsAfterLast c s.toList)

/-- The pieces between the characters that satisfy a test, empty ones included. -/
def splitChars (p : Char → Bool) : List Char → List (List Char)
  | [] => [[]]
  | c :: rest =>
    match splitChars p rest with
    | [] => [[c]]
    | piece :: pieces => if p c then [] :: piece :: pieces else (c :: piece) :: pieces

/-- The pieces between line feeds, empty ones included. -/
def splitLines (s : String) : List String :=
  (splitChars (· == '\n') s.toList).map String.ofList

/-- The lines of a text: a line feed ends a line, with a carriage return before it if there is one,
and nothing follows the last line end. -/
def lines (s : String) : List String :=
  let pieces := splitChars (· == '\n') s.toList
  let ended := pieces.dropLast.map fun piece =>
    match piece.reverse with
    | '\r' :: rest => rest.reverse
    | _ => piece
  let rest := match pieces.getLast? with
    | none => []
    | some [] => []
    | some piece => [piece]
  (ended ++ rest).map String.ofList

end PropertySheet.Text
