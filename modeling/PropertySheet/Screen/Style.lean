/-!
# Styles of cells

A cell has a color and a set of modifiers. A style is what a drawing adds to them: a color, if it
names one, replaces the color, and modifiers add up.
-/

namespace PropertySheet

inductive Color where
  /-- The color of the terminal. -/
  | reset
  | red
  | green
  | yellow
  | cyan
  | gray
  | darkGray
  | white
deriving DecidableEq, Repr, Inhabited

/-- What a drawing adds to the look of a cell. -/
structure Style where
  color : Option Color := none
  bold : Bool := false
  italic : Bool := false
  underlined : Bool := false
deriving DecidableEq, Repr, Inhabited

namespace Style

/-- A style that names a color. -/
def of (c : Color) : Style := { color := some c }

/-- A bold style of a color. -/
def boldOf (c : Color) : Style := { color := some c, bold := true }

/-- An italic style of a color. -/
def italicOf (c : Color) : Style := { color := some c, italic := true }

end Style

/-- How a cell looks. -/
structure Look where
  color : Color := .reset
  bold : Bool := false
  italic : Bool := false
  underlined : Bool := false
deriving DecidableEq, Repr, Inhabited

/-- A look with a style added. -/
def Look.patch (l : Look) (s : Style) : Look :=
  { color := s.color.getD l.color
    bold := l.bold || s.bold
    italic := l.italic || s.italic
    underlined := l.underlined || s.underlined }

/-- A cell: the cluster it shows, and how it looks. -/
structure Cell where
  symbol : List Char := [' ']
  look : Look := {}
deriving DecidableEq, Repr, Inhabited

namespace Cell

def patch (c : Cell) (s : Style) : Cell := { c with look := c.look.patch s }

/-- Show a cluster in a style. -/
def draw (c : Cell) (symbol : List Char) (s : Style) : Cell := { symbol, look := c.look.patch s }

/-- Add a cluster without a column to the one shown. -/
def append (c : Cell) (symbol : List Char) (s : Style) : Cell :=
  { symbol := c.symbol ++ symbol, look := c.look.patch s }

end Cell

end PropertySheet
