import PropertySheet.Screen.Line

/-!
# Paragraphs

A paragraph is a list of styled lines in a rectangle. Without wrapping each line is cut at the
width. With wrapping, words move to the next line as a whole, and a word that is wider than a line
is broken.
-/

namespace PropertySheet

/-- A cluster in a style. -/
structure Glyph where
  symbol : List Char
  style : Style
deriving DecidableEq, Repr, Inhabited

namespace Glyph

def width (g : Glyph) : Nat := Text.charsWidth g.symbol

/-- Where a line may be broken: white space other than the no-break space, and the zero-width
space. -/
def isSpace (g : Glyph) : Bool :=
  g.symbol = [Char.ofNat 0x200B] ||
    (g.symbol.all Text.isSpace && g.symbol ≠ [Char.ofNat 0xA0])

/-- The clusters of a line of spans. -/
def ofSpans (spans : List Span) : List Glyph :=
  spans.flatMap fun s => s.clusters.map fun g => { symbol := g, style := s.style }

end Glyph

/-! ## Cutting -/

/-- The clusters of a line that fit into a width. Clusters wider than the whole width are left out.
-/
def cutLine (width used : Nat) : List Glyph → List Glyph
  | [] => []
  | g :: rest =>
    if width < g.width then cutLine width used rest
    else if width < used + g.width then []
    else g :: cutLine width (used + g.width) rest

/-! ## Wrapping -/

/-- What the wrapping of one line has gathered: finished lines, the line being filled, and the
blanks and the word that come after it. -/
structure Wrapping where
  done : List (List Glyph) := []
  line : List Glyph := []
  lineWidth : Nat := 0
  blanks : List Glyph := []
  blanksWidth : Nat := 0
  word : List Glyph := []
  wordWidth : Nat := 0
  /-- The last cluster belongs to a word. -/
  inWord : Bool := false
deriving Repr, Inhabited

namespace Wrapping

/-- Whether the blanks before the word count: not at the start of a trimmed line. -/
def keepsBlanks (w : Wrapping) (trim : Bool) : Bool := !w.line.isEmpty || !trim

/-- Move the blanks and the word to the line. -/
def commitWord (w : Wrapping) (trim : Bool) : Wrapping :=
  let keep := w.keepsBlanks trim
  { w with
    line := w.line ++ (if keep then w.blanks else []) ++ w.word
    lineWidth := w.lineWidth + (if keep then w.blanksWidth else 0) + w.wordWidth
    blanks := [], blanksWidth := 0, word := [], wordWidth := 0 }

/-- Drop blanks as long as they fit into the columns left. -/
def dropBlanks (columns : Nat) : List Glyph → List Glyph
  | [] => []
  | g :: rest => if g.width ≤ columns then dropBlanks (columns - g.width) rest else g :: rest

/-- Finish the line. Blanks that would have stood at its end are dropped. -/
def breakLine (w : Wrapping) (width : Nat) : Wrapping :=
  let blanks := dropBlanks (width - w.lineWidth) w.blanks
  { w with
    done := w.done ++ [w.line], line := [], lineWidth := 0
    blanks, blanksWidth := blanks.foldl (· + ·.width) 0 }

/-- Whether the gathered word has to move to the line before a cluster is added: it has ended, or at
the start of a line there is no room for more. -/
def mustCommit (w : Wrapping) (width : Nat) (trim : Bool) (g : Glyph) : Bool :=
  (w.inWord && g.isSpace) ||
    (w.line.isEmpty && if trim then
        width < w.wordWidth + g.width || width < w.blanksWidth + g.width
      else width < w.wordWidth + w.blanksWidth + g.width)

/-- Whether the line has to be finished before a cluster is added. -/
def mustBreak (w : Wrapping) (width : Nat) (g : Glyph) : Bool :=
  width ≤ w.lineWidth ||
    (0 < g.width && width ≤ w.lineWidth + w.blanksWidth + w.wordWidth)

/-- Add a cluster to the blanks or to the word. -/
def add (w : Wrapping) (g : Glyph) : Wrapping :=
  if g.isSpace then
    { w with blanks := w.blanks ++ [g], blanksWidth := w.blanksWidth + g.width, inWord := false }
  else { w with word := w.word ++ [g], wordWidth := w.wordWidth + g.width, inWord := true }

/-- Take one more cluster. A cluster wider than a line is left out, and a blank that only fills up a
broken line is dropped with it. -/
def push (width : Nat) (trim : Bool) (w : Wrapping) (g : Glyph) : Wrapping :=
  if width < g.width then w
  else
    let w := if w.mustCommit width trim g then w.commitWord trim else w
    if w.mustBreak width g then
      let w := w.breakLine width
      if g.isSpace && w.blanks.isEmpty then w else w.add g
    else w.add g

/-- The lines, the last one included. -/
def finish (w : Wrapping) (trim : Bool) : List (List Glyph) :=
  let done :=
    if w.line.isEmpty && w.word.isEmpty && !w.blanks.isEmpty then w.done ++ [[]] else w.done
  let last := w.line ++ (if w.keepsBlanks trim then w.blanks else []) ++ w.word
  let done := if last.isEmpty then done else done ++ [last]
  if done.isEmpty then [[]] else done

end Wrapping

/-- The lines into which a line is wrapped; at least one. -/
def wrapLine (width : Nat) (trim : Bool) (glyphs : List Glyph) : List (List Glyph) :=
  (glyphs.foldl (Wrapping.push width trim) {}).finish trim

/-! ## Drawing -/

/-- How the lines of a paragraph are fitted into its width. -/
inductive Fitting where
  | cut
  /-- Wrapped; `trim` drops the blanks at the start of lines. -/
  | wrap (trim : Bool)
deriving DecidableEq, Repr, Inhabited

/-- The lines of a paragraph as they are drawn. -/
def Fitting.fit (f : Fitting) (width : Nat) (lines : List (List Span)) : List (List Glyph) :=
  match f with
  | .cut => lines.map fun l => cutLine width 0 (Glyph.ofSpans l)
  | .wrap trim => lines.flatMap fun l => wrapLine width trim (Glyph.ofSpans l)

namespace Screen

/-- Draw clusters from a cell on; those without a column are left out. -/
def drawGlyphs (s : Screen) (x y : Nat) : List Glyph → Screen
  | [] => s
  | g :: rest =>
    if g.width = 0 then drawGlyphs s x y rest
    else drawGlyphs (s.draw x y g.symbol g.style) (x + g.width) y rest

/-- Draw a paragraph of which a number of lines at the top is scrolled out. -/
def drawParagraph (s : Screen) (area : Rect) (lines : List (List Span)) (style : Style)
    (fitting : Fitting) (scroll : Nat) : Screen :=
  let s := s.patchArea area style
  if area.isEmpty then s
  else
    let shown := ((fitting.fit area.width lines).drop scroll).take area.height
    shown.zipIdx.foldl (fun s l => s.drawGlyphs area.x (area.y + l.2) l.1) s

end Screen

/-- The lines of a text, each one span in no style of its own; an empty text is one empty line. -/
def plainLines (text : String) : List (List Span) :=
  if text.isEmpty then [[]] else (Text.lines text).map fun l => [{ text := l }]

end PropertySheet
