import Mathlib.Data.List.Count
import Mathlib.Data.List.DropRight
import PropertySheet.Proofs.Editor.Split
import PropertySheet.Proofs.Expression.Lines
import PropertySheet.Proofs.Sheet.Popups

/-!
# The mark of the cursor

A field draws its text with a mark where the cursor is. The characters come from the segments of the
text, which give them their styles, the mark is put among them by its place, and only then are they
broken into lines. How far the text is scrolled is worked out from the text alone, by the line feeds
before the cursor.

`marksCursor_after` says that the two agree: nothing of the text is lost or moved, each character
has the style of its segment, and the line with the mark is among those that are drawn, however few
they are. What the paragraph of the text shows in a row is what the field draws on that line of the
screen, and nothing but it. The lines that are scrolled out are counted by 16 bits, which is why the
text must not have more lines than that.
-/

namespace PropertySheet

open Screen (AgreeOn ChangesOnly)

/-! ## Elements of pieces -/

section Pieces

variable {α : Type} (p : α → Bool)

/-- An element that is not split at lies in the piece whose number is how often there is a split
before it. There it stands between what follows the last split and what precedes the next one. -/
theorem getElem?_splitOnP {x : α} (hx : p x = false) (xs ys : List α) :
    ((xs ++ x :: ys).splitOnP p)[xs.countP p]? =
      some (xs.rtakeWhile (!p ·) ++ x :: ys.takeWhile (!p ·)) := by
  induction xs using List.reverseRecOn generalizing x ys with
  | nil =>
    have hfirst := head?_splitOnP p (x :: ys)
    rw [List.head?_eq_getElem?, List.takeWhile_cons_of_pos (by simp [hx])] at hfirst
    exact hfirst
  | append_singleton xs a ih =>
    rw [List.append_assoc, List.singleton_append, List.countP_append]
    cases ha : p a with
    | true =>
      have hlast : (xs ++ [a]).rtakeWhile (!p ·) = [] :=
        List.rtakeWhile_concat_neg _ _ _ (by simp [ha])
      rw [List.splitOnP_append_cons xs _ ha, List.countP_singleton, if_pos ha, ← length_splitOnP,
        getElem?_length_append, head?_splitOnP, hlast, List.takeWhile_cons_of_pos (by simp [hx])]
      rfl
    | false =>
      have hlast : (xs ++ [a]).rtakeWhile (!p ·) = xs.rtakeWhile (!p ·) ++ [a] :=
        List.rtakeWhile_concat_pos _ _ _ (by simp [ha])
      rw [List.countP_singleton, ha, if_neg Bool.false_ne_true, Nat.add_zero, ih ha, hlast,
        List.takeWhile_cons_of_pos (by simp [hx]), List.append_assoc]
      rfl

end Pieces

/-- The characters of spans. -/
def Span.chars (spans : List Span) : List Char := spans.flatMap (·.text.toList)

/-- What a text ends with, behind its last line feed. -/
def Segment.lastLine (cs : List Char) : List Char := cs.rtakeWhile (fun c => !(c == '\n'))

/-- Characters with the mark of the cursor put in at a place. -/
def markAt (place : Nat) (cs : List Char) : List Char := cs.take place ++ '│' :: cs.drop place

/-- How the characters of a segment look where a field is edited. -/
def Segment.look (s : Segment) : Style := if s.isExpression then .boldOf .cyan else .of .green

namespace TextField

/-! ## Characters with styles -/

/-- The segments of a field. Where expressions are not supported the text is one literal run. -/
def segments (f : TextField) (expressions : Bool) : List Segment :=
  if expressions then Segment.ofChars f.chars else [⟨f.chars, false⟩]

theorem join_segments (f : TextField) (expressions : Bool) :
    Segment.join (f.segments expressions) = f.chars := by
  cases expressions with
  | true => exact (Segment.ofChars_eq_iff.mp rfl).text
  | false => exact List.append_nil f.chars

/-- Characters with the styles of their segments. -/
def styled (segs : List Segment) : List (Char × Style) :=
  segs.flatMap fun s => s.chars.map (·, s.look)

theorem map_fst_styled (segs : List Segment) : (styled segs).map Prod.fst = Segment.join segs := by
  induction segs with
  | nil => rfl
  | cons s segs ih =>
    rw [Segment.join_cons, ← ih]
    simp [styled, Function.comp_def]

/-- The characters with the mark among them. -/
def marked (f : TextField) (expressions : Bool) : List (Char × Style) :=
  (styled (f.segments expressions)).take f.cursor ++
    ('│', .of .white) :: (styled (f.segments expressions)).drop f.cursor

/-- The span of a character. -/
def charSpan (c : Char × Style) : Span := { text := c.1.toString, style := c.2 }

theorem chars_map_charSpan (cs : List (Char × Style)) :
    Span.chars (cs.map charSpan) = cs.map Prod.fst := by
  induction cs with
  | nil => rfl
  | cons c cs ih =>
    show (String.singleton c.1).toList ++ Span.chars (cs.map charSpan) = c.1 :: cs.map Prod.fst
    rw [ih, String.toList_singleton]
    rfl

theorem markedSpans_eq (f : TextField) (expressions : Bool) :
    f.markedSpans expressions = (f.marked expressions).map charSpan := by
  have hspans : f.charSpans expressions = (styled (f.segments expressions)).map charSpan := by
    simp only [charSpans, styled, List.map_flatMap, List.map_map]
    rfl
  rw [markedSpans, hspans, marked, List.map_append, List.map_cons, List.map_take, List.map_drop]
  rfl

theorem lines_eq (f : TextField) (expressions : Bool) :
    breakLines (f.markedSpans expressions) =
      ((f.marked expressions).splitOnP (·.1 == '\n')).map (·.map charSpan) := by
  have hfeed : (fun s : Span => s.text == "\n") ∘ charSpan = fun c => c.1 == '\n' := by
    funext c
    show (String.singleton c.1 == String.singleton '\n') = _
    rw [Bool.eq_iff_iff, beq_iff_eq, beq_iff_eq, String.singleton_inj]
  rw [breakLines_eq, markedSpans_eq, splitOnP_map, hfeed]

/-- Among lines, a span stands right behind certain characters: in the line that comes after as many
as there are line feeds among them, behind what follows the last of these. -/
def StandsBehind (lines : List (List Span)) (ahead : List Char) (s : Span) : Prop :=
  ∃ left right, lines[ahead.count '\n']? = some (left ++ s :: right) ∧
    Span.chars left = Segment.lastLine ahead

theorem standsBehind_of_marked {f : TextField} {expressions : Bool} {xs ys : List (Char × Style)}
    {c : Char × Style} (hmarked : f.marked expressions = xs ++ c :: ys) (hc : c.1 ≠ '\n') :
    StandsBehind (breakLines (f.markedSpans expressions)) (xs.map Prod.fst) (charSpan c) := by
  have hline := getElem?_splitOnP (fun c : Char × Style => c.1 == '\n') (beq_false_of_ne hc) xs ys
  have hfeeds : (xs.map Prod.fst).count '\n' = xs.countP (·.1 == '\n') := by
    rw [List.count, List.countP_map]
    rfl
  have hpieces := congrArg (Option.map (List.map charSpan)) hline
  rw [← List.getElem?_map, ← hmarked, ← lines_eq, ← hfeeds, Option.map_some, List.map_append,
    List.map_cons] at hpieces
  refine ⟨_, _, hpieces, ?_⟩
  rw [chars_map_charSpan, Segment.lastLine, List.rtakeWhile, List.rtakeWhile,
    ← List.map_reverse, List.takeWhile_map, List.map_reverse]
  rfl

/-- The text of the lines. -/
theorem map_chars_lines (f : TextField) (expressions : Bool) :
    (breakLines (f.markedSpans expressions)).map Span.chars =
      ((f.marked expressions).map Prod.fst).splitOn '\n' := by
  rw [lines_eq, List.map_map, List.splitOn, splitOnP_map]
  refine List.map_congr_left fun line _ => ?_
  exact chars_map_charSpan line

theorem map_fst_marked (f : TextField) (expressions : Bool) :
    (f.marked expressions).map Prod.fst = markAt f.cursor f.chars := by
  rw [marked, List.map_append, List.map_cons, List.map_take, List.map_drop, map_fst_styled,
    join_segments, markAt]

/-- The mark is no character of the text, not even of one that holds such a character. -/
theorem count_mark (f : TextField) (expressions : Bool) :
    (f.marked expressions).count ('│', .of .white) = 1 := by
  have hnone : ('│', Style.of .white) ∉ styled (f.segments expressions) := by
    intro hmem
    obtain ⟨s, -, hs⟩ := List.mem_flatMap.mp hmem
    obtain ⟨c, -, hc⟩ := List.mem_map.mp hs
    have hlook : s.look = .of .white := (Prod.mk.inj hc).2
    unfold Segment.look at hlook
    split at hlook
    · exact absurd hlook (by decide)
    · exact absurd hlook (by decide)
  have htake := List.count_eq_zero_of_not_mem fun h => hnone (List.take_subset f.cursor _ h)
  have hdrop := List.count_eq_zero_of_not_mem fun h => hnone (List.drop_subset f.cursor _ h)
  rw [marked, List.count_append, List.count_cons_self, htake, hdrop]

theorem charSpan_injective : Function.Injective charSpan := by
  intro c d h
  have htext : String.singleton c.1 = String.singleton d.1 := congrArg Span.text h
  exact Prod.ext (String.singleton_inj.mp htext) (congrArg Span.style h)

/-- Breaking the text into lines takes away line feeds, and the mark is none. -/
theorem count_cursorSpan (f : TextField) (expressions : Bool) :
    (breakLines (f.markedSpans expressions)).flatten.count cursorSpan = 1 := by
  rw [lines_eq, ← List.map_flatten, flatten_splitOnP]
  have hmark := List.count_map_of_injective
    ((f.marked expressions).filter (!·.1 == '\n')) charSpan charSpan_injective ('│', .of .white)
  have hkept := List.count_filter (p := (!·.1 == '\n')) (a := ('│', Style.of .white))
    (l := f.marked expressions) (by decide)
  exact hmark.trans (hkept.trans (f.count_mark expressions))

/-- Characters behind others that are before the mark are before it too, and the mark comes among
the others if it does not come behind them. -/
theorem exists_marked_eq {f : TextField} {expressions : Bool} {xs ys : List (Char × Style)}
    {c : Char × Style} (hstyled : styled (f.segments expressions) = xs ++ c :: ys) :
    ∃ left right, f.marked expressions = left ++ c :: right ∧
      left.map Prod.fst = if xs.length < f.cursor then xs.map Prod.fst
        else markAt f.cursor (xs.map Prod.fst) := by
  rw [marked, hstyled]
  split
  · next hbefore =>
    -- The mark comes behind the character, among what follows it.
    obtain ⟨more, hmore⟩ := Nat.exists_eq_add_of_lt hbefore
    refine ⟨xs, ys.take more ++ ('│', .of .white) :: ys.drop more, ?_, rfl⟩
    rw [hmore, Nat.add_assoc, List.take_length_add_append, List.drop_length_add_append,
      List.take_succ_cons, List.drop_succ_cons, List.append_assoc, List.cons_append]
  · next hbehind =>
    have hle : f.cursor ≤ xs.length := Nat.le_of_not_lt hbehind
    refine ⟨xs.take f.cursor ++ ('│', .of .white) :: xs.drop f.cursor, ys, ?_, ?_⟩
    · rw [List.take_append_of_le_length hle, List.drop_append_of_le_length hle, List.append_assoc,
        List.cons_append]
    · rw [List.map_append, List.map_cons, List.map_take, List.map_drop, markAt]

/-- The characters ahead of one in a segment are those of the segments before it and of its own. -/
theorem styled_eq_of_segments {segs before behind : List Segment} {s : Segment}
    {xs ys : List Char} {c : Char} (hsegs : segs = before ++ s :: behind)
    (hchars : s.chars = xs ++ c :: ys) :
    ∃ left right, styled segs = left ++ (c, s.look) :: right ∧
      left.map Prod.fst = Segment.join before ++ xs := by
  refine ⟨styled before ++ xs.map (·, s.look), ys.map (·, s.look) ++ styled behind, ?_, ?_⟩
  · simp [hsegs, styled, hchars]
  · rw [List.map_append, map_fst_styled, List.map_map]
    exact congrArg _ (List.map_id xs)

theorem cursorLine_le (f : TextField) : f.cursorLine ≤ f.chars.count '\n' :=
  (List.take_sublist f.cursor f.chars).count_le '\n'

/-- The cursor of a field that is in use is a place in its text. -/
theorem cursor_after_load_le (value : Option String) (sensitive : Bool) (edits : List TextEdit) :
    ((load value sensitive).after edits).cursor ≤
      ((load value sensitive).after edits).chars.length := by
  have hconceals := SplitField.conceals_load value sensitive
  rw [← SplitField.toField_load, SplitField.toField_after hconceals]
  exact SplitField.cursor_toField_le _

/-- A row of a field as it is drawn on its line of the screen. The style of a placeholder is that of
the whole text, and the styles of its characters are added to it. -/
def drawnRow (f : TextField) (area : Rect) (row : Nat) (gs : List Glyph) (s : Screen) : Screen :=
  (s.patchArea { area with height := area.height - 2 }
    (if f.placeholder then .italicOf .darkGray else {})).drawGlyphs area.x (area.y + row) gs

/-- What there is to say of the lines in which a field draws its text and the mark of the cursor. -/
structure MarksCursor (f : TextField) (expressions : Bool) (lines : List (List Span)) : Prop where
  place : f.cursor ≤ f.chars.length
  /-- Put together again, the lines are the text with the mark at the cursor. -/
  text : ['\n'].intercalate (lines.map Span.chars) = markAt f.cursor f.chars
  unbroken : ∀ line ∈ lines, '\n' ∉ Span.chars line
  /-- Every character of a segment but a line feed is drawn at its place, and looks like the
  segment. -/
  styles : ∀ before s behind xs c ys, f.segments expressions = before ++ s :: behind →
    s.chars = xs ++ c :: ys → c ≠ '\n' →
    StandsBehind lines
      (if (Segment.join before ++ xs).length < f.cursor then Segment.join before ++ xs
        else markAt f.cursor (Segment.join before ++ xs))
      { text := c.toString, style := s.look }
  /-- The mark is drawn once, in the line after as many as there are line feeds before the cursor.
  -/
  mark : StandsBehind lines (f.chars.take f.cursor) cursorSpan
  once : lines.flatten.count cursorSpan = 1
  /-- Of a text with fewer than 65536 lines, however low the area, the line with the mark is among
  the rows that are shown. -/
  shown : ∀ area : Rect, 3 ≤ area.height → f.chars.count '\n' + 1 < 65536 →
    ∃ line, lines[f.cursorLine]? = some line ∧ cursorSpan ∈ line ∧
      ∃ st ∈ f.strokes expressions area, ∃ row < area.height - 2,
        st.shown[row]? = some (cutLine area.width 0 (Glyph.ofSpans line))
  /-- Whatever is on the screen, a row that is shown is what the field draws on its line, and nothing
  else is drawn there. -/
  drawn : ∀ area : Rect, ∀ st ∈ f.strokes expressions area, ∀ row gs, st.shown[row]? = some gs →
    ∀ s, AgreeOn (onLine (area.y + row)) (f.drawnRow area row gs s) (f.draw expressions area s)

/-- A line that the text is scrolled for is shown in the last row, and one that it is not scrolled
for in its own. -/
theorem shown_cursorLine {f : TextField} {expressions : Bool} {area : Rect} {line : List Span}
    (hheight : 3 ≤ area.height) (hlines : f.chars.count '\n' + 1 < 65536)
    (hline : (breakLines (f.markedSpans expressions))[f.cursorLine]? = some line) :
    ∃ st ∈ f.strokes expressions area, ∃ row < area.height - 2,
      st.shown[row]? = some (cutLine area.width 0 (Glyph.ofSpans line)) := by
  have hcount := f.cursorLine_le
  -- So few lines are scrolled out that their number is a coordinate.
  have hscroll : asCoordinate (f.cursorLine - (area.height - 2 - 1)) =
      f.cursorLine - (area.height - 2 - 1) := Nat.mod_eq_of_lt (by omega)
  have hrow : f.cursorLine - (f.cursorLine - (area.height - 2 - 1)) < area.height - 2 := by omega
  refine ⟨_, List.mem_cons_self, _, hrow, ?_⟩
  have hplace : f.cursorLine - (area.height - 2 - 1) +
      (f.cursorLine - (f.cursorLine - (area.height - 2 - 1))) = f.cursorLine := by omega
  simp only [Stroke.shown, hscroll, Fitting.fit, List.getElem?_take_of_lt hrow, List.getElem?_drop,
    hplace, List.getElem?_map, hline, Option.map_some]

/-- The box for an empty value and the keys are drawn below the rows. -/
theorem agreeOn_draw_of_shown {f : TextField} {expressions : Bool} {area : Rect} {st : Stroke}
    {row : Nat} {gs : List Glyph} (hst : st ∈ f.strokes expressions area)
    (h : st.shown[row]? = some gs) (s : Screen) :
    AgreeOn (onLine (area.y + row)) (f.drawnRow area row gs s) (f.draw expressions area s) := by
  rw [draw_eq_paint, strokes]
  simp only [strokes, List.mem_cons, List.not_mem_nil, or_false] at hst
  rcases hst with rfl | rfl | rfl
  · have hrow : row < area.height - 2 := (Stroke.row_of_shown h).1
    have hbelow : ∀ y columns text style, area.bottom - 2 ≤ y → ∀ s : Screen,
        AgreeOn (onLine (area.y + row)) s (s.writeAtMost area.x y columns text style).1 := by
      intro y columns text style hy s
      have hline : ChangesOnly (onLine y) s (s.writeAtMost area.x y columns text style).1 := by
        refine Screen.changesOnly_writeAtMost (fun x' _ _ => ?_) style
        rfl
      refine hline.agreeOn fun x' y' hhere hother => ?_
      simp only [onLine, Rect.bottom] at hhere hother hy
      omega
    have htext := Stroke.agreeOn_draw_of_shown h s
    have hkeys : area.bottom - 2 ≤ area.bottom - 1 := by omega
    exact (htext.trans (hbelow _ _ _ _ (Nat.le_refl _) _)).trans (hbelow _ _ _ _ hkeys _)
  · cases h
  · cases h

/-! ## The drawn field -/

/-- Whatever a user does to a text, the lines it is drawn in are the text with the mark of the
cursor, in the styles of its segments, and the mark is in view: the rows are drawn as they are
shown. -/
theorem marksCursor_after (value : Option String) (sensitive : Bool) (edits : List TextEdit)
    (expressions : Bool) :
    MarksCursor ((load value sensitive).after edits) expressions
      (breakLines (((load value sensitive).after edits).markedSpans expressions)) := by
  have hplace := cursor_after_load_le value sensitive edits
  generalize (load value sensitive).after edits = f at hplace ⊢
  have hmark : StandsBehind (breakLines (f.markedSpans expressions)) (f.chars.take f.cursor)
      cursorSpan := by
    have hmarked : f.marked expressions = (styled (f.segments expressions)).take f.cursor ++
        ('│', .of .white) :: (styled (f.segments expressions)).drop f.cursor := rfl
    have hbehind := standsBehind_of_marked hmarked (by decide)
    rwa [List.map_take, map_fst_styled, join_segments] at hbehind
  refine
    { place := hplace, text := ?_, unbroken := ?_, styles := ?_, mark := hmark, once := ?_,
      shown := ?_, drawn := ?_ }
  · rw [map_chars_lines, map_fst_marked, List.intercalate_splitOn]
  · -- The pieces of a split are together what is left when the line feeds are dropped.
    intro line hline hfeed
    have hpiece := List.mem_map_of_mem (f := Span.chars) hline
    rw [map_chars_lines] at hpiece
    have hkept := List.mem_flatten_of_mem hpiece hfeed
    rw [List.splitOn_eq_splitOnP, flatten_splitOnP] at hkept
    exact absurd (List.of_mem_filter hkept) (by decide)
  · intro before s behind xs c ys hsegs hchars hc
    obtain ⟨left, right, hstyled, hahead⟩ := styled_eq_of_segments hsegs hchars
    obtain ⟨left', right', hmarked, hahead'⟩ := exists_marked_eq hstyled
    have hlength : left.length = (Segment.join before ++ xs).length := by
      rw [← hahead, List.length_map]
    have hbehind := standsBehind_of_marked hmarked hc
    rwa [hahead', hlength, hahead] at hbehind
  · exact count_cursorSpan f expressions
  · intro area hheight hlines
    obtain ⟨left, right, hline, -⟩ := hmark
    exact ⟨_, hline, List.mem_append_right _ List.mem_cons_self,
      shown_cursorLine hheight hlines hline⟩
  · exact fun area st hst row gs hshown s => agreeOn_draw_of_shown hst hshown s

/-- An expression over two lines, with the cursor in the second of them. -/
def brokenExpression : TextField :=
  (load (some "a\n$\x7bb\nc\x7d") false).after [.moveLeft, .moveLeft]

/-- The last line of the expression, as it is drawn. -/
def brokenExpressionEnd : List Span :=
  [cursorSpan, { text := "c", style := .boldOf .cyan }, { text := "\x7d", style := .boldOf .cyan }]

/-- Where there is room for one row, that row is the line with the mark, on whatever screen. -/
theorem marksCursor_after_brokenExpression :
    let area : Rect := { width := 9, height := 3 }
    let row := cutLine 9 0 (Glyph.ofSpans brokenExpressionEnd)
    3 ≤ area.height ∧ brokenExpression.chars.count '\n' + 1 < 65536 ∧
      ∃ st ∈ brokenExpression.strokes true area, st.shown[0]? = some row ∧
        ∀ s, AgreeOn (onLine 0) (brokenExpression.drawnRow area 0 row s)
          (brokenExpression.draw true area s) := by
  intro area endRow
  have hfew : brokenExpression.chars.count '\n' + 1 < 65536 := by decide
  have hmarks := marksCursor_after (some "a\n$\x7bb\nc\x7d") false [.moveLeft, .moveLeft] true
  obtain ⟨line, hline, -, st, hst, row, hrow, hshown⟩ := hmarks.shown area (by decide) hfew
  have hend : (breakLines (brokenExpression.markedSpans true))[brokenExpression.cursorLine]? =
      some brokenExpressionEnd := by decide
  obtain rfl := Option.some.inj (hline.symm.trans hend)
  obtain rfl : row = 0 := Nat.lt_one_iff.mp hrow
  exact ⟨Nat.le_refl 3, hfew, st, hst, hshown, hmarks.drawn area st hst 0 endRow hshown⟩

end TextField

end PropertySheet
