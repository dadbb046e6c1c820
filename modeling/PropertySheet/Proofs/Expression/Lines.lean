import Mathlib.Data.List.TakeWhile
import PropertySheet.Dialog.ValueDetail
import PropertySheet.Editor.Draw
import PropertySheet.Proofs.Expression.Segmentation

/-!
# Expressions that span lines

The field that a text is edited in looks for expressions in the whole text, and breaks the text into
lines afterwards. The detail of a value breaks the text into lines first, and looks for expressions
in each line. An expression may hold line feeds, and the line behind one of them begins inside of
the expression; the detail takes each line to begin outside.

So the two agree on a line that begins outside of all expressions. On one that begins inside they
part at its first character, unless the line happens to begin with an opening.
-/

namespace PropertySheet

/-! ## Pieces of a list -/

section Pieces

variable {α β : Type}

theorem getElem?_length_append (xs ys : List α) : (xs ++ ys)[xs.length]? = ys.head? := by
  rw [List.getElem?_append_right (Nat.le_refl _), Nat.sub_self, List.head?_eq_getElem?]

/-- The first piece goes as far as there is nothing to split at. -/
theorem head?_splitOnP (p : α → Bool) (xs : List α) :
    (xs.splitOnP p).head? = some (xs.takeWhile (!p ·)) := by
  induction xs with
  | nil => rfl
  | cons x xs ih =>
    rw [List.splitOnP_cons_eq_if_modifyHead, List.takeWhile_cons]
    cases hx : p x with
    | true => simp
    | false => simp [List.head?_modifyHead, ih]

theorem length_splitOnP (p : α → Bool) (xs : List α) :
    (xs.splitOnP p).length = xs.countP p + 1 := by
  induction xs with
  | nil => rfl
  | cons x xs ih =>
    rw [List.splitOnP_cons_eq_if_modifyHead, List.countP_cons]
    cases hx : p x with
    | true => simp [ih]
    | false => simp [ih]

theorem splitOnP_map (p : β → Bool) (f : α → β) (xs : List α) :
    (xs.map f).splitOnP p = (xs.splitOnP (p ∘ f)).map (·.map f) := by
  induction xs with
  | nil => rfl
  | cons x xs ih =>
    rw [List.map_cons, List.splitOnP_cons_eq_if_modifyHead, List.splitOnP_cons_eq_if_modifyHead, ih]
    cases hx : p (f x) with
    | true => simp [hx]
    | false =>
      obtain ⟨y, ys, hy⟩ := List.exists_cons_of_ne_nil (List.splitOnP_ne_nil (p ∘ f) xs)
      simp [hx, hy]

theorem splitOnP_filter (p q : α → Bool) (h : ∀ x, p x → q x) (xs : List α) :
    (xs.filter q).splitOnP p = (xs.splitOnP p).map (·.filter q) := by
  induction xs with
  | nil => rfl
  | cons x xs ih =>
    rw [List.splitOnP_cons_eq_if_modifyHead, List.filter_cons]
    cases hx : p x with
    | true => simp [h x hx, List.splitOnP_cons_eq_if_modifyHead, hx, ih]
    | false =>
      obtain ⟨y, ys, hy⟩ := List.exists_cons_of_ne_nil (List.splitOnP_ne_nil p xs)
      cases hq : q x <;> simp [List.splitOnP_cons_eq_if_modifyHead, hx, ih, hy, hq]

/-- The pieces have all elements but those that the list is split at. -/
theorem flatten_splitOnP (p : α → Bool) (xs : List α) :
    (xs.splitOnP p).flatten = xs.filter (!p ·) := by
  induction xs with
  | nil => rfl
  | cons x xs ih =>
    obtain ⟨piece, pieces, hpieces⟩ := List.exists_cons_of_ne_nil (List.splitOnP_ne_nil p xs)
    rw [hpieces] at ih
    rw [List.splitOnP_cons_eq_if_modifyHead, hpieces]
    cases hx : p x with
    | true => simp [hx, ← ih]
    | false => simp [hx, ← ih]

end Pieces

namespace Segment

/-! ## Characters inside of expressions -/

/-- The characters of segments, and whether each lies in an expression. -/
def marks (segs : List Segment) : List (Char × Bool) :=
  segs.flatMap fun s => s.chars.map (·, s.isExpression)

/-- The characters of a text, and whether each lies in an expression. The text begins inside of one
or outside. -/
def marksFrom : Option Nesting → List Char → List (Char × Bool)
  | _, [] => []
  | none, '$' :: '$' :: rest => ('$', false) :: ('$', false) :: marksFrom none rest
  | none, '$' :: '\x7b' :: rest => ('$', true) :: ('\x7b', true) :: marksFrom (some {}) rest
  | none, c :: rest => (c, false) :: marksFrom none rest
  | some n, c :: rest => (c, true) :: marksFrom (n.next c) rest

/-- The nesting of an unfinished run; a literal run has none. -/
def Run.nesting? : Run → Option Nesting
  | .literal _ => none
  | .expression _ n => some n

theorem marks_cons (s : Segment) (segs : List Segment) :
    marks (s :: segs) = s.chars.map (·, s.isExpression) ++ marks segs := rfl

theorem marks_append (xs ys : List Segment) : marks (xs ++ ys) = marks xs ++ marks ys :=
  List.flatMap_append

@[simp]
theorem marks_finish_literal (reversed : List Char) :
    marks (Run.literal reversed).finish = reversed.reverse.map (·, false) := by
  cases reversed with
  | nil => rfl
  | cons c reversed => simp [Run.finish, marks]

@[simp]
theorem marks_finish_expression (reversed : List Char) (n : Nesting) :
    marks (Run.expression reversed n).finish = reversed.reverse.map (·, true) := by
  simp [Run.finish, marks]

theorem marksFrom_of_passes {c : Char} {rest : List Char} (h : Passes c rest) :
    marksFrom none (c :: rest) = (c, false) :: marksFrom none rest := by
  rw [marksFrom]
  · rintro rest' rfl rfl
    exact (h rfl).1 rfl
  · rintro rest' rfl rfl
    exact (h rfl).2 rfl

theorem marks_cut (run : Run) (cs : List Char) :
    marks (cut run cs) = marks run.finish ++ marksFrom run.nesting? cs := by
  fun_induction cut run cs with
  | case1 run => rw [marksFrom, List.append_nil]
  | case2 reversed rest ih =>
    rw [ih]
    simp [Run.nesting?, marksFrom]
  | case3 reversed rest ih =>
    rw [marks_append, ih]
    simp [Run.nesting?, marksFrom]
  | case4 reversed c rest hpair hopening ih =>
    rw [ih]
    simp [Run.nesting?, marksFrom]
  | case5 reversed n c rest hnext ih =>
    rw [marks_cons, ih]
    simp [Run.nesting?, marksFrom, hnext]
  | case6 reversed n c rest n' hnext ih =>
    rw [ih]
    simp [Run.nesting?, marksFrom, hnext]

/-- The marks of a text are those of its segments. -/
theorem marks_ofChars (cs : List Char) : marks (ofChars cs) = marksFrom none cs :=
  marks_cut (.literal []) cs

theorem map_fst_marksFrom (n : Option Nesting) (cs : List Char) :
    (marksFrom n cs).map Prod.fst = cs := by
  fun_induction marksFrom n cs with
  | case1 => rfl
  | case2 rest ih => rw [List.map_cons, List.map_cons, ih]
  | case3 rest ih => rw [List.map_cons, List.map_cons, ih]
  | case4 c rest hpair hopening ih => rw [List.map_cons, ih]
  | case5 n c rest ih => rw [List.map_cons, ih]

theorem length_marksFrom (n : Option Nesting) (cs : List Char) :
    (marksFrom n cs).length = cs.length := by
  rw [← List.length_map (f := Prod.fst), map_fst_marksFrom]

/-- A line feed stands between what is read before it and what is read behind it. All that gets
from one to the other is whether the line feed lies in an expression, and in which nesting. -/
theorem exists_marksFrom_feed (n : Option Nesting) (before : List Char) :
    ∃ n' : Option Nesting, ∀ behind, marksFrom n (before ++ '\n' :: behind) =
      marksFrom n before ++ ('\n', n'.isSome) :: marksFrom n' behind := by
  fun_induction marksFrom n before with
  | case1 n =>
    cases n with
    | none => exact ⟨none, fun behind => by simp [marksFrom]⟩
    | some n =>
      cases hnext : n.next '\n' with
      | none => exact absurd (Nesting.eq_of_next_eq_none hnext) (by decide)
      | some n' => exact ⟨some n', fun behind => by simp [marksFrom, hnext]⟩
  | case2 rest ih =>
    obtain ⟨n', hread⟩ := ih
    exact ⟨n', fun behind => by simp [marksFrom, hread]⟩
  | case3 rest ih =>
    obtain ⟨n', hread⟩ := ih
    exact ⟨n', fun behind => by simp [marksFrom, hread]⟩
  | case4 c rest hpair hopening ih =>
    obtain ⟨n', hread⟩ := ih
    refine ⟨n', fun behind => ?_⟩
    have hpasses : Passes c (rest ++ '\n' :: behind) := by
      intro hc
      cases rest with
      | nil => exact ⟨by simp, by simp⟩
      | cons d rest =>
        exact ⟨fun hd => hpair rest hc (by rw [Option.some.inj hd]),
          fun hd => hopening rest hc (by rw [Option.some.inj hd])⟩
    rw [List.cons_append, marksFrom_of_passes hpasses, hread, List.cons_append]
  | case5 n c rest ih =>
    obtain ⟨n', hread⟩ := ih
    exact ⟨n', fun behind => by simp [marksFrom, hread]⟩

/-! ## Lines of marked characters -/

/-- The lines of marked characters. -/
def markedLines (ms : List (Char × Bool)) : List (List (Char × Bool)) :=
  ms.splitOnP (·.1 == '\n')

/-- The lines of a text, each marked as if it were all there is. -/
def linesMarked (cs : List Char) : List (List (Char × Bool)) :=
  (cs.splitOnP (· == '\n')).map (marksFrom none)

/-- The line that a text begins with. -/
def firstLine (cs : List Char) : List Char := cs.takeWhile (fun c => !(c == '\n'))

/-- Behind the first line the text is over, or there is a line feed. -/
theorem eq_firstLine_append (cs : List Char) :
    cs = firstLine cs ∨ ∃ behind, cs = firstLine cs ++ '\n' :: behind := by
  have hsplit := List.takeWhile_append_dropWhile (p := (fun c => !(c == '\n'))) (l := cs)
  cases hrest : cs.dropWhile (fun c => !(c == '\n')) with
  | nil =>
    rw [hrest, List.append_nil] at hsplit
    exact .inl hsplit.symm
  | cons c behind =>
    have hc := List.head?_dropWhile_not (fun c => !(c == '\n')) cs
    rw [hrest] at hc hsplit
    obtain rfl : c = '\n' := by simpa using hc
    exact .inr ⟨behind, hsplit.symm⟩

theorem not_mem_firstLine (cs : List Char) : '\n' ∉ firstLine cs :=
  fun h => by simpa using List.mem_takeWhile_imp h

theorem beq_of_mem_marksFrom {n : Option Nesting} {line : List Char} (h : '\n' ∉ line) :
    ∀ m ∈ marksFrom n line, (m.1 == '\n') = false := by
  intro m hm
  have hc : m.1 ∈ line := by
    rw [← map_fst_marksFrom n line]
    exact List.mem_map_of_mem hm
  exact beq_false_of_ne (ne_of_mem_of_not_mem hc h)

/-- Marks do not change where the first line ends. -/
theorem takeWhile_marksFrom (n : Option Nesting) (cs : List Char) :
    (marksFrom n cs).takeWhile (fun m => !(m.1 == '\n')) = marksFrom n (firstLine cs) := by
  have hline : ∀ m ∈ marksFrom n (firstLine cs), (!(m.1 == '\n')) = true := by
    intro m hm
    rw [beq_of_mem_marksFrom (not_mem_firstLine cs) m hm]
    rfl
  rcases eq_firstLine_append cs with hcs | ⟨behind, hcs⟩
  · conv => lhs; rw [hcs]
    exact List.takeWhile_eq_self_iff.mpr hline
  · obtain ⟨n', hread⟩ := exists_marksFrom_feed n (firstLine cs)
    conv => lhs; rw [hcs, hread]
    rw [List.takeWhile_append_of_pos hline]
    simp

theorem head?_markedLines (n : Option Nesting) (cs : List Char) :
    (markedLines (marksFrom n cs)).head? = some (marksFrom n (firstLine cs)) := by
  rw [markedLines, head?_splitOnP, takeWhile_marksFrom]

theorem head?_linesMarked (cs : List Char) :
    (linesMarked cs).head? = some (marksFrom none (firstLine cs)) := by
  rw [linesMarked, List.head?_map, head?_splitOnP, Option.map_some]
  rfl

theorem markedLines_feed (xs ys : List (Char × Bool)) (m : Bool) :
    markedLines (xs ++ ('\n', m) :: ys) = markedLines xs ++ markedLines ys :=
  List.splitOnP_append_cons xs ys rfl

theorem linesMarked_feed (xs ys : List Char) :
    linesMarked (xs ++ '\n' :: ys) = linesMarked xs ++ linesMarked ys := by
  rw [linesMarked, List.splitOnP_append_cons xs ys (by rfl), List.map_append]
  rfl

theorem length_markedLines (n : Option Nesting) (cs : List Char) :
    (markedLines (marksFrom n cs)).length = cs.count '\n' + 1 := by
  rw [markedLines, length_splitOnP]
  conv => rhs; rw [← map_fst_marksFrom n cs, List.count, List.countP_map]
  rfl

theorem length_linesMarked (cs : List Char) : (linesMarked cs).length = cs.count '\n' + 1 := by
  rw [linesMarked, List.length_map, length_splitOnP]
  rfl

/-- The line behind a line feed comes after as many as there are before it. -/
theorem getElem?_linesMarked (before behind : List Char) :
    (linesMarked (before ++ '\n' :: behind))[before.count '\n' + 1]? =
      some (marksFrom none (firstLine behind)) := by
  rw [linesMarked_feed, ← length_linesMarked, getElem?_length_append, head?_linesMarked]

theorem getElem?_markedLines (n n' : Option Nesting) (before behind : List Char) (m : Bool) :
    (markedLines (marksFrom n before ++ ('\n', m) :: marksFrom n' behind))[before.count '\n' + 1]? =
      some (marksFrom n' (firstLine behind)) := by
  rw [markedLines_feed, ← length_markedLines n, getElem?_length_append, head?_markedLines]

/-- A line that is marked alike from inside of an expression and from outside is empty or begins
with an opening. -/
theorem eq_nil_or_opens_of_marksFrom_eq {n : Nesting} {line : List Char}
    (h : marksFrom none line = marksFrom (some n) line) : line = [] ∨ opening <+: line := by
  obtain ⟨⟩ | ⟨rest⟩ | ⟨rest⟩ | ⟨hpasses⟩ := begins line
  · exact .inl rfl
  · simp [marksFrom] at h
  · exact .inr (List.prefix_append _ _)
  · rw [marksFrom_of_passes hpasses] at h
    simp [marksFrom] at h

theorem map_fst_linesMarked (cs : List Char) :
    (linesMarked cs).map (·.map Prod.fst) = cs.splitOnP (· == '\n') := by
  rw [linesMarked, List.map_map]
  exact List.map_id'' (map_fst_marksFrom none) _

theorem map_fst_markedLines (n : Option Nesting) (cs : List Char) :
    (markedLines (marksFrom n cs)).map (·.map Prod.fst) = cs.splitOnP (· == '\n') := by
  conv => rhs; rw [← map_fst_marksFrom n cs, splitOnP_map]
  rfl

theorem linesMarked_of_line {line : List Char} (h : '\n' ∉ line) :
    linesMarked line = markedLines (marksFrom none line) := by
  have hline : ∀ c ∈ line, (c == '\n') = false := fun c hc =>
    beq_false_of_ne (ne_of_mem_of_not_mem hc h)
  rw [linesMarked, markedLines, List.splitOnP_eq_singleton hline,
    List.splitOnP_eq_singleton (beq_of_mem_marksFrom h), List.map_singleton]

/-- So the text is over at the line, or goes on with a line feed or an opening. -/
theorem eq_nil_or_feed_or_opens_of_marksFrom_eq {n : Nesting} {cs : List Char}
    (h : marksFrom none (firstLine cs) = marksFrom (some n) (firstLine cs)) :
    cs = [] ∨ ['\n'] <+: cs ∨ opening <+: cs := by
  have hline := eq_nil_or_opens_of_marksFrom_eq h
  have hsplit := eq_firstLine_append cs
  generalize firstLine cs = line at hline hsplit
  rcases hline with rfl | hopening
  · rcases hsplit with rfl | ⟨behind, rfl⟩
    · exact .inl rfl
    · exact .inr (.inl ⟨behind, rfl⟩)
  · rcases hsplit with rfl | ⟨behind, rfl⟩
    · exact .inr (.inr hopening)
    · exact .inr (.inr (hopening.trans (List.prefix_append _ _)))

/-- Where no line feed lies in an expression, each line is marked as in the whole text. -/
theorem linesMarked_eq {cs : List Char} (h : ∀ b, ('\n', b) ∈ marksFrom none cs → b = false) :
    linesMarked cs = markedLines (marksFrom none cs) := by
  induction hlength : cs.length using Nat.strongRecOn generalizing cs with
  | _ length ih =>
    have hline := not_mem_firstLine cs
    have hsplit := eq_firstLine_append cs
    generalize firstLine cs = line at hline hsplit
    rcases hsplit with rfl | ⟨behind, rfl⟩
    · exact linesMarked_of_line hline
    · obtain ⟨n, hread⟩ := exists_marksFrom_feed none line
      rw [hread] at h ⊢
      have hn : n = none := by
        simpa using h n.isSome (List.mem_append_right _ List.mem_cons_self)
      subst hn
      rw [List.length_append, List.length_cons] at hlength
      have hbehind := ih behind.length (by omega)
        (fun b hb => h b (List.mem_append_right _ (List.mem_cons_of_mem _ hb))) rfl
      rw [linesMarked_feed, markedLines_feed, linesMarked_of_line hline, hbehind]

theorem mem_marks {c : Char} {b : Bool} {segs : List Segment} :
    (c, b) ∈ marks segs ↔ ∃ s ∈ segs, c ∈ s.chars ∧ s.isExpression = b := by
  simp [marks]

end Segment

/-! ## Lines drawn -/

/-- The characters of spans, and whether each has the color of expressions. -/
def Span.colored (spans : List Span) : List (Char × Bool) :=
  spans.flatMap fun s => s.text.toList.map (·, s.style.color = some .cyan)

/-- The lines of a detail, and which of their characters have the color of expressions. -/
def ValueDetail.colored (d : ValueDetail) (columns : Nat) : List (List (Char × Bool)) :=
  (d.lines columns).map Span.colored

/-- The lines of a field that highlights expressions, without the mark of the cursor, and which of
their characters have the color of expressions. -/
def TextField.colored (f : TextField) : List (List (Char × Bool)) :=
  (breakLines (f.markedSpans true)).map fun line =>
    Span.colored (line.filter (· ≠ cursorSpan))

theorem splitChars_eq (p : Char → Bool) (cs : List Char) :
    Text.splitChars p cs = cs.splitOnP p := by
  induction cs with
  | nil => rfl
  | cons c cs ih =>
    obtain ⟨line, more, hmore⟩ := List.exists_cons_of_ne_nil (List.splitOnP_ne_nil p cs)
    rw [Text.splitChars, ih, List.splitOnP_cons_eq_if_modifyHead, hmore]
    rfl

namespace ValueDetail

theorem colored_textLine (cs : List Char) :
    Span.colored (textLine true (String.ofList cs)) = Segment.marksFrom none cs := by
  rw [← Segment.marks_ofChars]
  simp only [textLine, if_true, Span.colored, List.flatMap_map, Segment.marks, Segment.ofText,
    Segment.text, String.toList_ofList, segmentStyle, Style.of]
  congr 1
  funext s
  cases s.isExpression <;> simp

/-- A detail marks each line on its own. -/
theorem colored_text (title : String) (cs : List Char) (columns : Nat) :
    colored ⟨title, .text (String.ofList cs) true⟩ columns = Segment.linesMarked cs := by
  simp only [colored, lines, Text.splitLines, String.toList_ofList, List.map_map, splitChars_eq,
    Segment.linesMarked]
  exact List.map_congr_left fun line _ => colored_textLine line

end ValueDetail

namespace TextField

/-- The span of a marked character. -/
def markSpan (m : Char × Bool) : Span :=
  { text := m.1.toString, style := if m.2 then .boldOf .cyan else .of .green }

theorem charSpans_eq (f : TextField) :
    f.charSpans true = (Segment.marksFrom none f.chars).map markSpan := by
  rw [← Segment.marks_ofChars]
  simp only [charSpans, if_true, Segment.marks, List.map_flatMap, List.map_map]
  rfl

theorem breakLines_eq (spans : List Span) : breakLines spans = spans.splitOnP (·.text == "\n") := by
  induction spans with
  | nil => rfl
  | cons s spans ih =>
    obtain ⟨line, more, hmore⟩ :=
      List.exists_cons_of_ne_nil (List.splitOnP_ne_nil (fun s : Span => s.text == "\n") spans)
    rw [breakLines, ih, List.splitOnP_cons_eq_if_modifyHead, hmore]
    simp

theorem colored_markSpan (ms : List (Char × Bool)) : Span.colored (ms.map markSpan) = ms := by
  induction ms with
  | nil => rfl
  | cons m ms ih =>
    have hmark : (markSpan m).text.toList.map (·, decide ((markSpan m).style.color = some .cyan)) =
        [m] := by
      obtain ⟨c, b⟩ := m
      cases b <;> simp [markSpan, Style.of, Style.boldOf]
    rw [List.map_cons, Span.colored, List.flatMap_cons, hmark, List.singleton_append]
    exact congrArg _ ih

/-- The mark of the cursor is no character of the text. -/
theorem filter_markedSpans (f : TextField) :
    (f.markedSpans true).filter (· ≠ cursorSpan) = f.charSpans true := by
  have hchars : ∀ s ∈ f.charSpans true, decide (s ≠ cursorSpan) = true := by
    intro s hs
    rw [charSpans_eq] at hs
    obtain ⟨⟨c, b⟩, -, rfl⟩ := List.mem_map.mp hs
    cases b <;> simp [markSpan, cursorSpan, Style.of, Style.boldOf]
  have htake := List.filter_eq_self.mpr fun s hs => hchars s (List.take_subset f.cursor _ hs)
  have hdrop := List.filter_eq_self.mpr fun s hs => hchars s (List.drop_subset f.cursor _ hs)
  rw [markedSpans, List.filter_append, List.filter_cons_of_neg (by simp), htake, hdrop,
    List.take_append_drop]

/-- A field marks the whole text. -/
theorem colored_eq (f : TextField) :
    f.colored = Segment.markedLines (Segment.marksFrom none f.chars) := by
  have hfeed : ∀ s : Span, (s.text == "\n") = true → decide (s ≠ cursorSpan) = true := by
    rintro s hs
    have hne : s ≠ cursorSpan := by
      rintro rfl
      exact absurd hs (by decide)
    exact decide_eq_true hne
  have hsame : (fun s : Span => s.text == "\n") ∘ markSpan = fun m => m.1 == '\n' := by
    funext m
    show (String.singleton m.1 == String.singleton '\n') = _
    rw [Bool.eq_iff_iff, beq_iff_eq, beq_iff_eq, String.singleton_inj]
  calc f.colored = ((breakLines (f.markedSpans true)).map (·.filter (· ≠ cursorSpan))).map
        Span.colored := List.map_map.symm
    _ = ((f.charSpans true).splitOnP (·.text == "\n")).map Span.colored := by
        rw [breakLines_eq, ← splitOnP_filter _ _ hfeed, filter_markedSpans]
    _ = ((Segment.markedLines (Segment.marksFrom none f.chars)).map (·.map markSpan)).map
          Span.colored := by
        rw [charSpans_eq, splitOnP_map, hsame]
        rfl
    _ = Segment.markedLines (Segment.marksFrom none f.chars) := by
        rw [List.map_map]
        exact List.map_id'' colored_markSpan _

/-- The detail of a text and a field that it is edited in, wherever the cursor is, have the same
characters on the same lines. The field colors those that lie in an expression of the whole text.
The detail does so on the first line and on each line behind a line feed that lies in no expression.
Behind a line feed that lies in one it does so at most where the line is empty or begins with an
opening. So where no expression holds a line feed the two agree. -/
theorem detail_colored (f : TextField) (title : String) (columns : Nat) :
    let marks := Segment.marks (Segment.ofChars f.chars)
    let detail := ValueDetail.colored ⟨title, .text f.text true⟩ columns
    f.colored = marks.splitOnP (·.1 == '\n') ∧
    detail.map (·.map Prod.fst) = f.colored.map (·.map Prod.fst) ∧
    detail.head? = f.colored.head? ∧
    (∀ before behind, f.chars = before ++ '\n' :: behind →
      let line := before.count '\n' + 1
      (marks[before.length]? = some ('\n', false) → detail[line]? = f.colored[line]?) ∧
      (marks[before.length]? = some ('\n', true) → detail[line]? = f.colored[line]? →
        behind = [] ∨ ['\n'] <+: behind ∨ Segment.opening <+: behind)) ∧
    ((∀ s ∈ Segment.ofChars f.chars, s.isExpression → '\n' ∉ s.chars) →
      detail = f.colored) := by
  intro marks detail
  have hmarks : marks = Segment.marksFrom none f.chars := Segment.marks_ofChars f.chars
  have hdetail : detail = Segment.linesMarked f.chars :=
    ValueDetail.colored_text title f.chars columns
  rw [hdetail, colored_eq, hmarks]
  refine ⟨rfl, ?_, ?_, fun before behind hchars => ?_, fun hnone => ?_⟩
  · rw [Segment.map_fst_linesMarked, Segment.map_fst_markedLines]
  · rw [Segment.head?_linesMarked, Segment.head?_markedLines]
  · obtain ⟨n, hread⟩ := Segment.exists_marksFrom_feed none before
    intro line
    have hmark : (Segment.marksFrom none f.chars)[before.length]? = some ('\n', n.isSome) := by
      rw [hchars, hread, ← Segment.length_marksFrom none before, getElem?_length_append,
        List.head?_cons]
    have hline : (Segment.linesMarked f.chars)[line]? =
        some (Segment.marksFrom none (Segment.firstLine behind)) := by
      rw [hchars]
      exact Segment.getElem?_linesMarked before behind
    have hcolored : (Segment.markedLines (Segment.marksFrom none f.chars))[line]? =
        some (Segment.marksFrom n (Segment.firstLine behind)) := by
      rw [hchars, hread]
      exact Segment.getElem?_markedLines none n before behind _
    rw [hmark, hline, hcolored]
    cases n with
    | none => exact ⟨fun _ => rfl, fun h => by simp at h⟩
    | some n =>
      refine ⟨fun h => by simp at h, fun _ h => ?_⟩
      exact Segment.eq_nil_or_feed_or_opens_of_marksFrom_eq (Option.some.inj h)
  · refine Segment.linesMarked_eq fun b hb => ?_
    rw [← Segment.marks_ofChars] at hb
    obtain ⟨s, hs, hfeed, rfl⟩ := Segment.mem_marks.mp hb
    by_contra hexpression
    exact hnone s hs (by simpa using hexpression) hfeed

/-- The line behind a line feed in an expression is drawn in two ways. -/
theorem not_detail_colored_brokenExpression :
    let text := "$\x7ba\nb\x7d"
    ValueDetail.colored ⟨"p", .text text true⟩ 38 ≠ (load (some text) false).colored := by
  decide +kernel

end TextField

end PropertySheet
