import PropertySheet.Proofs.Screen.Regions

/-!
# Pictures as strokes

A picture is a list of strokes, each made over the ones before it. Most strokes are given an area
and stay in it. A label is not: it is written from a cell on and stops at the edge of the screen.

`changesOnly_paint_iff` says what follows for a picture that is meant for a rectangle: it changes
no cell outside of it, whatever was on the screen, if and only if each of its labels stops there.
That a label may not run on is not only sufficient: it shows its own symbols in the cells that it
takes, so a screen that shows other ones there is changed.

A paragraph draws each of its rows on a line of its own (`Stroke.agreeOn_draw_of_shown`).
-/

namespace PropertySheet

/-! ## Cells of a rectangle -/

/-- The cells of a rectangle, as a region. -/
def Rect.cells (r : Rect) (x y : Nat) : Prop := r.contains x y = true

/-- One rectangle lies within another. -/
structure Rect.Within (r outer : Rect) : Prop where
  left : outer.x ≤ r.x
  right : r.right ≤ outer.right
  top : outer.y ≤ r.y
  bottom : r.bottom ≤ outer.bottom

theorem Rect.Within.cells {r outer : Rect} (h : r.Within outer) {x y : Nat} (hin : r.cells x y) :
    outer.cells x y := by
  obtain ⟨hx, hx', hy, hy'⟩ := Rect.contains_iff.mp hin
  exact Rect.contains_iff.mpr ⟨Nat.le_trans h.left hx, Nat.lt_of_lt_of_le hx' h.right,
    Nat.le_trans h.top hy, Nat.lt_of_lt_of_le hy' h.bottom⟩

theorem Rect.Within.trans {r q outer : Rect} (h : r.Within q) (h' : q.Within outer) :
    r.Within outer :=
  ⟨Nat.le_trans h'.left h.left, Nat.le_trans h.right h'.right, Nat.le_trans h'.top h.top,
    Nat.le_trans h.bottom h'.bottom⟩

theorem Rect.within_refl (r : Rect) : r.Within r :=
  ⟨Nat.le_refl _, Nat.le_refl _, Nat.le_refl _, Nat.le_refl _⟩

/-! ## Strokes -/

/-- A text that is written from a cell on, up to the edge of the screen. -/
structure Label where
  x : Nat
  y : Nat
  text : String
  style : Style
deriving DecidableEq, Repr, Inhabited

/-- The column after a label on a screen that ends at a column. -/
def Label.stop (l : Label) (edge : Nat) : Nat :=
  l.x + Screen.textColumns l.x maxCoordinate edge l.text

/-- A label takes no more columns than its clusters have. -/
theorem Label.stop_le {text : String} {columns : Nat}
    (h : Screen.clustersWidth (Text.clusters text.toList) ≤ columns) (x y : Nat) (style : Style)
    (edge : Nat) : ({ x, y, text, style } : Label).stop edge ≤ x + columns :=
  Nat.add_le_add_left (Nat.le_trans (Screen.textColumns_le_width ..) h) x

/-- One step of a picture. -/
inductive Stroke where
  | clear (area : Rect)
  | tint (area : Rect) (style : Style)
  | frame (area : Rect) (title : String) (style : Style)
  | paragraph (area : Rect) (lines : List (List Span)) (style : Style) (fitting : Fitting)
    (scroll : Nat)
  /-- A text of at most a number of columns. -/
  | clipped (x y columns : Nat) (text : String) (style : Style)
  | label (l : Label)
deriving Repr, Inhabited

namespace Stroke

def draw (s : Screen) : Stroke → Screen
  | .clear area => s.clear area
  | .tint area style => s.patchArea area style
  | .frame area title style => s.drawFrame area title style
  | .paragraph area lines style fitting scroll => s.drawParagraph area lines style fitting scroll
  | .clipped x y columns text style => (s.writeAtMost x y columns text style).1
  | .label l => s.write l.x l.y l.text l.style

/-- The area that a stroke is given. A label is given no more than the place where it starts. -/
def area : Stroke → Rect
  | .clear area | .tint area _ | .frame area _ _ | .paragraph area _ _ _ _ => area
  | .clipped x y columns _ _ => { x, y, width := columns, height := 1 }
  | .label l => { x := l.x, y := l.y, width := 0, height := 1 }

def label? : Stroke → Option Label
  | .label l => some l
  | _ => none

theorem eq_of_label? {st : Stroke} {l : Label} (h : st.label? = some l) : st = .label l := by
  cases st with
  | label l' => exact congrArg Stroke.label (Option.some.inj h)
  | _ => cases h

/-- A paragraph that is wrapped and not cut. -/
def isWrapped : Stroke → Bool
  | .paragraph _ _ _ (.wrap _) _ => true
  | _ => false

/-- A stroke stays in the area that it is given. -/
def Keeps (st : Stroke) : Prop := ∀ s : Screen, Screen.ChangesOnly st.area.cells s (st.draw s)

/-- Every stroke but a label stays in its area; of a wrapped paragraph that is not said here. -/
theorem keeps_of_not_isWrapped {st : Stroke} (hlabel : st.label? = none)
    (hwrapped : st.isWrapped = false) : st.Keeps := by
  cases st with
  | clear area => exact fun s => Screen.changesOnly_modifyArea (fun _ _ h => h) s _
  | tint area style => exact fun s => Screen.changesOnly_modifyArea (fun _ _ h => h) s _
  | frame area title style => exact fun s => Screen.changesOnly_drawFrame (fun _ _ h => h) s _ _
  | paragraph area lines style fitting scroll =>
    cases fitting with
    | cut =>
      exact fun s => Screen.changesOnly_drawParagraph (fun _ _ h => h)
        (fun _ => Screen.lineWidth_le_of_mem_cut) s style scroll
    | wrap trim => cases hwrapped
  | clipped x y columns text style =>
    intro s
    refine Screen.changesOnly_writeAtMost (fun x' hx hx' => ?_) style
    have hfits := (Screen.textColumns_le x columns s.area.right text).1
    exact Rect.contains_iff.mpr ⟨hx, Nat.lt_of_lt_of_le hx' (Nat.add_le_add_left hfits x),
      Nat.le_refl y, Nat.lt_succ_self y⟩
  | label l => cases hlabel

/-- The lines of a paragraph, as they are wrapped, are no wider than its area. -/
def fits : Stroke → Bool
  | .paragraph area lines _ fitting _ =>
    (fitting.fit area.width lines).all fun l => decide (Screen.lineWidth l ≤ area.width)
  | _ => true

theorem keeps_of_fits {st : Stroke} (hwrapped : st.isWrapped = true) (h : st.fits = true) :
    st.Keeps := by
  cases st with
  | paragraph area lines style fitting scroll =>
    have hfits : ∀ l ∈ fitting.fit area.width lines, Screen.lineWidth l ≤ area.width :=
      fun l hl => of_decide_eq_true (List.all_eq_true.mp h l hl)
    exact fun s => Screen.changesOnly_drawParagraph (fun _ _ h => h) hfits s style scroll
  | _ => cases hwrapped

/-! ### Rows of a paragraph -/

/-- The rows that a paragraph shows: those of its lines that are not scrolled out, as many as there
is room for. -/
def shown : Stroke → List (List Glyph)
  | .paragraph area lines _ fitting scroll =>
    ((fitting.fit area.width lines).drop scroll).take area.height
  | _ => []

theorem draw_paragraph_eq {area : Rect} (h : area.isEmpty = false) (s : Screen)
    (lines : List (List Span)) (style : Style) (fitting : Fitting) (scroll : Nat) :
    (paragraph area lines style fitting scroll).draw s =
      (paragraph area lines style fitting scroll).shown.zipIdx.foldl
        (fun s l => s.drawGlyphs area.x (area.y + l.2) l.1) (s.patchArea area style) := by
  show s.drawParagraph area lines style fitting scroll = _
  rw [Screen.drawParagraph, h]
  rfl

section Rows

variable {area : Rect} {lines : List (List Span)} {style : Style} {scroll row : Nat}
  {gs : List Glyph}

/-- A row that a paragraph of cut lines shows lies in its area and is no wider. -/
theorem row_of_shown (h : (paragraph area lines style .cut scroll).shown[row]? = some gs) :
    row < area.height ∧ Screen.lineWidth gs ≤ area.width := by
  have hrow : row < (paragraph area lines style .cut scroll).shown.length :=
    (List.getElem?_eq_some_iff.mp h).1
  rw [shown, List.length_take] at hrow
  have hmem := List.mem_of_mem_drop (List.mem_of_mem_take (List.mem_of_getElem? h))
  exact ⟨Nat.lt_of_lt_of_le hrow (Nat.min_le_left _ _), Screen.lineWidth_le_of_mem_cut hmem⟩

/-- On the line of a row that a paragraph shows nothing but the row is drawn, over the style of the
paragraph. -/
theorem agreeOn_draw_of_shown
    (h : (paragraph area lines style .cut scroll).shown[row]? = some gs) (s : Screen) :
    Screen.AgreeOn (onLine (area.y + row))
      ((s.patchArea area style).drawGlyphs area.x (area.y + row) gs)
      ((paragraph area lines style .cut scroll).draw s) := by
  cases hempty : area.isEmpty with
  | false =>
    rw [draw_paragraph_eq hempty]
    refine Screen.agreeOn_foldl_zipIdx (fun s l => s.drawGlyphs area.x (area.y + l.2) l.1) h
      (fun l s t hst => hst.drawGlyphs _ _ _) (fun l s => ?_) _
    refine Screen.changesOnly_drawGlyphs (fun x' _ _ => ?_) s
    rfl
  | true =>
    -- the area has lines, so it has no columns, and a row without columns draws nothing
    obtain ⟨hrow, hwidth⟩ := row_of_shown h
    have hnone : area.width = 0 := by
      simp only [Rect.isEmpty, Bool.or_eq_true, decide_eq_true_eq] at hempty
      omega
    have hdrawn : (paragraph area lines style .cut scroll).draw s =
        s.patchArea area style := by
      show s.drawParagraph area lines style .cut scroll = _
      rw [Screen.drawParagraph, if_pos hempty]
    have hblank : Screen.ChangesOnly (fun _ _ => False) (s.patchArea area style)
        ((s.patchArea area style).drawGlyphs area.x (area.y + row) gs) :=
      Screen.changesOnly_drawGlyphs (fun x' hlow hhigh => by omega) _
    rw [hdrawn]
    exact (hblank.agreeOn fun _ _ _ hin => hin).symm

end Rows

end Stroke

namespace Screen

/-- Make strokes one after the other. -/
def paint (strokes : List Stroke) (s : Screen) : Screen := strokes.foldl Stroke.draw s

@[simp] theorem paint_cons (st : Stroke) (strokes : List Stroke) (s : Screen) :
    paint (st :: strokes) s = paint strokes (st.draw s) := rfl

theorem paint_append (strokes more : List Stroke) (s : Screen) :
    paint (strokes ++ more) s = paint more (paint strokes s) := List.foldl_append

/-- Labels for the entries of a list. -/
theorem paint_map_label {α : Type} (label : α → Label) (entries : List α) (s : Screen) :
    paint (entries.map fun e => .label (label e)) s =
      entries.foldl (fun s e => s.write (label e).x (label e).y (label e).text (label e).style) s :=
  List.foldl_map

/-! ## What a label shows -/

/-- The screen is of an area and has all its cells. -/
structure Fills (s : Screen) (area : Rect) : Prop where
  area_eq : s.area = area
  size_eq : s.cells.size = area.width * area.height

variable {region : Nat → Nat → Prop} {s t : Screen} {area : Rect}

theorem Fills.of_agreeOn (h : s.Fills area) (hst : AgreeOn region s t) : t.Fills area :=
  ⟨hst.area.trans h.area_eq, hst.size.trans h.size_eq⟩

theorem Fills.exists_cell (h : s.Fills area) {x y : Nat} (hin : area.cells x y) :
    ∃ c, s.cell? x y = some c := by
  have hindex : s.index? x y = some ((y - s.area.y) * s.area.width + (x - s.area.x)) := by
    rw [index?, if_pos]
    rw [h.area_eq]
    exact hin
  obtain ⟨hx, hx', hy, hy'⟩ := Rect.contains_iff.mp hin
  have hplace : (y - area.y) * area.width + (x - area.x) < s.cells.size := by
    have hline : y - area.y + 1 ≤ area.height := by simp only [Rect.bottom] at hy'; omega
    have hlines := Nat.mul_le_mul_right area.width hline
    rw [h.size_eq, Nat.mul_comm area.width]
    simp only [Rect.right] at hx'
    rw [Nat.add_mul, Nat.one_mul] at hlines
    omega
  rw [cell?, hindex, h.area_eq, Option.bind_some]
  exact ⟨_, Array.getElem?_eq_getElem hplace⟩

/-- What a cell shows is changed as often as a run comes to it: once. -/
theorem cell?_modifyRun (s : Screen) {x y count x' : Nat} (f : Cell → Cell) (hx : x ≤ x')
    (hx' : x' < x + count) : (s.modifyRun x y count f).cell? x' y = (s.cell? x' y).map f := by
  obtain ⟨i, rfl⟩ := Nat.exists_eq_add_of_le hx
  have hi : (List.range count)[i]? = some i := List.getElem?_range (by omega)
  let step := fun (s : Screen) j => s.modify (x + j) y f
  have hstep : ∀ j s, ChangesOnly (fun x'' y' => x'' = x + j ∧ y' = y) s (step s j) :=
    fun j s => changesOnly_modify ⟨rfl, rfl⟩ s f
  have honce : AgreeOn (fun x'' y' => x'' = x + i ∧ y' = y) (step s i)
      ((List.range count).foldl step s) := by
    refine agreeOn_foldl_of_getElem? hi (fun s t h => h.modify _ _ _) (fun j b hj hne s => ?_) s
    obtain ⟨_, rfl⟩ := List.getElem?_eq_some_iff.mp hj
    rw [List.getElem_range]
    exact (hstep j s).agreeOn fun x'' y' h h' => by omega
  show ((List.range count).foldl step s).cell? (x + i) y = _
  rw [honce.cell _ _ ⟨rfl, rfl⟩, cell?_modify, if_pos ⟨rfl, rfl⟩]

theorem Fills.modifyRun (h : s.Fills area) (x y count : Nat) (f : Cell → Cell) :
    (s.modifyRun x y count f).Fills area := by
  have hrun : ChangesOnly (fun _ _ => True) s (s.modifyRun x y count f) :=
    changesOnly_modifyRun (fun _ _ _ => trivial) s f
  exact h.of_agreeOn hrun

theorem Fills.draw (h : s.Fills area) (x y : Nat) (symbol : List Char) (style : Style) :
    (s.draw x y symbol style).Fills area :=
  ⟨(area_modify ..).trans h.area_eq, (size_modify ..).trans h.size_eq⟩

/-- A cluster shows itself in its first cell and blanks in the others. -/
theorem symbol_drawn (h : s.Fills area) {x y x' : Nat} (hin : area.cells x' y) (hx : x ≤ x')
    {width : Nat} (hx' : x' < x + width) (g : List Char) (style : Style) :
    (((s.draw x y g style).modifyRun (x + 1) y (width - 1) fun _ => {}).cell? x' y).map
      (·.symbol) = some (if x' = x then g else [' ']) := by
  split
  next hfirst =>
    subst hfirst
    obtain ⟨c, hc⟩ := h.exists_cell hin
    have hhide : ChangesOnly (fun x'' _ => x' < x'') (s.draw x' y g style)
        ((s.draw x' y g style).modifyRun (x' + 1) y (width - 1) fun _ => {}) :=
      changesOnly_modifyRun (fun x'' hlow _ => hlow) _ _
    rw [hhide.cell x' y (Nat.lt_irrefl x'), draw, cell?_modify, if_pos ⟨rfl, rfl⟩, hc]
    rfl
  next hlater =>
    obtain ⟨c, hc⟩ := (h.draw x y g style).exists_cell hin
    rw [cell?_modifyRun _ _ (by omega) (by omega), hc]
    rfl

/-- What a text shows in a cell that it takes does not depend on the screen. -/
theorem exists_symbol_writeClusters {x y columns x' : Nat} {gs : List (List Char)} (hx : x ≤ x')
    (hx' : x' < x + written columns gs) (hin : area.cells x' y) (style : Style) :
    ∃ symbol : List Char, ∀ s : Screen, s.Fills area →
      ((s.writeClusters x y columns style gs).1.cell? x' y).map (·.symbol) = some symbol := by
  induction gs generalizing x columns with
  | nil => exact absurd hx' (Nat.not_lt_of_le hx)
  | cons g rest ih =>
    by_cases hskip : (g.any Text.isControl || decide (Text.charsWidth g = 0)) = true
    · rw [written, if_pos hskip] at hx'
      obtain ⟨symbol, hsymbol⟩ := ih hx hx'
      refine ⟨symbol, fun s hs => ?_⟩
      rw [writeClusters, if_pos hskip]
      exact hsymbol s hs
    by_cases hfits : Text.charsWidth g ≤ columns
    · rw [written, if_neg hskip, if_pos hfits] at hx'
      let shown := fun s : Screen =>
        (s.draw x y g style).modifyRun (x + 1) y (Text.charsWidth g - 1) fun _ => {}
      let later := fun s : Screen => (s.writeClusters (x + Text.charsWidth g) y
        (columns - Text.charsWidth g) style rest).1
      have hwrite : ∀ s : Screen,
          (s.writeClusters x y columns style (g :: rest)).1 = later (shown s) := by
        intro s
        rw [writeClusters, if_neg hskip, if_pos hfits]
      by_cases hhere : x' < x + Text.charsWidth g
      · -- the clusters after this one leave its cells alone
        refine ⟨if x' = x then g else [' '], fun s hs => ?_⟩
        have hlater : ∀ s, ChangesOnly (fun x'' _ => x + Text.charsWidth g ≤ x'') s (later s) :=
          fun s => changesOnly_writeClusters (fun x'' hlow _ => hlow) s style
        rw [hwrite, (hlater _).cell x' y (Nat.not_le_of_lt hhere)]
        exact symbol_drawn hs hin hx hhere g style
      · rw [← Nat.add_assoc] at hx'
        obtain ⟨symbol, hsymbol⟩ := ih (Nat.le_of_not_lt hhere) hx'
        refine ⟨symbol, fun s hs => ?_⟩
        rw [hwrite]
        exact hsymbol _ ((hs.draw x y g style).modifyRun _ _ _ _)
    · rw [written, if_neg hskip, if_neg hfits] at hx'
      exact absurd hx' (Nat.not_lt_of_le hx)

theorem exists_symbol_label {l : Label} {x : Nat} (hx : l.x ≤ x) (hx' : x < l.stop area.right)
    (hin : area.cells x l.y) :
    ∃ symbol : List Char, ∀ s : Screen, s.Fills area →
      (((Stroke.label l).draw s).cell? x l.y).map (·.symbol) = some symbol := by
  obtain ⟨symbol, hsymbol⟩ := exists_symbol_writeClusters hx hx' hin l.style
  refine ⟨symbol, fun s hs => ?_⟩
  rw [← hsymbol s hs, Stroke.draw, write, writeAtMost, hs.area_eq]

/-! ## Pictures for a rectangle -/

/-- The labels among strokes. -/
def labels (strokes : List Stroke) : List Label := strokes.filterMap Stroke.label?

/-- The strokes are given areas within a rectangle. -/
def StrokesWithin (r : Rect) (strokes : List Stroke) : Prop := ∀ st ∈ strokes, st.area.Within r

theorem StrokesWithin.append {r : Rect} {strokes more : List Stroke} (h : StrokesWithin r strokes)
    (h' : StrokesWithin r more) : StrokesWithin r (strokes ++ more) :=
  List.forall_mem_append.mpr ⟨h, h'⟩

theorem StrokesWithin.mono {r outer : Rect} {strokes : List Stroke} (h : StrokesWithin r strokes)
    (hwithin : r.Within outer) : StrokesWithin outer strokes :=
  fun st hst => (h st hst).trans hwithin

theorem strokesWithin_nil (r : Rect) : StrokesWithin r [] := fun _ h => nomatch h

/-- Strokes for a rectangle: each is given an area within it, and all but the labels stay there. -/
structure Laid (r : Rect) (strokes : List Stroke) : Prop where
  within : StrokesWithin r strokes
  keeps : ∀ st ∈ strokes, st.label? = none → st.Keeps

variable {r : Rect} {st : Stroke} {strokes : List Stroke}

theorem Laid.tail (h : Laid r (st :: strokes)) : Laid r strokes :=
  ⟨fun st' hst' => h.within st' (List.mem_cons_of_mem st hst'),
    fun st' hst' => h.keeps st' (List.mem_cons_of_mem st hst')⟩

theorem changesOnly_label {l : Label} (hlaid : (Stroke.label l).area.Within r)
    (hstop : l.stop s.area.right ≤ r.right) :
    ChangesOnly r.cells s ((Stroke.label l).draw s) := by
  refine changesOnly_writeAtMost (fun x' hx hx' => ?_) l.style
  exact Rect.contains_iff.mpr ⟨Nat.le_trans hlaid.left hx, Nat.lt_of_lt_of_le hx' hstop,
    hlaid.top, hlaid.bottom⟩

theorem Laid.changesOnly_head (h : Laid r (st :: strokes))
    (hstop : ∀ l, st.label? = some l → l.stop s.area.right ≤ r.right) :
    ChangesOnly r.cells s (st.draw s) := by
  have hwithin := h.within st List.mem_cons_self
  cases hlabel : st.label? with
  | none => exact (h.keeps st List.mem_cons_self hlabel s).mono fun _ _ => hwithin.cells
  | some l =>
    obtain rfl := Stroke.eq_of_label? hlabel
    exact changesOnly_label hwithin (hstop l hlabel)

/-- Where every label stops within the rectangle, so does the picture. -/
theorem Laid.changesOnly (h : Laid r strokes)
    (hstop : ∀ l ∈ labels strokes, l.stop s.area.right ≤ r.right) :
    ChangesOnly r.cells s (paint strokes s) := by
  induction strokes generalizing s with
  | nil => exact .refl s
  | cons st strokes ih =>
    have hhead : ChangesOnly r.cells s (st.draw s) := by
      refine h.changesOnly_head fun l hl => hstop l ?_
      rw [labels, List.filterMap_cons_some hl]
      exact List.mem_cons_self
    rw [paint_cons]
    refine hhead.trans (ih h.tail fun l hl => ?_)
    rw [hhead.area]
    refine hstop l ?_
    obtain ⟨st', hst', hl⟩ := List.mem_filterMap.mp hl
    exact List.mem_filterMap.mpr ⟨st', List.mem_cons_of_mem st hst', hl⟩

/-! ### Labels that run on -/

theorem Laid.fills_draw (h : Laid r (st :: strokes)) (hs : s.Fills area) :
    (st.draw s).Fills area := by
  cases hlabel : st.label? with
  | none => exact hs.of_agreeOn (h.keeps st List.mem_cons_self hlabel s)
  | some l =>
    obtain rfl := Stroke.eq_of_label? hlabel
    have hlabel : ChangesOnly (fun _ _ => True) s ((Stroke.label l).draw s) :=
      changesOnly_writeAtMost (fun _ _ _ => trivial) l.style
    exact hs.of_agreeOn hlabel

/-- A label that runs on comes to the column behind the rectangle. -/
theorem cells_of_spill {l : Label} (hlaid : (Stroke.label l).area.Within r)
    (hwithin : r.Within area) (hspill : r.right < l.stop area.right) :
    area.cells r.right l.y := by
  have hleft : r.x ≤ l.x := hlaid.left
  have hright : l.x ≤ r.right := hlaid.right
  have htop : r.y ≤ l.y := hlaid.top
  have hbottom : l.y < r.bottom := hlaid.bottom
  have hedge := (textColumns_le l.x maxCoordinate area.right l.text).2
  have hstop : l.stop area.right = l.x + textColumns l.x maxCoordinate area.right l.text := rfl
  exact Rect.contains_iff.mpr ⟨by have := hwithin.left; omega, by omega,
    Nat.le_trans hwithin.top htop, Nat.lt_of_lt_of_le hbottom hwithin.bottom⟩

/-- Where a label runs on, the picture shows something there that does not depend on the screen. -/
theorem Laid.exists_symbol (h : Laid r strokes) (hwithin : r.Within area) {l : Label}
    (hl : l ∈ labels strokes) (hspill : r.right < l.stop area.right) :
    ∃ (y : Nat) (symbol : List Char), area.cells r.right y ∧ ∀ s : Screen, s.Fills area →
      ((paint strokes s).cell? r.right y).map (·.symbol) = some symbol := by
  induction strokes generalizing l with
  | nil => cases hl
  | cons st strokes ih =>
    by_cases hlater : ∃ l' ∈ labels strokes, r.right < l'.stop area.right
    · obtain ⟨l', hl', hspill'⟩ := hlater
      obtain ⟨y, symbol, hin, hsymbol⟩ := ih h.tail hl' hspill'
      exact ⟨y, symbol, hin, fun s hs => hsymbol _ (h.fills_draw hs)⟩
    -- it is the first stroke, and the others spare the cell
    obtain ⟨st', hst', hlabel⟩ := List.mem_filterMap.mp hl
    obtain rfl := Stroke.eq_of_label? hlabel
    rcases List.mem_cons.mp hst' with rfl | hst'
    · have hlaid := h.within _ List.mem_cons_self
      have hin := cells_of_spill hlaid hwithin hspill
      obtain ⟨symbol, hsymbol⟩ := exists_symbol_label hlaid.right hspill hin
      refine ⟨l.y, symbol, hin, fun s hs => ?_⟩
      have hrest : ChangesOnly r.cells ((Stroke.label l).draw s)
          (paint strokes ((Stroke.label l).draw s)) := by
        refine h.tail.changesOnly fun l' hl' => Nat.le_of_not_lt fun hspill' => hlater ⟨l', hl', ?_⟩
        rwa [(h.fills_draw hs).area_eq] at hspill'
      rw [paint_cons, hrest.cell r.right l.y, hsymbol s hs]
      exact fun hcell => Nat.lt_irrefl _ (Rect.contains_iff.mp hcell).2.1
    · exact absurd ⟨l, List.mem_filterMap.mpr ⟨_, hst', hlabel⟩, hspill⟩ hlater

/-- A screen of one cell all over. -/
def filled (area : Rect) (c : Cell) : Screen :=
  { area, cells := Array.replicate (area.width * area.height) c }

theorem fills_filled (area : Rect) (c : Cell) : (filled area c).Fills area :=
  ⟨rfl, Array.size_replicate⟩

theorem cell?_filled {x y : Nat} (hin : area.cells x y) (c : Cell) :
    (filled area c).cell? x y = some c := by
  obtain ⟨c', hc'⟩ := (fills_filled area c).exists_cell hin
  obtain ⟨i, -, hi⟩ := Option.bind_eq_some_iff.mp hc'
  obtain ⟨_, hi⟩ := Array.getElem?_eq_some_iff.mp hi
  rw [hc', ← hi]
  exact congrArg some (Array.getElem_replicate ..)

/-- A picture for a rectangle changes no cell outside of it, whatever was on the screen, if and only
if each of its labels stops within the rectangle. -/
theorem Laid.changesOnly_iff (h : Laid r strokes) (hwithin : r.Within area) :
    (∀ s : Screen, s.Fills area → ChangesOnly r.cells s (paint strokes s)) ↔
      ∀ l ∈ labels strokes, l.stop area.right ≤ r.right := by
  constructor
  · intro hconfined l hl
    refine Nat.le_of_not_lt fun hspill => ?_
    obtain ⟨y, symbol, hin, hsymbol⟩ := h.exists_symbol hwithin hl hspill
    -- a screen that shows something else there is changed
    let c : Cell := { symbol := symbol ++ [' '] }
    have hsame : (paint strokes (filled area c)).cell? r.right y = some c := by
      rw [(hconfined _ (fills_filled area c)).cell r.right y, cell?_filled hin]
      exact fun hcell => Nat.lt_irrefl _ (Rect.contains_iff.mp hcell).2.1
    have hshown := hsymbol _ (fills_filled area c)
    rw [hsame] at hshown
    simp [c] at hshown
  · intro hstop s hs
    refine h.changesOnly fun l hl => ?_
    rw [hs.area_eq]
    exact hstop l hl

end Screen

end PropertySheet
