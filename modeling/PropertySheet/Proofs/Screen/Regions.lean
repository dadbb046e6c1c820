import PropertySheet.Screen.Paragraph

/-!
# What a drawing changes

Two screens agree on a region if they show the same cells there, and a drawing changes only a region
if it agrees with what was there before everywhere else. Both are kept by drawing one thing after
the other, so what a picture changes follows from what its parts change.

A part is a change of one cell, a run of a line or a rectangle, and above these a text, a line of
spans, a frame or a paragraph. Lines of spans and frames never leave their rectangle. A text leaves
it unless the caller says where it has to stop: `written` is the number of columns that it takes.
-/

namespace PropertySheet

theorem Rect.contains_iff {r : Rect} {x y : Nat} :
    r.contains x y = true ↔ r.x ≤ x ∧ x < r.right ∧ r.y ≤ y ∧ y < r.bottom := by
  simp [contains, and_assoc]

theorem Rect.contains_of_inter {r q : Rect} {x y : Nat} (h : (r.inter q).contains x y = true) :
    r.contains x y = true := by
  simp only [Rect.contains_iff, Rect.inter, Rect.right, Rect.bottom] at h ⊢
  omega

theorem Rect.pos_of_not_isEmpty {r : Rect} (h : ¬ r.isEmpty = true) :
    0 < r.width ∧ 0 < r.height := by
  simp only [isEmpty, Bool.or_eq_true, decide_eq_true_eq, not_or] at h
  omega

/-- The cells of a line. -/
def onLine (y : Nat) (_ y' : Nat) : Prop := y' = y

namespace Screen

variable {region other : Nat → Nat → Prop} {s t u : Screen}

/-! ## Single cells -/

/-- Cells of a screen have places of their own. -/
theorem index?_inj {x y x' y' i : Nat} (h : s.index? x y = some i) (h' : s.index? x' y' = some i) :
    x = x' ∧ y = y' := by
  simp only [index?, Option.ite_none_right_eq_some, Option.some.injEq, Rect.contains_iff,
    Rect.right] at h h'
  obtain ⟨⟨hx, hright, hy, -⟩, rfl⟩ := h
  obtain ⟨⟨hx', hright', hy', -⟩, hplace⟩ := h'
  have hwidth : 0 < s.area.width := by omega
  have hrow : ∀ a b, b < s.area.width → (a * s.area.width + b) / s.area.width = a := by
    intro a b hb
    rw [Nat.add_comm, Nat.add_mul_div_right _ _ hwidth, Nat.div_eq_of_lt hb, Nat.zero_add]
  have hy : y - s.area.y = y' - s.area.y := by
    rw [← hrow (y - s.area.y) (x - s.area.x) (by omega), ← hplace, hrow _ _ (by omega)]
  rw [hy] at hplace
  omega

@[simp] theorem area_modify (s : Screen) (x y : Nat) (f : Cell → Cell) :
    (s.modify x y f).area = s.area := by
  unfold modify
  split <;> rfl

@[simp] theorem size_modify (s : Screen) (x y : Nat) (f : Cell → Cell) :
    (s.modify x y f).cells.size = s.cells.size := by
  unfold modify
  split <;> simp

theorem cell?_modify (s : Screen) (x y : Nat) (f : Cell → Cell) (x' y' : Nat) :
    (s.modify x y f).cell? x' y' =
      if x' = x ∧ y' = y then (s.cell? x y).map f else s.cell? x' y' := by
  cases hi : s.index? x y with
  | none =>
    have hsame : s.modify x y f = s := by simp [modify, hi]
    rw [hsame]
    split
    next h => simp [cell?, h.1, h.2, hi]
    next => rfl
  | some i =>
    have hmodify : s.modify x y f = { s with cells := s.cells.modify i f } := by simp [modify, hi]
    have hindex : (s.modify x y f).index? x' y' = s.index? x' y' := by rw [hmodify]; rfl
    rw [cell?, hindex, hmodify]
    split
    next h => simp [cell?, h.1, h.2, hi, Array.getElem?_modify]
    next h =>
      cases hj : s.index? x' y' with
      | none => simp [cell?, hj]
      | some j =>
        have hne : i ≠ j := by
          rintro rfl
          exact h (index?_inj hj hi)
        simp [cell?, hj, Array.getElem?_modify, hne]

/-! ## Agreeing on a region -/

/-- The screens are of one shape and show the same cells in a region. -/
structure AgreeOn (region : Nat → Nat → Prop) (s t : Screen) : Prop where
  area : t.area = s.area
  size : t.cells.size = s.cells.size
  cell : ∀ x y, region x y → t.cell? x y = s.cell? x y

theorem AgreeOn.refl (s : Screen) : AgreeOn region s s := ⟨rfl, rfl, fun _ _ _ => rfl⟩

theorem AgreeOn.symm (h : AgreeOn region s t) : AgreeOn region t s :=
  ⟨h.area.symm, h.size.symm, fun x y hxy => (h.cell x y hxy).symm⟩

theorem AgreeOn.trans (h : AgreeOn region s t) (h' : AgreeOn region t u) : AgreeOn region s u :=
  ⟨h'.area.trans h.area, h'.size.trans h.size,
    fun x y hxy => (h'.cell x y hxy).trans (h.cell x y hxy)⟩

theorem AgreeOn.mono (h : AgreeOn region s t) (hsub : ∀ x y, other x y → region x y) :
    AgreeOn other s t :=
  ⟨h.area, h.size, fun x y hxy => h.cell x y (hsub x y hxy)⟩

/-- Changing one cell in both screens. -/
theorem AgreeOn.modify (h : AgreeOn region s t) (x y : Nat) (f : Cell → Cell) :
    AgreeOn region (s.modify x y f) (t.modify x y f) where
  area := by simp [h.area]
  size := by simp [h.size]
  cell x' y' hin := by
    rw [cell?_modify, cell?_modify]
    split
    next hxy => rw [h.cell x y (hxy.1 ▸ hxy.2 ▸ hin)]
    next => exact h.cell x' y' hin

theorem AgreeOn.foldl {α : Type} {step : Screen → α → Screen}
    (hstep : ∀ a s t, AgreeOn region s t → AgreeOn region (step s a) (step t a)) (l : List α)
    (h : AgreeOn region s t) : AgreeOn region (l.foldl step s) (l.foldl step t) := by
  induction l generalizing s t with
  | nil => exact h
  | cons a l ih => exact ih (hstep a s t h)

/-- Steps that leave a region alone. -/
theorem agreeOn_foldl {α : Type} {step : Screen → α → Screen} {l : List α}
    (hstep : ∀ a ∈ l, ∀ s, AgreeOn region s (step s a)) (s : Screen) :
    AgreeOn region s (l.foldl step s) := by
  induction l generalizing s with
  | nil => exact .refl s
  | cons a l ih =>
    exact (hstep a List.mem_cons_self s).trans
      (ih (fun b hb => hstep b (List.mem_cons_of_mem a hb)) _)

/-- Steps of which one only comes near a region. -/
theorem agreeOn_foldl_of_getElem? {α : Type} {step : Screen → α → Screen} {l : List α} {i : Nat}
    {a : α} (ha : l[i]? = some a)
    (hstep : ∀ s t, AgreeOn region s t → AgreeOn region (step s a) (step t a))
    (hothers : ∀ j b, l[j]? = some b → j ≠ i → ∀ s, AgreeOn region s (step s b)) (s : Screen) :
    AgreeOn region (step s a) (l.foldl step s) := by
  induction l generalizing i s with
  | nil => cases ha
  | cons b l ih =>
    cases i with
    | zero =>
      obtain rfl : b = a := Option.some.inj ha
      refine agreeOn_foldl (fun c hc s => ?_) _
      obtain ⟨j, hj⟩ := List.mem_iff_getElem?.mp hc
      exact hothers (j + 1) c hj (Nat.succ_ne_zero j) s
    | succ i =>
      have hfirst : AgreeOn region s (step s b) := hothers 0 b rfl (Nat.zero_ne_add_one i) s
      have hrest := ih ha (fun j c hj hne => hothers (j + 1) c hj (by omega)) (step s b)
      exact (hstep s _ hfirst).trans hrest

theorem AgreeOn.modifyRun (h : AgreeOn region s t) (x y count : Nat) (f : Cell → Cell) :
    AgreeOn region (s.modifyRun x y count f) (t.modifyRun x y count f) :=
  AgreeOn.foldl (fun i _ _ h => h.modify (x + i) y f) _ h

/-- A drawing changes no cell outside of a region. -/
def ChangesOnly (region : Nat → Nat → Prop) (s t : Screen) : Prop :=
  AgreeOn (fun x y => ¬ region x y) s t

theorem ChangesOnly.refl (s : Screen) : ChangesOnly region s s := AgreeOn.refl s

theorem ChangesOnly.trans (h : ChangesOnly region s t) (h' : ChangesOnly region t u) :
    ChangesOnly region s u := AgreeOn.trans h h'

theorem ChangesOnly.mono (h : ChangesOnly region s t) (hsub : ∀ x y, region x y → other x y) :
    ChangesOnly other s t := AgreeOn.mono h fun x y hnot hin => hnot (hsub x y hin)

theorem ChangesOnly.foldl {α : Type} {step : Screen → α → Screen} {l : List α}
    (hstep : ∀ a ∈ l, ∀ s, ChangesOnly region s (step s a)) (s : Screen) :
    ChangesOnly region s (l.foldl step s) := agreeOn_foldl hstep s

/-- A part of the screen that a drawing does not come near. -/
theorem ChangesOnly.agreeOn (h : ChangesOnly region s t) (hout : ∀ x y, other x y → ¬ region x y) :
    AgreeOn other s t := AgreeOn.mono h hout

/-- Entries of a list that are drawn one below the other, each on its own line. -/
theorem agreeOn_foldl_zipIdx {α : Type} (step : Screen → α × Nat → Screen) {first i : Nat}
    {l : List α} {a : α} (ha : l[i]? = some a)
    (hstep : ∀ e s t, AgreeOn (onLine (first + i)) s t →
      AgreeOn (onLine (first + i)) (step s e) (step t e))
    (hline : ∀ e s, ChangesOnly (onLine (first + e.2)) s (step s e)) (s : Screen) :
    AgreeOn (onLine (first + i)) (step s (a, i)) (l.zipIdx.foldl step s) := by
  have hentry : l.zipIdx[i]? = some (a, i) := by simp [ha]
  refine agreeOn_foldl_of_getElem? hentry (hstep (a, i)) (fun j e he hne s => ?_) s
  rw [List.getElem?_zipIdx, Option.map_eq_some_iff] at he
  obtain ⟨b, -, rfl⟩ := he
  -- any other entry is on another line
  refine (hline _ s).agreeOn fun x y hhere hother => ?_
  simp only [onLine] at hhere hother
  omega

/-! ## Runs and rectangles -/

theorem changesOnly_modify {x y : Nat} (hin : region x y) (s : Screen) (f : Cell → Cell) :
    ChangesOnly region s (s.modify x y f) where
  area := area_modify s x y f
  size := size_modify s x y f
  cell x' y' hout := by
    rw [cell?_modify, if_neg]
    rintro ⟨rfl, rfl⟩
    exact hout hin

theorem changesOnly_draw {x y : Nat} (hin : region x y) (s : Screen) (symbol : List Char)
    (style : Style) : ChangesOnly region s (s.draw x y symbol style) := changesOnly_modify hin s _

theorem changesOnly_modifyRun {x y count : Nat} (hin : ∀ x', x ≤ x' → x' < x + count → region x' y)
    (s : Screen) (f : Cell → Cell) : ChangesOnly region s (s.modifyRun x y count f) :=
  ChangesOnly.foldl (fun i hi s =>
    changesOnly_modify (hin (x + i) (by omega) (by have := List.mem_range.mp hi; omega)) s f) s

theorem changesOnly_modifyArea {r : Rect} (hin : ∀ x y, r.contains x y = true → region x y)
    (s : Screen) (f : Cell → Cell) : ChangesOnly region s (s.modifyArea r f) := by
  refine ChangesOnly.foldl (fun i hi s => changesOnly_modifyRun (fun x' hx hx' => ?_) s f) s
  have := List.mem_range.mp hi
  exact hin _ _ (Rect.contains_iff.mpr
    ⟨hx, hx', Nat.le_add_right .., Nat.add_lt_add_left this r.y⟩)

/-! ## Texts -/

/-- Columns that clusters take when they are written within a number of columns. -/
def written : Nat → List (List Char) → Nat
  | _, [] => 0
  | columns, g :: rest =>
    let w := Text.charsWidth g
    if g.any Text.isControl || w = 0 then written columns rest
    else if w ≤ columns then w + written (columns - w) rest
    else 0

theorem written_le (columns : Nat) (gs : List (List Char)) : written columns gs ≤ columns := by
  fun_induction written columns gs with
  | case1 => exact Nat.zero_le _
  | case2 columns g rest w hskip ih => exact ih
  | case3 columns g rest w hskip hfits ih => omega
  | case4 => exact Nat.zero_le _

/-- Columns of clusters. -/
def clustersWidth : List (List Char) → Nat
  | [] => 0
  | g :: rest => Text.charsWidth g + clustersWidth rest

theorem written_le_clustersWidth (columns : Nat) (gs : List (List Char)) :
    written columns gs ≤ clustersWidth gs := by
  fun_induction written columns gs with
  | case1 => exact Nat.zero_le _
  | case2 columns g rest w hskip ih => exact Nat.le_trans ih (Nat.le_add_left _ _)
  | case3 columns g rest w hskip hfits ih => exact Nat.add_le_add_left ih w
  | case4 => exact Nat.zero_le _

/-- The column after a text does not depend on the screen. -/
theorem snd_writeClusters (s : Screen) (x y columns : Nat) (style : Style)
    (gs : List (List Char)) :
    (s.writeClusters x y columns style gs).2 = x + written columns gs := by
  fun_induction writeClusters s x y columns style gs with
  | case1 => rfl
  | case2 s x columns g rest w hskip ih => rw [ih, written, if_pos hskip]
  | case3 s x columns g rest w hskip hfits ih =>
    rw [ih, written, if_neg hskip, if_pos hfits, Nat.add_assoc]
  | case4 s x columns g rest w hskip hfits => rw [written, if_neg hskip, if_neg hfits]; rfl

theorem changesOnly_writeClusters {x y columns : Nat} {gs : List (List Char)}
    (hin : ∀ x', x ≤ x' → x' < x + written columns gs → region x' y) (s : Screen) (style : Style) :
    ChangesOnly region s (s.writeClusters x y columns style gs).1 := by
  fun_induction writeClusters s x y columns style gs with
  | case1 s => exact .refl s
  | case2 s x columns g rest w hskip ih =>
    rw [written, if_pos hskip] at hin
    exact ih hin
  | case3 s x columns g rest w hskip hfits ih =>
    have hwritten : written columns (g :: rest) = w + written (columns - w) rest := by
      rw [written, if_neg hskip, if_pos hfits]
    have hpos : 0 < w := by
      simp only [Bool.or_eq_true, decide_eq_true_eq, not_or] at hskip
      omega
    rw [hwritten] at hin
    have hdraw : ChangesOnly region s (s.draw x y g style) :=
      changesOnly_draw (hin x (by omega) (by omega)) s g style
    have hhide : ChangesOnly region (s.draw x y g style)
        ((s.draw x y g style).modifyRun (x + 1) y (w - 1) fun _ => {}) :=
      changesOnly_modifyRun (fun x' hx hx' => hin x' (by omega) (by omega)) _ _
    exact (hdraw.trans hhide).trans (ih fun x' hx hx' => hin x' (by omega) (by omega))
  | case4 s => exact .refl s

theorem AgreeOn.writeClusters (h : AgreeOn region s t) (x y columns : Nat) (style : Style)
    (gs : List (List Char)) :
    AgreeOn region (s.writeClusters x y columns style gs).1
      (t.writeClusters x y columns style gs).1 := by
  induction gs generalizing s t x columns with
  | nil => exact h
  | cons g rest ih =>
    rw [Screen.writeClusters, Screen.writeClusters]
    split
    · exact ih h x columns
    · split
      · exact ih ((h.modify x y _).modifyRun _ _ _ _) _ _
      · exact h

/-- Columns that a text takes from a column on, within a number of columns and an edge. -/
def textColumns (x columns edge : Nat) (text : String) : Nat :=
  written (min columns (edge - x)) (Text.clusters text.toList)

theorem textColumns_le (x columns edge : Nat) (text : String) :
    textColumns x columns edge text ≤ columns ∧ textColumns x columns edge text ≤ edge - x := by
  have := written_le (min columns (edge - x)) (Text.clusters text.toList)
  rw [textColumns]
  omega

/-- A text takes no more columns than its clusters have. -/
theorem textColumns_le_width (x columns edge : Nat) (text : String) :
    textColumns x columns edge text ≤ clustersWidth (Text.clusters text.toList) :=
  written_le_clustersWidth _ _

theorem snd_writeAtMost (s : Screen) (x y columns : Nat) (text : String) (style : Style) :
    (s.writeAtMost x y columns text style).2 = x + textColumns x columns s.area.right text :=
  snd_writeClusters ..

theorem changesOnly_writeAtMost {x y columns : Nat} {text : String} {s : Screen}
    (hin : ∀ x', x ≤ x' → x' < x + textColumns x columns s.area.right text → region x' y)
    (style : Style) : ChangesOnly region s (s.writeAtMost x y columns text style).1 :=
  changesOnly_writeClusters hin s style

theorem AgreeOn.writeAtMost (h : AgreeOn region s t) (x y columns : Nat) (text : String)
    (style : Style) :
    AgreeOn region (s.writeAtMost x y columns text style).1
      (t.writeAtMost x y columns text style).1 := by
  rw [Screen.writeAtMost, Screen.writeAtMost, h.area]
  exact h.writeClusters ..

theorem AgreeOn.write (h : AgreeOn region s t) (x y : Nat) (text : String) (style : Style) :
    AgreeOn region (s.write x y text style) (t.write x y text style) := h.writeAtMost ..

/-! ## Lines and frames -/

/-- Clusters of a line stay in the first line of its rectangle. One without a column may join the
cell before the end of the rectangle. -/
theorem changesOnly_drawClusters {area : Rect} {x : Nat} {gs : List (List Char)}
    (hin : ∀ x', area.x ≤ x' → x' < area.right → region x' area.y) (hx : area.x ≤ x)
    (hempty : area.x < area.right) (s : Screen) (first : Bool) (hfirst : first = true → x = area.x)
    (style : Style) : ChangesOnly region s (s.drawClusters area x first style gs) := by
  fun_induction drawClusters s area x first style gs with
  | case1 s => exact .refl s
  | case2 s => exact .refl s
  | case3 s x first g rest w hfits drawn ih =>
    have hdrawn : ChangesOnly region s drawn := by
      show ChangesOnly region s (if _ then _ else _)
      split
      next h =>
        rw [hfirst h]
        exact changesOnly_draw (hin _ (Nat.le_refl _) hempty) s g style
      split
      next h =>
        rw [h]
        exact changesOnly_modify (hin _ (Nat.le_refl _) hempty) s _
      split
      next h => exact changesOnly_modify (hin _ (by omega) (by omega)) s _
      next h => exact changesOnly_draw (hin x hx (by omega)) s g style
    have hhide : ChangesOnly region drawn (drawn.modifyRun (x + 1) area.y (w - 1) fun _ => {}) :=
      changesOnly_modifyRun (fun x' hlow hhigh => hin x' (by omega) (by omega)) _ _
    exact (hdrawn.trans hhide).trans (ih (by omega) (fun h => nomatch h))

theorem changesOnly_drawSpans {area : Rect} {spans : List Span}
    (hin : ∀ x', area.x ≤ x' → x' < area.right → region x' area.y) (s : Screen) :
    ChangesOnly region s (s.drawSpans area spans) := by
  fun_induction drawSpans s area spans with
  | case1 s => exact .refl s
  | case2 s area span rest hwidth ih => exact ih hin
  | case3 s area span rest hwidth hempty => exact .refl s
  | case4 s area span rest hwidth hempty drawn ih =>
    have hroom : area.x < area.right := Nat.lt_add_of_pos_right (Rect.pos_of_not_isEmpty hempty).1
    have hdrawn : ChangesOnly region s drawn :=
      changesOnly_drawClusters hin (Nat.le_refl _) hroom s true (fun _ => rfl) span.style
    refine hdrawn.trans (ih fun x' hlow hhigh => ?_)
    simp only [Rect.right] at hlow hhigh
    exact hin x' (by omega) (by simp only [Rect.right]; omega)

theorem changesOnly_drawLine {area : Rect}
    (hin : ∀ x y, area.contains x y = true → region x y) (s : Screen) (spans : List Span) :
    ChangesOnly region s (s.drawLine area spans) := by
  rw [drawLine]
  split
  · exact .refl s
  next hempty =>
    refine changesOnly_drawSpans (fun x' hlow hhigh => hin x' _ ?_) s
    have hline : (area.inter s.area).y < (area.inter s.area).bottom :=
      Nat.lt_add_of_pos_right (Rect.pos_of_not_isEmpty hempty).2
    exact Rect.contains_of_inter (Rect.contains_iff.mpr ⟨hlow, hhigh, Nat.le_refl _, hline⟩)

theorem changesOnly_drawBorder {r : Rect} (hin : ∀ x y, r.contains x y = true → region x y)
    (hempty : ¬ r.isEmpty = true) (s : Screen) (style : Style) :
    ChangesOnly region s (s.drawBorder r style) := by
  obtain ⟨hwidth, hheight⟩ := Rect.pos_of_not_isEmpty hempty
  have hright : r.right = r.x + r.width := rfl
  have hbottom : r.bottom = r.y + r.height := rfl
  have hcell : ∀ x y, r.x ≤ x → x < r.right → r.y ≤ y → y < r.bottom → region x y :=
    fun x y hx hx' hy hy' => hin x y (Rect.contains_iff.mpr ⟨hx, hx', hy, hy'⟩)
  have hcolumn : ∀ x (c : Char) s, r.x ≤ x → x < r.right → ChangesOnly region s
      ((List.range r.height).foldl (fun s i => s.draw x (r.y + i) [c] style) s) := by
    intro x c s hx hx'
    refine ChangesOnly.foldl (fun i hi s => changesOnly_draw ?_ s [c] style) s
    have := List.mem_range.mp hi
    exact hcell x _ hx hx' (by omega) (by omega)
  have hline : ∀ y (c : Char) s, r.y ≤ y → y < r.bottom → ChangesOnly region s
      ((List.range r.width).foldl (fun s i => s.draw (r.x + i) y [c] style) s) := by
    intro y c s hy hy'
    refine ChangesOnly.foldl (fun i hi s => changesOnly_draw ?_ s [c] style) s
    have := List.mem_range.mp hi
    exact hcell _ y (by omega) (by omega) hy hy'
  have hcorner : ∀ x y (c : Char) s, r.x ≤ x → x < r.right → r.y ≤ y → y < r.bottom →
      ChangesOnly region s (s.draw x y [c] style) :=
    fun x y c s hx hx' hy hy' => changesOnly_draw (hcell x y hx hx' hy hy') s [c] style
  have hx : r.x < r.right := by omega
  have hlast : r.x ≤ r.right - 1 ∧ r.right - 1 < r.right := by omega
  have hy : r.y < r.bottom := by omega
  have hlow : r.y ≤ r.bottom - 1 ∧ r.bottom - 1 < r.bottom := by omega
  have hedges := (((hcolumn r.x '│' s (Nat.le_refl _) hx).trans
    (hline r.y '─' _ (Nat.le_refl _) hy)).trans
    (hcolumn (r.right - 1) '│' _ hlast.1 hlast.2)).trans
    (hline (r.bottom - 1) '─' _ hlow.1 hlow.2)
  exact (((hedges.trans (hcorner _ _ '┘' _ hlast.1 hlast.2 hlow.1 hlow.2)).trans
    (hcorner _ _ '┐' _ hlast.1 hlast.2 (Nat.le_refl _) hy)).trans
    (hcorner _ _ '└' _ (Nat.le_refl _) hx hlow.1 hlow.2)).trans
    (hcorner _ _ '┌' _ (Nat.le_refl _) hx (Nat.le_refl _) hy)

/-- A frame stays in its rectangle, its title too. -/
theorem changesOnly_drawFrame {area : Rect} (hin : ∀ x y, area.contains x y = true → region x y)
    (s : Screen) (title : String) (style : Style) :
    ChangesOnly region s (s.drawFrame area title style) := by
  rw [drawFrame]
  split
  · exact .refl s
  next hempty =>
    have hin' : ∀ x y, (area.inter s.area).contains x y = true → region x y :=
      fun x y h => hin x y (Rect.contains_of_inter h)
    refine (changesOnly_drawBorder hin' hempty s style).trans (changesOnly_drawLine ?_ _ _)
    obtain ⟨hwidth, hheight⟩ := Rect.pos_of_not_isEmpty hempty
    intro x y h
    refine hin' x y ?_
    simp only [Rect.contains_iff, Rect.right, Rect.bottom] at h ⊢
    omega

/-! ## Paragraphs -/

/-- Columns that the clusters of a line take. -/
def lineWidth : List Glyph → Nat
  | [] => 0
  | g :: rest => g.width + lineWidth rest

theorem changesOnly_drawGlyphs {x y : Nat} {gs : List Glyph}
    (hin : ∀ x', x ≤ x' → x' < x + lineWidth gs → region x' y) (s : Screen) :
    ChangesOnly region s (s.drawGlyphs x y gs) := by
  induction gs generalizing s x with
  | nil => exact .refl s
  | cons g rest ih =>
    rw [lineWidth] at hin
    rw [drawGlyphs]
    split
    · exact ih (fun x' hlow hhigh => hin x' hlow (by omega)) s
    · have hdrawn : ChangesOnly region s (s.draw x y g.symbol g.style) :=
        changesOnly_draw (hin x (by omega) (by omega)) s _ _
      exact hdrawn.trans (ih (fun x' hlow hhigh => hin x' (by omega) (by omega)) _)

theorem AgreeOn.drawGlyphs (h : AgreeOn region s t) (x y : Nat) (gs : List Glyph) :
    AgreeOn region (s.drawGlyphs x y gs) (t.drawGlyphs x y gs) := by
  induction gs generalizing s t x with
  | nil => exact h
  | cons g rest ih =>
    rw [Screen.drawGlyphs, Screen.drawGlyphs]
    split
    · exact ih h x
    · exact ih (h.modify _ _ _) _

/-- A paragraph stays in its rectangle if its lines, as they are fitted, are no wider. -/
theorem changesOnly_drawParagraph {area : Rect} {lines : List (List Span)} {fitting : Fitting}
    (hin : ∀ x y, area.contains x y = true → region x y)
    (hfits : ∀ l ∈ fitting.fit area.width lines, lineWidth l ≤ area.width) (s : Screen)
    (style : Style) (scroll : Nat) :
    ChangesOnly region s (s.drawParagraph area lines style fitting scroll) := by
  have hpatched : ChangesOnly region s (s.patchArea area style) := changesOnly_modifyArea hin s _
  rw [drawParagraph]
  split
  · exact hpatched
  refine hpatched.trans (ChangesOnly.foldl (fun l hl s => changesOnly_drawGlyphs ?_ s) _)
  intro x' hlow hhigh
  have hfit := hfits l.1
    (List.mem_of_mem_drop (List.mem_of_mem_take (List.fst_mem_of_mem_zipIdx hl)))
  have hline : l.2 < area.height := by
    have := List.snd_lt_of_mem_zipIdx hl
    rw [List.length_take] at this
    omega
  exact hin _ _ (Rect.contains_iff.mpr ⟨hlow, by simp only [Rect.right]; omega, by omega,
    by simp only [Rect.bottom]; omega⟩)

theorem lineWidth_cutLine {width used : Nat} (h : used ≤ width) (gs : List Glyph) :
    used + lineWidth (cutLine width used gs) ≤ width := by
  fun_induction cutLine width used gs with
  | case1 => exact h
  | case2 used g rest hwide ih => exact ih h
  | case3 => exact h
  | case4 used g rest hwide hfits ih =>
    have := ih (by omega)
    rw [lineWidth]
    omega

/-- Lines that are cut fit. -/
theorem lineWidth_le_of_mem_cut {width : Nat} {lines : List (List Span)} {l : List Glyph}
    (h : l ∈ Fitting.cut.fit width lines) : lineWidth l ≤ width := by
  obtain ⟨spans, -, rfl⟩ := List.mem_map.mp h
  have := lineWidth_cutLine (Nat.zero_le width) (Glyph.ofSpans spans)
  omega

end Screen

end PropertySheet
