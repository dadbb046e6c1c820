import PropertySheet.Proofs.Screen.Regions
import PropertySheet.Proofs.Sheet.Adding
import PropertySheet.Sheet.Draw

/-!
# Where the rows are drawn

The place of a row on the screen is computed three times: the visible slice cuts the order, a cell
is placed by the position of its row, and a drawing counts the rows as it goes.
`rows_drawn_in_cells` says that the three agree: the rows that have a cell are those of the slice,
and the line of the cell is the one on which the row is drawn.

`drawChrome` is the grid without its rows. What the rows add to it is said line by line: a row
changes only its own line (`DrawnInColumns`), and what it shows there does not depend on the
other lines (`agreeOn_drawRow`).
-/

namespace PropertySheet

open Screen

/-! ## Coordinates and columns -/

/-- The space inside a border ends within the coordinates. -/
theorem Rect.inside_le (r : Rect) :
    r.inside.right ≤ maxCoordinate ∧ r.inside.bottom ≤ maxCoordinate := by
  simp only [inside, make, right, bottom]
  omega

/-- A rectangle that ends within the coordinates is not cut. -/
theorem Rect.make_eq {x y width height : Nat} (hright : x + width ≤ maxCoordinate)
    (hbottom : y + height ≤ maxCoordinate) : make x y width height = { x, y, width, height } := by
  rw [make, Nat.min_eq_left (by omega), Nat.min_eq_left (by omega)]

theorem asCoordinate_of_le {n : Nat} (h : n ≤ maxCoordinate) : asCoordinate n = n :=
  Nat.mod_eq_of_lt (Nat.lt_succ_of_le h)

/-- Where the grid is drawn, its columns have room. -/
theorem ColumnWidths.ofWidth_room {width : Nat} (h : 10 ≤ width) :
    2 ≤ (ofWidth width).name ∧ (ofWidth width).actions = actionsWidth ∧
      (ofWidth width).actionsX + (ofWidth width).actions = width := by
  simp only [ofWidth, actionsX, valueX, gap, actionsWidth, minNameWidth]
  omega

/-- The cells of a line from a column on. -/
def stretch (x y width : Nat) (x' y' : Nat) : Prop := y' = y ∧ x ≤ x' ∧ x' < x + width

namespace Screen

variable {region : Nat → Nat → Prop} {s t : Screen}

/-- Write a short text where it is called for. -/
def writeIf (s : Screen) (shown : Prop) [Decidable shown] (x y : Nat) (text : String)
    (style : Style) : Screen :=
  if shown then s.write x y text style else s

theorem changesOnly_writeIf {shown : Prop} [Decidable shown] {x y columns : Nat} {text : String}
    (hin : ∀ x', x ≤ x' → x' < x + columns → region x' y)
    (hcolumns : clustersWidth (Text.clusters text.toList) ≤ columns) (s : Screen)
    (style : Style) : ChangesOnly region s (s.writeIf shown x y text style) := by
  unfold writeIf
  split
  · refine changesOnly_writeAtMost (fun x' hx hx' => hin x' hx ?_) style
    have := textColumns_le_width x maxCoordinate s.area.right text
    omega
  · exact .refl s

theorem AgreeOn.writeIf (h : AgreeOn region s t) (shown : Prop) [Decidable shown] (x y : Nat)
    (text : String) (style : Style) :
    AgreeOn region (s.writeIf shown x y text style) (t.writeIf shown x y text style) := by
  unfold Screen.writeIf
  split
  · exact h.write x y text style
  · exact h

end Screen

namespace Sheet

/-! ## One row -/

section Row

variable {region : Nat → Nat → Prop} {s t : Screen} {w : ColumnWidths}

/-- The name of a row and, behind it, the mark for more information. -/
def drawName (m : CellMarkup) (selected : Bool) (w : ColumnWidths) (x y : Nat) (s : Screen) :
    Screen :=
  let named := s.writeAtMost x y w.name m.text
    (if selected then selectedStyle else if m.required then .boldOf .white else .of .white)
  named.1.writeIf (m.info = true) (min named.2 (x + (w.name - Markup.infoWidth))) y " ?"
    (.of .darkGray)

def drawValue (m : CellMarkup) (selected : Bool) (w : ColumnWidths) (x y : Nat) (s : Screen) :
    Screen :=
  (s.writeAtMost (x + w.valueX) y w.value m.text
    (if selected then selectedStyle else valueStyle m.style)).1

def drawActions (a : Actions) (w : ColumnWidths) (x y : Nat) (s : Screen) : Screen :=
  (s.writeIf (a.goToService = true) (x + w.actionsX) y "→" (.of .cyan)).writeIf
    (a.delete = true ∧ 2 < w.actions) (x + w.actionsX + 2) y "✕" (.of .red)

/-- A row is drawn column by column. -/
theorem drawRow_eq (m : RowMarkup) (selected : Bool) (w : ColumnWidths) (x y : Nat) (s : Screen) :
    drawRow m selected w x y s =
      drawActions m.actions w x y (drawValue m.value selected w x y
        (drawName m.name selected w x y s)) := rfl

theorem changesOnly_drawName (hname : 2 ≤ w.name) (m : CellMarkup) (selected : Bool) (x y : Nat)
    (s : Screen) : ChangesOnly (stretch x y w.name) s (drawName m selected w x y s) := by
  unfold drawName
  extract_lets named
  have hend : named.2 = x + textColumns x w.name s.area.right m.text := snd_writeAtMost ..
  have hfits := (textColumns_le x w.name s.area.right m.text).1
  have hnamed : ChangesOnly (stretch x y w.name) s named.1 :=
    changesOnly_writeAtMost (fun x' hx hx' => ⟨rfl, hx, by omega⟩) _
  have hmark : ∀ x', min named.2 (x + (w.name - Markup.infoWidth)) ≤ x' →
      x' < min named.2 (x + (w.name - Markup.infoWidth)) + Markup.infoWidth →
      stretch x y w.name x' y := by
    intro x' hx hx'
    have : Markup.infoWidth = 2 := rfl
    exact ⟨rfl, by omega, by omega⟩
  exact hnamed.trans (changesOnly_writeIf hmark (by decide +kernel) _ _)

theorem changesOnly_drawValue (m : CellMarkup) (selected : Bool) (x y : Nat) (s : Screen) :
    ChangesOnly (stretch (x + w.valueX) y w.value) s (drawValue m selected w x y s) := by
  have hfits := (textColumns_le (x + w.valueX) w.value s.area.right m.text).1
  exact changesOnly_writeAtMost (fun x' hx hx' => ⟨rfl, hx, by omega⟩) _

theorem changesOnly_drawActions (hactions : w.actions = ColumnWidths.actionsWidth) (a : Actions)
    (x y : Nat) (s : Screen) :
    ChangesOnly (stretch (x + w.actionsX) y w.actions) s (drawActions a w x y s) := by
  have : w.actions = 4 := hactions
  have harrow : ∀ x', x + w.actionsX ≤ x' → x' < x + w.actionsX + 1 →
      stretch (x + w.actionsX) y w.actions x' y :=
    fun x' hx hx' => ⟨rfl, hx, by omega⟩
  have hcross : ∀ x', x + w.actionsX + 2 ≤ x' → x' < x + w.actionsX + 2 + 1 →
      stretch (x + w.actionsX) y w.actions x' y :=
    fun x' hx hx' => ⟨rfl, by omega, by omega⟩
  exact (changesOnly_writeIf harrow (by decide +kernel) s _).trans
    (changesOnly_writeIf hcross (by decide +kernel) _ _)

/-- A row is drawn as its name, its value and its actions, each in its column and nowhere else. -/
structure DrawnInColumns (w : ColumnWidths) (x y : Nat) (m : RowMarkup) (selected : Bool) :
    Prop where
  drawn : ∀ s, drawRow m selected w x y s =
    drawActions m.actions w x y
      (drawValue m.value selected w x y (drawName m.name selected w x y s))
  name : ∀ s, ChangesOnly (stretch x y w.name) s (drawName m.name selected w x y s)
  value : ∀ s, ChangesOnly (stretch (x + w.valueX) y w.value) s
    (drawValue m.value selected w x y s)
  actions : ∀ s, ChangesOnly (stretch (x + w.actionsX) y w.actions) s
    (drawActions m.actions w x y s)

theorem drawnInColumns (hname : 2 ≤ w.name) (hactions : w.actions = ColumnWidths.actionsWidth)
    (m : RowMarkup) (selected : Bool) (x y : Nat) : DrawnInColumns w x y m selected where
  drawn := drawRow_eq m selected w x y
  name := changesOnly_drawName hname m.name selected x y
  value := changesOnly_drawValue m.value selected x y
  actions := changesOnly_drawActions hactions m.actions x y

/-- A row changes its line only. -/
theorem DrawnInColumns.changesOnly {x y : Nat} {m : RowMarkup} {selected : Bool}
    (h : DrawnInColumns w x y m selected) (s : Screen) :
    ChangesOnly (onLine y) s (drawRow m selected w x y s) := by
  rw [h.drawn]
  have hname := (h.name s).mono fun _ _ hin => hin.1
  have hvalue := fun s => (h.value s).mono fun _ _ hin => hin.1
  have hactions := fun s => (h.actions s).mono fun _ _ hin => hin.1
  exact (hname.trans (hvalue _)).trans (hactions _)

theorem agreeOn_drawName (h : AgreeOn region s t) (m : CellMarkup) (selected : Bool)
    (w : ColumnWidths) (x y : Nat) :
    AgreeOn region (drawName m selected w x y s) (drawName m selected w x y t) := by
  unfold drawName
  extract_lets named named'
  -- the mark stands at the same place on both screens
  have hend : named'.2 = named.2 := by
    rw [snd_writeAtMost, snd_writeAtMost, h.area]
  rw [hend]
  exact (h.writeAtMost ..).writeIf ..

/-- What a row shows on a part of the screen depends only on what was there before. -/
theorem agreeOn_drawRow (h : AgreeOn region s t) (m : RowMarkup) (selected : Bool)
    (w : ColumnWidths) (x y : Nat) :
    AgreeOn region (drawRow m selected w x y s) (drawRow m selected w x y t) := by
  rw [drawRow_eq, drawRow_eq]
  have hvalue : AgreeOn region (drawValue m.value selected w x y (drawName m.name selected w x y s))
      (drawValue m.value selected w x y (drawName m.name selected w x y t)) :=
    (agreeOn_drawName h m.name selected w x y).writeAtMost ..
  exact (hvalue.writeIf ..).writeIf ..

end Row

/-! ## The grid line by line -/

/-- What is drawn above the rows: the frame, the header in the first line inside it, and the note
that there are no rows. -/
def drawTop (s : Sheet) (area : Rect) (screen : Screen) : Screen :=
  let inner := area.inside
  let widths := s.drawnWidths area
  let header : Style := { color := some .white, bold := true, underlined := true }
  (((screen.drawFrame area s.title (.of .cyan)).write inner.x inner.y "Property" header).write
    (inner.x + widths.valueX) inner.y "Value" header).writeIf (s.view.order.isEmpty = true)
      inner.x (inner.y + 1) "No properties" (.of .darkGray)

/-- The keys, in the last line inside the frame. -/
def drawHelp (s : Sheet) (area : Rect) (screen : Screen) : Screen :=
  (screen.writeAtMost area.inside.x (area.inside.bottom - 1) area.inside.width s.help
    (.of .darkGray)).1

/-- The grid without its rows. -/
def drawChrome (s : Sheet) (area : Rect) (screen : Screen) : Screen :=
  s.drawHelp area (s.drawTop area screen)

/-- The first line that a row can take. -/
def firstLine (area : Rect) : Nat := area.inside.y + 1

/-- One row of the visible slice, by its id and its place there. -/
def drawEntry (s : Sheet) (area : Rect) (screen : Screen) (e : Nat × Nat) : Screen :=
  match s.store.findById? e.1 with
  | none => screen
  | some r =>
    drawRow (s.markupFor area (s.drawnWidths area) r) (s.view.selectedId? = some e.1)
      (s.drawnWidths area) area.inside.x (firstLine area + e.2) screen

theorem drawEntry_of_drawnRow? {s : Sheet} {area : Rect} {id : Nat} {m : RowMarkup}
    (hm : s.drawnRow? area id = some m) (screen : Screen) (i : Nat) :
    s.drawEntry area screen (id, i) =
      drawRow m (s.view.selectedId? = some id) (s.drawnWidths area) area.inside.x
        (firstLine area + i) screen := by
  obtain ⟨r, hr, rfl⟩ := Option.map_eq_some_iff.mp hm
  rw [drawEntry, hr]

theorem drawGrid_eq {s : Sheet} {area : Rect} (hheight : 3 ≤ area.inside.height)
    (hwidth : 10 ≤ area.inside.width) (screen : Screen) :
    s.drawGrid area screen = s.drawHelp area
      ((s.shownIds (area.inside.height - GridView.chromeLines)).zipIdx.foldl (s.drawEntry area)
        (s.drawTop area screen)) := by
  have hroom : ¬ (area.inside.height < 3 ∨ area.inside.width < 10) := by omega
  rw [drawGrid, if_neg hroom]
  rfl

section Lines

variable {s : Sheet} {area : Rect}

theorem changesOnly_drawEntry (hcolumns : s.drawnWidths area = .ofWidth area.inside.width)
    (hwidth : 10 ≤ area.inside.width) (screen : Screen) (e : Nat × Nat) :
    ChangesOnly (onLine (firstLine area + e.2)) screen (s.drawEntry area screen e) := by
  obtain ⟨hname, hactions, -⟩ := ColumnWidths.ofWidth_room hwidth
  unfold drawEntry
  rw [hcolumns]
  split
  · exact .refl screen
  · exact (drawnInColumns hname hactions _ _ _ _).changesOnly screen

theorem agreeOn_drawEntry {region : Nat → Nat → Prop} {screen other : Screen}
    (h : AgreeOn region screen other) (e : Nat × Nat) :
    AgreeOn region (s.drawEntry area screen e) (s.drawEntry area other e) := by
  unfold drawEntry
  split
  · exact h
  · exact agreeOn_drawRow h ..

theorem changesOnly_drawHelp (s : Sheet) (area : Rect) (screen : Screen) :
    ChangesOnly (onLine (area.inside.bottom - 1)) screen (s.drawHelp area screen) := by
  refine changesOnly_writeAtMost (fun x' _ _ => ?_) _
  rfl

variable (hheight : 3 ≤ area.inside.height) (hwidth : 10 ≤ area.inside.width)
  (hcolumns : s.drawnWidths area = .ofWidth area.inside.width)

include hheight hwidth hcolumns

/-- On the line of a row nothing but the row is drawn. -/
theorem agreeOn_drawGrid_of_shown {i id : Nat}
    (h : (s.shownIds (area.inside.height - GridView.chromeLines))[i]? = some id)
    (screen : Screen) :
    AgreeOn (onLine (firstLine area + i)) (s.drawEntry area (s.drawChrome area screen) (id, i))
      (s.drawGrid area screen) := by
  have hbelow : i < area.inside.height - GridView.chromeLines := by
    obtain ⟨hi, -⟩ := List.getElem?_eq_some_iff.mp h
    rw [shownIds, List.length_take] at hi
    omega
  have hhelp : ∀ screen, AgreeOn (onLine (firstLine area + i)) screen (s.drawHelp area screen) := by
    refine fun screen => (changesOnly_drawHelp s area screen).agreeOn fun x' y' hrow hlast => ?_
    simp only [onLine, firstLine, Rect.bottom, GridView.chromeLines] at hrow hlast hbelow
    omega
  have hrow : AgreeOn (onLine (firstLine area + i))
      (s.drawEntry area (s.drawTop area screen) (id, i))
      ((s.shownIds (area.inside.height - GridView.chromeLines)).zipIdx.foldl (s.drawEntry area)
        (s.drawTop area screen)) :=
    agreeOn_foldl_zipIdx (s.drawEntry area) h (fun e _ _ hsame => agreeOn_drawEntry hsame e)
      (fun e screen => changesOnly_drawEntry hcolumns hwidth screen e) _
  rw [drawGrid_eq hheight hwidth]
  exact ((agreeOn_drawEntry (hhelp _) _).symm.trans hrow).trans (hhelp _)

/-- Off the lines of the rows the grid is drawn as if there were none in view. -/
theorem agreeOn_drawGrid_chrome (screen : Screen) :
    AgreeOn
      (fun _ y => ∀ i < (s.shownIds (area.inside.height - GridView.chromeLines)).length,
        y ≠ firstLine area + i)
      (s.drawChrome area screen) (s.drawGrid area screen) := by
  rw [drawGrid_eq hheight hwidth]
  refine AgreeOn.writeAtMost (agreeOn_foldl (fun e he screen => ?_) _) ..
  have hplace : e.2 < (s.shownIds (area.inside.height - GridView.chromeLines)).length := by
    simpa using List.snd_lt_of_mem_zipIdx he
  exact (changesOnly_drawEntry hcolumns hwidth screen e).agreeOn fun x' y' hnone => hnone e.2 hplace

end Lines

end Sheet

/-! ## Cells of the rows in view -/

namespace GridView

variable {g : GridView} {id i : Nat}

theorem getElem?_viewport_iff :
    g.viewport[i]? = some id ↔ i < g.viewportRows ∧ g.order[g.offset + i]? = some id := by
  rw [viewport, List.getElem?_take, List.getElem?_drop]
  split
  next h => simp [h]
  next h => simp [h]

section Placed

variable (hplaced : ∀ id i, g.positions.get? id = some i ↔ g.order[i]? = some id)

include hplaced

theorem viewport_nodup : g.viewport.Nodup := by
  have horder : g.order.Nodup := by
    rw [List.nodup_iff_getElem?_ne_getElem?]
    intro i j hij hj hsame
    -- an id has one place
    have hi := (hplaced _ i).mpr (hsame.trans (List.getElem?_eq_getElem hj))
    have := hi.symm.trans ((hplaced _ j).mpr (List.getElem?_eq_getElem hj))
    simp only [Option.some.injEq] at this
    omega
  exact horder.sublist ((List.take_sublist _ _).trans (List.drop_sublist _ _))

theorem mem_viewport_of_isSome (h : (g.cellArea? id).isSome) : id ∈ g.viewport := by
  obtain ⟨cell, hcell⟩ := Option.isSome_iff_exists.mp h
  obtain ⟨index, hindex, hcell⟩ := Option.bind_eq_some_iff.mp hcell
  split at hcell
  next => cases hcell
  next hin =>
    refine List.mem_of_getElem? (i := index - g.offset) (getElem?_viewport_iff.mpr ⟨by omega, ?_⟩)
    rw [Nat.add_sub_cancel' (by omega)]
    exact (hplaced id index).mp hindex

/-- The value cell of a row in view, where the columns are those of the area: nothing is cut. -/
theorem cellArea?_of_viewport (hwidths : g.widths = .ofWidth g.area.inside.width)
    (hheight : 3 ≤ g.area.inside.height) (hwidth : 10 ≤ g.area.inside.width)
    (h : g.viewport[i]? = some id) :
    g.cellArea? id = some
      { x := g.area.inside.x + g.widths.valueX, y := g.area.inside.y + 1 + i,
        width := g.widths.value, height := 1 } := by
  obtain ⟨hi, horder⟩ := getElem?_viewport_iff.mp h
  have hindex : g.positions.get? id = some (g.offset + i) := (hplaced _ _).mpr horder
  have hin : ¬ (g.offset + i < g.offset ∨ g.offset + g.viewportRows ≤ g.offset + i) := by omega
  obtain ⟨hright, hbottom⟩ := g.area.inside_le
  obtain ⟨-, -, hcolumns⟩ := ColumnWidths.ofWidth_room hwidth
  rw [← hwidths, ColumnWidths.actionsX] at hcolumns
  simp only [viewportRows, chromeLines, Rect.right, Rect.bottom] at hi hright hbottom
  have hline : asCoordinate (g.offset + i - g.offset) = i := by
    rw [Nat.add_sub_cancel_left]
    exact asCoordinate_of_le (by omega)
  rw [cellArea?, hindex, Option.bind_eq_bind, Option.bind_some, if_neg hin, hline]
  exact congrArg some (Rect.make_eq (by omega) (by omega))

end Placed

end GridView

/-! ## Every state that calls lead to -/

namespace Sheet

section Current

variable {s : Sheet} {names : String → Prop}

theorem exists_drawnRow? (h : s.pane.Current names) {id : Nat} (hid : id ∈ s.view.viewport)
    (area : Rect) : ∃ m, s.drawnRow? area id = some m := by
  have hid : id ∈ s.view.order := List.mem_of_mem_drop (List.mem_of_mem_take hid)
  rw [order_eq_of_current h] at hid
  obtain ⟨r, hr, rfl⟩ := List.mem_map.mp hid
  have hfound : s.store.findById? r.id = some r :=
    h.follows.indexed.findById?_eq_some_iff.mpr ⟨(RowStore.mem_visible.mp hr).1, rfl⟩
  exact ⟨_, by rw [drawnRow?, hfound, Option.map_some]⟩

theorem drawnWidths_view (s : Sheet) : s.drawnWidths s.view.area = s.view.widths := if_pos rfl

/-- On the line of a row in view nothing but the row is drawn. -/
theorem agreeOn_drawGrid_of_viewport (h : s.pane.Current names)
    (hheight : 3 ≤ s.view.area.inside.height) (hwidth : 10 ≤ s.view.area.inside.width)
    {i id : Nat} (hi : s.view.viewport[i]? = some id) {m : RowMarkup}
    (hm : s.drawnRow? s.view.area id = some m) (screen : Screen) :
    AgreeOn (onLine (firstLine s.view.area + i))
      (drawRow m (s.view.selectedId? = some id) s.view.widths s.view.area.inside.x
        (firstLine s.view.area + i) (s.drawChrome s.view.area screen))
      (s.drawGrid s.view.area screen) := by
  have hcolumns := s.drawnWidths_view.trans h.widths
  have hrow := agreeOn_drawGrid_of_shown hheight hwidth hcolumns hi screen
  rw [drawEntry_of_drawnRow? hm, drawnWidths_view] at hrow
  exact hrow

end Current

/-- After any calls, for an area with room for the grid. The rows in view, and no others, have a
cell. The row at place `i` among them has its cell on the line `i` below the first, which lies
between the header and the keys; there it is drawn, over what the grid shows without rows, and
nothing else is. Off these lines the grid shows what it shows without rows. The columns lie side by
side with a gap of one cell, fill the space inside the frame and end within the coordinates; the
name, the value and the actions of a row are drawn each in its column. -/
theorem rows_drawn_in_cells (config : SheetConfig) (ops : List Operation)
    (hheight : 3 ≤ ((ofConfig config).run ops).view.area.inside.height)
    (hwidth : 10 ≤ ((ofConfig config).run ops).view.area.inside.width) :
    let s := (ofConfig config).run ops
    let g := s.view
    let inner := g.area.inside
    let w := g.widths
    (∀ id, (g.cellArea? id).isSome ↔ id ∈ g.viewport) ∧
    g.viewport.Nodup ∧
    (∀ (i id : Nat), g.viewport[i]? = some id →
      let y := firstLine g.area + i
      g.cellArea? id = some { x := inner.x + w.valueX, y, width := w.value, height := 1 } ∧
      inner.y < y ∧ y < inner.bottom - 1 ∧
      ∃ m, s.drawnRow? g.area id = some m ∧ ∀ screen,
        AgreeOn (onLine y)
          (drawRow m (g.selectedId? = some id) w inner.x y (s.drawChrome g.area screen))
          (s.drawGrid g.area screen)) ∧
    (∀ screen, AgreeOn (fun _ y => ∀ i < g.viewport.length, y ≠ firstLine g.area + i)
      (s.drawChrome g.area screen) (s.drawGrid g.area screen)) ∧
    inner.x + w.valueX = inner.x + w.name + 1 ∧
    inner.x + w.actionsX = inner.x + w.valueX + w.value + 1 ∧
    inner.x + w.actionsX + w.actions = inner.right ∧
    inner.right ≤ maxCoordinate ∧ inner.bottom ≤ maxCoordinate ∧
    ∀ m selected y, DrawnInColumns w inner.x y m selected := by
  intro s g inner w
  have hcurrent := current_run config ops
  have hplaced : ∀ id i, g.positions.get? id = some i ↔ g.order[i]? = some id :=
    hcurrent.follows.placed
  have hwidths : g.widths = .ofWidth g.area.inside.width := hcurrent.widths
  have hcolumns : s.drawnWidths g.area = .ofWidth g.area.inside.width :=
    s.drawnWidths_view.trans hwidths
  obtain ⟨hname, hactions, hfill⟩ := ColumnWidths.ofWidth_room hwidth
  obtain ⟨hright, hbottom⟩ := g.area.inside_le
  have hcell : ∀ (i id : Nat), g.viewport[i]? = some id → g.cellArea? id = some
      { x := inner.x + w.valueX, y := firstLine g.area + i, width := w.value, height := 1 } :=
    fun i id h => GridView.cellArea?_of_viewport hplaced hwidths hheight hwidth h
  refine ⟨fun id => ⟨GridView.mem_viewport_of_isSome hplaced, fun hid => ?_⟩,
    GridView.viewport_nodup hplaced, fun i id h => ⟨hcell i id h, ?_, ?_, ?_⟩,
    agreeOn_drawGrid_chrome hheight hwidth hcolumns, rfl, ?_, ?_, hright, hbottom, ?_⟩
  · obtain ⟨i, hi⟩ := List.mem_iff_getElem?.mp hid
    rw [hcell i id hi]
    rfl
  · show inner.y < inner.y + 1 + i
    omega
  · have hi := (GridView.getElem?_viewport_iff.mp h).1
    have hlines : i < inner.height - 2 := hi
    show inner.y + 1 + i < inner.y + inner.height - 1
    omega
  · obtain ⟨m, hm⟩ := exists_drawnRow? hcurrent (List.mem_of_getElem? h) g.area
    exact ⟨m, hm, agreeOn_drawGrid_of_viewport hcurrent hheight hwidth h hm⟩
  · show inner.x + (w.valueX + w.value + 1) = _
    omega
  · show inner.x + g.widths.actionsX + g.widths.actions = inner.x + inner.width
    rw [hwidths, Nat.add_assoc, hfill]
  · intro m selected y
    show DrawnInColumns g.widths inner.x y m selected
    rw [hwidths]
    exact drawnInColumns hname hactions m selected inner.x y

/-- Four rows for an area with two lines for rows. The last row is selected, so that the first two
are scrolled out. -/
def scrollingRun : List Operation :=
  [.load [("a", some "1"), ("b", none), ("c", some ""), ("d", some "4")] .empty .empty,
    .resize ⟨5, 2, 40, 6⟩, .handleKey { code := .endOfLine }]

/-- The last row has its cell on the second line and is drawn there; the row scrolled out last has
none. -/
theorem rows_drawn_in_cells_scrollingRun :
    let s := (ofConfig {}).run scrollingRun
    let g := s.view
    3 ≤ g.area.inside.height ∧ 10 ≤ g.area.inside.width ∧ g.viewport = [2, 3] ∧
      (g.cellArea? 1).isSome = false ∧
      g.cellArea? 3 = some { x := 19, y := 5, width := 20, height := 1 } ∧
      ∃ m, s.drawnRow? g.area 3 = some m ∧ m.value.text = "4" ∧ ∀ screen,
        AgreeOn (onLine 5) (drawRow m true g.widths 6 5 (s.drawChrome g.area screen))
          (s.drawGrid g.area screen) := by
  intro s g
  have hheight : 3 ≤ g.area.inside.height := by decide +kernel
  have hwidth : 10 ≤ g.area.inside.width := by decide +kernel
  obtain ⟨hcells, -, hrows, -⟩ := rows_drawn_in_cells {} scrollingRun hheight hwidth
  have hview : g.viewport = [2, 3] := by decide +kernel
  have hlast : g.viewport[1]? = some 3 := by rw [hview]; rfl
  obtain ⟨hcell, -, -, m, hm, hdrawn⟩ := hrows 1 3 hlast
  have hnone : ¬ (g.cellArea? 1).isSome = true := by
    rw [hcells 1, hview]
    decide
  have hvalue : (s.drawnRow? g.area 3).map (·.value.text) = some "4" := by decide +kernel
  have hselected : g.selectedId? = some 3 := by decide +kernel
  have hinner : g.area.inside.x = 6 ∧ firstLine g.area + 1 = 5 := by decide +kernel
  refine ⟨hheight, hwidth, hview, by simpa using hnone, ?_, m, hm, ?_, fun screen => ?_⟩
  · rw [hcell]
    decide +kernel
  · rw [hm] at hvalue
    exact Option.some.inj hvalue
  · have := hdrawn screen
    rw [hselected, hinner.1, hinner.2] at this
    exact this

end Sheet

end PropertySheet
