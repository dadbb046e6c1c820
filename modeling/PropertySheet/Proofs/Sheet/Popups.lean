import PropertySheet.Proofs.Screen.Strokes
import PropertySheet.Proofs.Sheet.Operation
import PropertySheet.Sheet.Draw

/-!
# Popups and their rectangles

A popup is what lies over the grid: the editor, a dialog or a notice. It is drawn in a rectangle of
its own, as a box with a frame and, inside, paragraphs, texts cut at the width and labels, which are
not cut.

`confined_iff` says when a popup changes nothing outside of its rectangle: if and only if each of
its labels stops there. The labels are few, but some of them hold what a user typed or what a
service is called, and these may be of any length.
-/

namespace PropertySheet

open Screen

/-! ## The rectangles -/

theorem Rect.insideBorder_within (r : Rect) : r.insideBorder.Within r := by
  constructor
  all_goals
    simp only [insideBorder, right, bottom]
    omega

theorem Rect.centered_within (width height : Nat) (r : Rect) :
    (r.centered width height).Within r := by
  constructor
  all_goals
    simp only [centered, right, bottom]
    omega

/-- A rectangle is cut, if at all, to a smaller one. -/
theorem Rect.make_within {x y width height : Nat} {r : Rect} (hx : r.x ≤ x) (hy : r.y ≤ y)
    (hright : x + width ≤ r.right) (hbottom : y + height ≤ r.bottom) :
    (make x y width height).Within r := by
  refine ⟨hx, ?_, hy, ?_⟩
  · simp only [make, right] at hright ⊢
    omega
  · simp only [make, bottom] at hbottom ⊢
    omega

/-- A stretch of one line. -/
theorem Rect.line_within {x y width : Nat} {r : Rect} (hx : r.x ≤ x) (hright : x + width ≤ r.right)
    (hy : r.y ≤ y) (hbottom : y < r.bottom) :
    ({ x, y, width, height := 1 } : Rect).Within r := ⟨hx, hright, hy, hbottom⟩

/-- A dragged editor is pushed back into the bounds. -/
theorem Surface.area_within (s : Surface) (bounds : Rect) (bodyHeight : Nat) :
    (s.area bounds bodyHeight).Within bounds := by
  unfold Surface.area
  refine Rect.make_within ?_ ?_ ?_ ?_
  all_goals
    simp only [clamp, Rect.right, Rect.bottom]
    omega

/-! ## The strokes of a popup -/

/-- A blank box with a frame. -/
def boxStrokes (area : Rect) (title : String) (color : Color) : List Stroke :=
  [.clear area, .frame area title (.of color)]

namespace TextField

def strokes (f : TextField) (expressions : Bool) (area : Rect) : List Stroke :=
  let height := area.height - 2
  [.paragraph { area with height } (breakLines (f.markedSpans expressions))
      (if f.placeholder then .italicOf .darkGray else {}) .cut
      (asCoordinate (f.cursorLine - (height - 1))),
    .label
      { x := area.x, y := area.bottom - 2
        text := (if f.emptyRequested then "[x]" else "[ ]") ++ " Set empty string (Ctrl+E)"
        style := .of .white },
    .clipped area.x (area.bottom - 1) area.width (help expressions) (.of .darkGray)]

theorem draw_eq_paint (f : TextField) (expressions : Bool) (area : Rect) (s : Screen) :
    f.draw expressions area s = paint (f.strokes expressions area) s := rfl

end TextField

namespace ChoiceList

/-- The label of an entry, in a line of its own. -/
def entryLabel (l : ChoiceList) (area : Rect) (first : Nat) (e : ChoiceEntry × Nat) : Label :=
  let place := first + e.2
  { x := area.x, y := area.y + e.2
    text := Text.ellipsis ((if place = l.selected then "● " else "  ") ++ e.1.text) area.width
    style := entryStyle e.1 (place = l.highlighted) }

def strokes (l : ChoiceList) (area : Rect) : List Stroke :=
  let height := area.height - 3
  let first := l.highlighted - (height - 1)
  let description := (l.entries[l.highlighted]?.bind (·.description)).getD ""
  (((l.entries.drop first).take height).zipIdx.map fun e => .label (l.entryLabel area first e)) ++
    [.clipped area.x (area.bottom - 2) area.width (Text.ellipsis description area.width)
        (.of .gray),
      .clipped area.x (area.bottom - 1) area.width "↑/↓: Choose | Enter: Ok | Esc: Cancel"
        (.of .darkGray)]

theorem draw_eq_paint (l : ChoiceList) (area : Rect) (s : Screen) :
    l.draw area s = paint (l.strokes area) s := by
  rw [strokes, paint_append, paint_map_label]
  rfl

end ChoiceList

def EditorBody.strokes (b : EditorBody) (area : Rect) : List Stroke :=
  match b with
  | .plain f => f.strokes false area
  | .expression f => f.strokes true area
  | .choice l => l.strokes area

namespace CellEditor

def strokes (e : CellEditor) (area : Rect) : List Stroke :=
  let inner := area.insideBorder
  boxStrokes area (" " ++ e.displayName ++ " ") .cyan ++
    if inner.height < 3 then [] else e.body.strokes inner

theorem draw_eq_paint (e : CellEditor) (bounds : Rect) (s : Screen) :
    e.draw bounds s = paint (e.strokes (e.surface.area bounds e.body.height)) s := by
  rw [draw, strokes, paint_append]
  split
  · rfl
  · unfold EditorBody.strokes
    cases e.body with
    | plain f => exact f.draw_eq_paint false _ _
    | expression f => exact f.draw_eq_paint true _ _
    | choice l => exact l.draw_eq_paint _ _

end CellEditor

namespace NamePrompt

def strokes (p : NamePrompt) (area : Rect) : List Stroke :=
  let inner := area.insideBorder
  boxStrokes area " Add Property " .cyan ++
    if inner.height < 2 then []
    else
      [.label
          { x := inner.x + 1, y := inner.y, text := "Property Name: " ++ p.marked
            style := .of .green },
        .label
          { x := inner.x + 1, y := inner.bottom - 1, text := "Enter: Add | Esc: Cancel"
            style := .of .darkGray }]

theorem draw_eq_paint (p : NamePrompt) (area : Rect) (s : Screen) :
    p.draw area s = paint (p.strokes area) s := by
  rw [draw, strokes, paint_append]
  split
  · rfl
  · rfl

end NamePrompt

namespace ServiceDialog

/-- The label of a type, in a line of its own. -/
def typeLabel (d : ServiceDialog) (inner : Rect) (y first : Nat) (e : ServiceType × Nat) : Label :=
  let chosen := first + e.2 = d.place
  { x := inner.x, y := y + e.2
    text := Text.ellipsis ((if chosen then "> " else "  ") ++ e.1.shortName) inner.width
    style := if chosen then .boldOf .yellow else .of .white }

/-- The strokes of the choice: a heading, the types, what is known of the one highlighted, and the
keys. -/
def choiceStrokes (d : ServiceDialog) (inner : Rect) : List Stroke :=
  let count := max (inner.height - 6) 1
  let first := d.place - (count - 1)
  let y := inner.y + 1 + count
  .label
      { x := inner.x, y := inner.y
        text := Text.ellipsis ("Implementations of " ++ d.serviceType) inner.width
        style := .of .white } ::
    ((((d.types.drop first).take count).zipIdx.map fun e =>
        .label (d.typeLabel inner (inner.y + 1) first e)) ++
      ((d.highlighted?.toList.map fun t =>
          .paragraph (.make inner.x y inner.width (inner.bottom - (y + 1))) (plainLines (about t))
            (.of .gray) (.wrap true) 0) ++
        [.label
          { x := inner.x, y := inner.bottom - 1
            text := "↑/↓: Select | Enter: Create | Esc: Cancel", style := .of .darkGray }]))

def strokes (d : ServiceDialog) (area : Rect) : List Stroke :=
  let inner := area.insideBorder
  boxStrokes area " Add Controller Service " .cyan ++
    if inner.height < 3 then []
    else
      match status? d.stage with
      | some status =>
        [.label { x := inner.x + 1, y := inner.y, text := status, style := .of .darkGray }]
      | none => d.choiceStrokes inner

theorem draw_eq_paint (d : ServiceDialog) (area : Rect) (s : Screen) :
    d.draw area s = paint (d.strokes area) s := by
  rw [draw, strokes, paint_append]
  split
  · rfl
  · cases status? d.stage with
    | some status => rfl
    | none =>
      rw [choiceStrokes, paint_cons, paint_append, paint_append, paint_map_label]
      cases d.highlighted? with
      | none => rfl
      | some t => rfl

end ServiceDialog

def ValueDetail.strokes (d : ValueDetail) (area : Rect) : List Stroke :=
  let inner := area.insideBorder
  boxStrokes area (" " ++ d.title ++ " ") .cyan ++
    [.paragraph (.make inner.x inner.y inner.width (inner.height - 1)) (d.lines inner.width) {}
        (.wrap false) 0,
      .label
        { x := inner.x, y := inner.bottom - 1, text := "Enter/Esc: Close", style := .of .darkGray }]

def Tooltip.strokes (t : Tooltip) (area : Rect) : List Stroke :=
  [.clear area, .tint area (.of .gray), .frame area (" " ++ t.title ++ " ") (.of .darkGray),
    .paragraph area.insideBorder (plainLines t.body) (.of .gray) (.wrap false) 0]

def Notice.strokes (n : Notice) (area : Rect) : List Stroke :=
  let inner := area.insideBorder
  boxStrokes area (" " ++ n.title ++ " ") n.color ++
    [.paragraph (.make inner.x inner.y inner.width (inner.height - 1)) (plainLines n.message)
        (.of .white) (.wrap true) 0,
      .label
        { x := inner.x, y := inner.bottom - 1, text := "Press any key", style := .of .darkGray }]

/-! ## Strokes within their rectangle -/

theorem strokesWithin_boxStrokes (area : Rect) (title : String) (color : Color) :
    StrokesWithin area (boxStrokes area title color) := by
  simp only [StrokesWithin, boxStrokes, List.forall_mem_cons]
  exact ⟨area.within_refl, area.within_refl, strokesWithin_nil area⟩

theorem TextField.strokes_within (f : TextField) (expressions : Bool) {area : Rect}
    (h : 3 ≤ area.height) : StrokesWithin area (f.strokes expressions area) := by
  have hbottom : area.bottom = area.y + area.height := rfl
  simp only [StrokesWithin, TextField.strokes, List.forall_mem_cons, Stroke.area]
  refine ⟨?_, ?_, ?_, strokesWithin_nil area⟩
  · exact ⟨Nat.le_refl _, Nat.le_refl _, Nat.le_refl _, Nat.add_le_add_left (Nat.sub_le _ _) _⟩
  · exact Rect.line_within (Nat.le_refl _) (Nat.le_add_right _ _) (by omega) (by omega)
  · exact Rect.line_within (Nat.le_refl _) (Nat.le_refl _) (by omega) (by omega)

theorem ChoiceList.strokes_within (l : ChoiceList) {area : Rect} (h : 3 ≤ area.height) :
    StrokesWithin area (l.strokes area) := by
  have hbottom : area.bottom = area.y + area.height := rfl
  simp only [StrokesWithin, ChoiceList.strokes, List.forall_mem_append, List.forall_mem_map,
    List.forall_mem_cons, Stroke.area, entryLabel]
  refine ⟨fun e he => ?_, ?_, ?_, strokesWithin_nil area⟩
  · have hline := List.snd_lt_of_mem_zipIdx he
    rw [List.length_take] at hline
    exact Rect.line_within (Nat.le_refl _) (Nat.le_add_right _ _) (by omega) (by omega)
  · exact Rect.line_within (Nat.le_refl _) (Nat.le_refl _) (by omega) (by omega)
  · exact Rect.line_within (Nat.le_refl _) (Nat.le_refl _) (by omega) (by omega)

theorem CellEditor.strokes_within (e : CellEditor) (area : Rect) :
    StrokesWithin area (e.strokes area) := by
  refine (strokesWithin_boxStrokes area _ _).append ?_
  split
  · exact strokesWithin_nil area
  next hheight =>
    have hlines : 3 ≤ area.insideBorder.height := Nat.le_of_not_lt hheight
    refine StrokesWithin.mono ?_ area.insideBorder_within
    unfold EditorBody.strokes
    cases e.body with
    | plain f => exact f.strokes_within false hlines
    | expression f => exact f.strokes_within true hlines
    | choice l => exact l.strokes_within hlines

theorem NamePrompt.strokes_within (p : NamePrompt) {area : Rect} (hwidth : 2 ≤ area.width) :
    StrokesWithin area (p.strokes area) := by
  refine (strokesWithin_boxStrokes area _ _).append ?_
  split
  · exact strokesWithin_nil area
  next hheight =>
    simp only [StrokesWithin, List.forall_mem_cons, Stroke.area]
    refine ⟨?_, ?_, strokesWithin_nil area⟩
    all_goals
      constructor
      all_goals
        simp only [Rect.insideBorder, Rect.right, Rect.bottom] at hheight ⊢
        omega

theorem ServiceDialog.choiceStrokes_within (d : ServiceDialog) {inner : Rect}
    (h : 3 ≤ inner.height) : StrokesWithin inner (d.choiceStrokes inner) := by
  have hbottom : inner.bottom = inner.y + inner.height := rfl
  simp only [StrokesWithin, choiceStrokes, List.forall_mem_append, List.forall_mem_map,
    List.forall_mem_cons, Stroke.area, typeLabel]
  refine ⟨?_, fun e he => ?_, fun t _ => ?_, ?_, strokesWithin_nil inner⟩
  · exact Rect.line_within (Nat.le_refl _) (Nat.le_add_right _ _) (Nat.le_refl _) (by omega)
  · have hline := List.snd_lt_of_mem_zipIdx he
    rw [List.length_take] at hline
    exact Rect.line_within (Nat.le_refl _) (Nat.le_add_right _ _) (by omega) (by omega)
  · exact Rect.make_within (Nat.le_refl _) (by omega) (Nat.le_refl _) (by omega)
  · exact Rect.line_within (Nat.le_refl _) (Nat.le_add_right _ _) (by omega) (by omega)

theorem ServiceDialog.strokes_within (d : ServiceDialog) {area : Rect} (hwidth : 2 ≤ area.width) :
    StrokesWithin area (d.strokes area) := by
  refine (strokesWithin_boxStrokes area _ _).append ?_
  split
  · exact strokesWithin_nil area
  next hheight =>
    split
    · simp only [StrokesWithin, List.forall_mem_cons]
      refine ⟨?_, strokesWithin_nil area⟩
      simp only [Rect.insideBorder] at hheight
      refine Rect.line_within ?_ ?_ ?_ ?_
      all_goals
        simp only [Rect.insideBorder, Rect.right, Rect.bottom]
        omega
    · exact (d.choiceStrokes_within (Nat.le_of_not_lt hheight)).mono area.insideBorder_within

/-- The last line inside a border, where the keys stand. -/
theorem lastLine_within {area : Rect} (hheight : 3 ≤ area.height) :
    ({ x := area.insideBorder.x, y := area.insideBorder.bottom - 1, width := 0,
       height := 1 } : Rect).Within area := by
  refine Rect.line_within ?_ ?_ ?_ ?_
  all_goals
    simp only [Rect.insideBorder, Rect.right, Rect.bottom]
    omega

/-- The lines inside a border above the last one. -/
theorem bodyLines_within {area : Rect} (hheight : 3 ≤ area.height) :
    (Rect.make area.insideBorder.x area.insideBorder.y area.insideBorder.width
      (area.insideBorder.height - 1)).Within area := by
  refine Rect.make_within ?_ ?_ ?_ ?_
  all_goals
    simp only [Rect.insideBorder, Rect.right, Rect.bottom]
    omega

theorem ValueDetail.strokes_within (d : ValueDetail) {area : Rect} (hheight : 3 ≤ area.height) :
    StrokesWithin area (d.strokes area) := by
  refine (strokesWithin_boxStrokes area _ _).append ?_
  simp only [StrokesWithin, List.forall_mem_cons]
  exact ⟨bodyLines_within hheight, lastLine_within hheight, strokesWithin_nil area⟩

theorem Notice.strokes_within (n : Notice) {area : Rect} (hheight : 3 ≤ area.height) :
    StrokesWithin area (n.strokes area) := by
  refine (strokesWithin_boxStrokes area _ _).append ?_
  simp only [StrokesWithin, List.forall_mem_cons]
  exact ⟨bodyLines_within hheight, lastLine_within hheight, strokesWithin_nil area⟩

theorem Tooltip.strokes_within (t : Tooltip) (area : Rect) :
    StrokesWithin area (t.strokes area) := by
  simp only [StrokesWithin, Tooltip.strokes, List.forall_mem_cons]
  exact ⟨area.within_refl, area.within_refl, area.within_refl, area.insideBorder_within,
    strokesWithin_nil area⟩

/-! ## Popups -/

/-- What lies over the grid. -/
inductive Popup where
  | editor (e : CellEditor)
  | dialog (d : Dialog)
  | notice (n : Notice)
deriving DecidableEq, Repr, Inhabited

namespace Popup

def draw (bounds : Rect) (s : Screen) : Popup → Screen
  | .editor e => e.draw bounds s
  | .dialog d => Sheet.drawDialog d bounds s
  | .notice n => n.draw bounds s

/-- The rectangle of a popup within bounds. -/
def rect (bounds : Rect) : Popup → Rect
  | .editor e => e.surface.area bounds e.body.height
  | .dialog (.namePrompt _) => bounds.centered 50 5
  | .dialog (.createService _) => bounds.centered 64 18
  | .dialog (.detail _) => bounds.centered 64 14
  | .dialog (.tooltip t) => bounds.centered 64 (t.height + 2)
  | .notice _ => bounds.centered 54 7

def strokes (bounds : Rect) (p : Popup) : List Stroke :=
  match p with
  | .editor e => e.strokes (p.rect bounds)
  | .dialog (.namePrompt d) => d.strokes (p.rect bounds)
  | .dialog (.createService d) => d.strokes (p.rect bounds)
  | .dialog (.detail d) => d.strokes (p.rect bounds)
  | .dialog (.tooltip d) => d.strokes (p.rect bounds)
  | .notice n => n.strokes (p.rect bounds)

theorem draw_eq_paint (p : Popup) (bounds : Rect) (s : Screen) :
    p.draw bounds s = paint (p.strokes bounds) s := by
  cases p with
  | editor e => exact e.draw_eq_paint bounds s
  | dialog d =>
    cases d with
    | namePrompt d => exact d.draw_eq_paint _ s
    | createService d => exact d.draw_eq_paint _ s
    | detail d => rfl
    | tooltip d => rfl
  | notice n => rfl

end Popup

/-- What lies over the grid of a sheet, the lowest first. -/
def Sheet.popups (s : Sheet) : List Popup :=
  s.editor.toList.map .editor ++ (s.dialog.toList.map .dialog ++ s.notice.toList.map .notice)

theorem Sheet.drawOver_eq_foldl {α : Type} (shown : Option α) (draw : α → Screen → Screen)
    (screen : Screen) :
    drawOver shown draw screen = shown.toList.foldl (fun screen a => draw a screen) screen := by
  cases shown with
  | none => rfl
  | some a => rfl

/-- Where the grid has room, a sheet is drawn as its grid and then its popups. -/
theorem Sheet.draw_eq_popups {s : Sheet} {area : Rect} (hheight : 3 ≤ area.inside.height)
    (hwidth : 10 ≤ area.inside.width) (screen : Screen) :
    s.draw area screen =
      s.popups.foldl (fun screen p => p.draw area screen) (s.drawGrid area screen) := by
  have hroom : ¬ (area.inside.height < 3 ∨ area.inside.width < 10) := by omega
  rw [draw, if_neg hroom, popups, List.foldl_append, List.foldl_append, List.foldl_map,
    List.foldl_map, List.foldl_map, drawOver_eq_foldl, drawOver_eq_foldl, drawOver_eq_foldl]
  rfl

namespace Popup

theorem rect_within (p : Popup) (bounds : Rect) : (p.rect bounds).Within bounds := by
  cases p with
  | editor e => exact e.surface.area_within bounds _
  | dialog d =>
    cases d with
    | namePrompt d => exact bounds.centered_within 50 5
    | createService d => exact bounds.centered_within 64 18
    | detail d => exact bounds.centered_within 64 14
    | tooltip d => exact bounds.centered_within 64 _
  | notice n => exact bounds.centered_within 54 7

section Confined

variable {bounds area : Rect} (hheight : 3 ≤ bounds.inside.height)
  (hwidth : 10 ≤ bounds.inside.width)

include hheight hwidth

/-- Bounds with room for the grid have room for a line in a frame. -/
theorem room_of_inside : 5 ≤ bounds.height ∧ 12 ≤ bounds.width := by
  have hlines : 3 ≤ bounds.height - 2 := Nat.le_trans hheight (Nat.min_le_left _ _)
  have hcolumns : 10 ≤ bounds.width - 2 := Nat.le_trans hwidth (Nat.min_le_left _ _)
  omega

theorem strokes_within (p : Popup) : StrokesWithin (p.rect bounds) (p.strokes bounds) := by
  obtain ⟨hheight, hwidth⟩ := room_of_inside hheight hwidth
  cases p with
  | editor e => exact e.strokes_within _
  | dialog d =>
    cases d with
    | namePrompt d => exact d.strokes_within (by simp only [rect, Rect.centered]; omega)
    | createService d => exact d.strokes_within (by simp only [rect, Rect.centered]; omega)
    | detail d => exact d.strokes_within (by simp only [rect, Rect.centered]; omega)
    | tooltip d => exact d.strokes_within _
  | notice n => exact n.strokes_within (by simp only [rect, Rect.centered]; omega)

theorem laid (p : Popup)
    (hwrapped : ∀ st ∈ p.strokes bounds, st.isWrapped = true → st.Keeps) :
    Laid (p.rect bounds) (p.strokes bounds) where
  within := strokes_within hheight hwidth p
  keeps st hst hlabel := by
    cases h : st.isWrapped with
    | false => exact Stroke.keeps_of_not_isWrapped hlabel h
    | true => exact hwrapped st hst h

/-- A popup within bounds that have room for the grid, on a screen that may be larger, where wrapped
paragraphs stay in the areas that they are given. It changes no cell outside of its rectangle,
whatever was on the screen, if and only if each of its labels stops within the rectangle. -/
theorem confined_iff (p : Popup) (hbounds : bounds.Within area)
    (hwrapped : ∀ st ∈ p.strokes bounds, st.isWrapped = true → st.Keeps) :
    (∀ s : Screen, s.Fills area → ChangesOnly (p.rect bounds).cells s (p.draw bounds s)) ↔
      ∀ l ∈ labels (p.strokes bounds), l.stop area.right ≤ (p.rect bounds).right := by
  simp only [draw_eq_paint]
  exact (laid hheight hwidth p hwrapped).changesOnly_iff ((p.rect_within bounds).trans hbounds)

/-! ### Labels of fixed texts -/

/-- All labels are of fixed texts: none holds a name, a value or a choice. -/
def hasFixedLabels : Popup → Bool
  | .editor e => e.body.kind ≠ .choice
  | .dialog (.detail _) | .dialog (.tooltip _) | .notice _ => true
  | .dialog (.namePrompt _) | .dialog (.createService _) => false

omit hheight hwidth in
theorem stop_le_of_hasFixedLabels {p : Popup} (hfixed : p.hasFixedLabels = true) {l : Label}
    (hl : l ∈ labels (p.strokes bounds)) (edge : Nat) :
    l.stop edge ≤ (p.rect bounds).insideBorder.x + 29 := by
  cases p with
  | editor e =>
    have hbox : ∀ requested : Bool, clustersWidth (Text.clusters
        ((if requested then "[x]" else "[ ]") ++ " Set empty string (Ctrl+E)").toList) ≤ 29 := by
      decide +kernel
    simp only [strokes, CellEditor.strokes] at hl
    split at hl
    · cases hl
    cases hbody : e.body with
    | plain f =>
      rw [hbody] at hl
      obtain rfl := List.mem_singleton.mp hl
      exact Label.stop_le (hbox f.emptyRequested) _ _ _ edge
    | expression f =>
      rw [hbody] at hl
      obtain rfl := List.mem_singleton.mp hl
      exact Label.stop_le (hbox f.emptyRequested) _ _ _ edge
    | choice l => simp [hasFixedLabels, hbody, EditorBody.kind] at hfixed
  | dialog d =>
    cases d with
    | namePrompt d => cases hfixed
    | createService d => cases hfixed
    | detail d =>
      obtain rfl := List.mem_singleton.mp hl
      have hkeys : clustersWidth (Text.clusters "Enter/Esc: Close".toList) ≤ 29 := by
        decide +kernel
      exact Label.stop_le hkeys _ _ _ edge
    | tooltip d => cases hl
  | notice n =>
    obtain rfl := List.mem_singleton.mp hl
    have hkeys : clustersWidth (Text.clusters "Press any key".toList) ≤ 29 := by decide +kernel
    exact Label.stop_le hkeys _ _ _ edge

omit hheight hwidth in
/-- A popup other than the tooltip takes 30 columns if the bounds have them. -/
theorem width_rect (p : Popup) (hcolumns : 30 ≤ bounds.width)
    (hright : bounds.right ≤ maxCoordinate) : 30 ≤ (p.rect bounds).width := by
  cases p with
  | editor e =>
    have hwithin := e.surface.area_within bounds e.body.height
    simp only [rect, Surface.area, Surface.clamp, Surface.minWidth, Rect.make, Rect.right]
      at hright ⊢
    omega
  | dialog d =>
    cases d with
    | namePrompt d => simp only [rect, Rect.centered]; omega
    | createService d => simp only [rect, Rect.centered]; omega
    | detail d => simp only [rect, Rect.centered]; omega
    | tooltip d => simp only [rect, Rect.centered]; omega
  | notice n => simp only [rect, Rect.centered]; omega

/-- Within bounds of 30 columns the editor of a text, the detail of a value, the tooltip and the
notice stay in their rectangles. -/
theorem changesOnly_of_hasFixedLabels {p : Popup} (hfixed : p.hasFixedLabels = true)
    (hcolumns : 30 ≤ bounds.width) (hright : bounds.right ≤ maxCoordinate)
    (hwrapped : ∀ st ∈ p.strokes bounds, st.isWrapped = true → st.Keeps) (s : Screen) :
    ChangesOnly (p.rect bounds).cells s (p.draw bounds s) := by
  rw [draw_eq_paint]
  refine (laid hheight hwidth p hwrapped).changesOnly fun l hl => ?_
  have hstop := stop_le_of_hasFixedLabels hfixed hl s.area.right
  have hwide := width_rect p hcolumns hright
  simp only [Rect.insideBorder, Rect.right] at hstop ⊢
  omega

end Confined

/-- A notice of two lines. -/
def updatedNotice : Popup :=
  .notice (.info "Properties" "The properties of the component have been updated in the backend.")

/-- On a screen of 80 columns the notice stays in its rectangle. -/
theorem confined_iff_updatedNotice :
    let bounds : Rect := ⟨0, 0, 80, 12⟩
    3 ≤ bounds.inside.height ∧ 10 ≤ bounds.inside.width ∧ bounds.Within bounds ∧
      (∀ st ∈ updatedNotice.strokes bounds, st.isWrapped = true → st.Keeps) ∧
      ∀ s : Screen, s.Fills bounds →
        ChangesOnly (updatedNotice.rect bounds).cells s (updatedNotice.draw bounds s) := by
  intro bounds
  have hheight : 3 ≤ bounds.inside.height := by decide
  have hwidth : 10 ≤ bounds.inside.width := by decide
  have hfits : ∀ st ∈ updatedNotice.strokes bounds, st.fits = true := by decide +kernel
  have hwrapped : ∀ st ∈ updatedNotice.strokes bounds, st.isWrapped = true → st.Keeps :=
    fun st hst hwrapped => Stroke.keeps_of_fits hwrapped (hfits st hst)
  refine ⟨hheight, hwidth, bounds.within_refl, hwrapped, ?_⟩
  rw [confined_iff hheight hwidth updatedNotice bounds.within_refl hwrapped]
  decide +kernel

/-- The keys of a name of 52 letters. -/
def longName : List Key :=
  "abcdefghijklmnopqrstuvwxyzabcdefghijklmnopqrstuvwxyz".toList.map Key.ofChar

/-- The prompt with that name in it. -/
def longPrompt : NamePrompt := longName.foldl (fun p k => (p.handleKey k).1) .empty

/-- The name runs over the frame of the prompt and on to the edge of the screen. -/
theorem not_confined_longName :
    let bounds : Rect := ⟨0, 0, 80, 12⟩
    let s := (Sheet.ofConfig { dialogContainer := some "main" }).run
      (.openNamePrompt :: longName.map Operation.handleKey)
    s.dialog = some (.namePrompt longPrompt) ∧
      ¬ ∀ screen : Screen, screen.Fills bounds →
        ChangesOnly ((Popup.dialog (.namePrompt longPrompt)).rect bounds).cells screen
          ((Popup.dialog (.namePrompt longPrompt)).draw bounds screen) := by
  intro bounds s
  have hdialog : s.dialog = some (.namePrompt longPrompt) := by decide +kernel
  refine ⟨hdialog, fun hconfined => ?_⟩
  let p : Popup := .dialog (.namePrompt longPrompt)
  have hplain : ∀ st ∈ p.strokes bounds, st.isWrapped = false := by decide +kernel
  have hlaid : Laid (p.rect bounds) (p.strokes bounds) := by
    refine laid (by decide) (by decide) p fun st hst hwrapped => ?_
    rw [hplain st hst] at hwrapped
    cases hwrapped
  have hspill : ¬ ∀ l ∈ labels (p.strokes bounds), l.stop bounds.right ≤ (p.rect bounds).right := by
    decide +kernel
  simp only [draw_eq_paint] at hconfined
  exact hspill ((hlaid.changesOnly_iff (p.rect_within bounds)).mp hconfined)

end Popup

end PropertySheet
