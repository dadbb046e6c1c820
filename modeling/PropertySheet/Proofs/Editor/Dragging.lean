import Mathlib.Algebra.Group.Prod
import Mathlib.Algebra.Ring.Int.Defs
import PropertySheet.Proofs.Editor.Typing

/-!
# Dragging the box of an editor

Where a box was dragged to is kept as a distance from its cell, and keys add to it whatever the
bounds are. Only to draw the box it is pushed back into them. So the box stands at a place that may
lie beyond the bounds, and what a key does that can be seen depends on that place and not on the box
alone.

`drag_iff` says when a key moves the box as one would expect, by its step or up to the edge: exactly
if the box does not stand beyond an edge that the key leads back to. Keys that are pressed at an
edge bring that about, as many of them are lost on the way back, and so does a cell near an edge.
While each key finds room for its step, the box stands where it is drawn (`stands_typing`), and the
next key moves it at once.

The distance is a number without bounds here. A key adds two columns to it at most, or a line
(`natAbs_drags_le`), so 32 bits with a sign hold it as long as fewer than `2 ^ 30` keys were pressed
in the editor; `moveByChecked_typing_onRow` is about the sums in these widths.
-/

namespace PropertySheet

/-! ## Steps -/

/-- How far a key drags an editor, if it does. -/
def Key.drag? (k : Key) : Option (Int × Int) := if k.alt then CellEditor.dragStep k.code else none

/-- How far a key drags an editor. -/
def Key.drag (k : Key) : Int × Int := k.drag?.getD (0, 0)

/-- How far keys drag an editor together. -/
def Key.drags (keys : List Key) : Int × Int := (keys.map Key.drag).sum

theorem Key.natAbs_drag_le (k : Key) : k.drag.1.natAbs ≤ 2 ∧ k.drag.2.natAbs ≤ 1 := by
  unfold drag drag? CellEditor.dragStep
  split
  · split <;> decide
  · decide

/-- Keys drag an editor by two columns each at most, or by a line. -/
theorem Key.natAbs_drags_le (keys : List Key) :
    (drags keys).1.natAbs ≤ 2 * keys.length ∧ (drags keys).2.natAbs ≤ keys.length := by
  induction keys with
  | nil => decide
  | cons k keys ih =>
    have hk := k.natAbs_drag_le
    show (k.drag.1 + (drags keys).1).natAbs ≤ 2 * (keys.length + 1) ∧
      (k.drag.2 + (drags keys).2).natAbs ≤ keys.length + 1
    omega

/-- A rectangle moved by a step, or up to the edge of the bounds where they leave less room. -/
def Rect.dragged (r bounds : Rect) (step : Int × Int) : Rect :=
  { r with
    x := (Surface.clamp (r.x + step.1) bounds.x (bounds.right - r.width)).toNat
    y := (Surface.clamp (r.y + step.2) bounds.y (bounds.bottom - r.height)).toNat }

namespace Surface

/-! ## One direction -/

section Line

variable {low high place step : Int}

/-- A place lies beyond the edge that a step leads back to, and the step ends short of the other
edge. -/
def Overshot (low high place step : Int) : Prop :=
  0 < step ∧ place < low ∧ place + step < high ∧ low < high ∨
    step < 0 ∧ high < place ∧ low < place + step ∧ low < high

instance (low high place step : Int) : Decidable (Overshot low high place step) :=
  inferInstanceAs (Decidable (_ ∨ _))

/-- A place is pushed back from beyond an edge, or not at all. -/
theorem clamp_cases (place : Int) (h : low ≤ high) :
    place < low ∧ clamp place low high = low ∨
      (low ≤ place ∧ place ≤ high) ∧ clamp place low high = place ∨
      high < place ∧ clamp place low high = high := by
  unfold clamp
  omega

/-- To step and then be pushed back into an interval is to be pushed back first, and then to step as
far as there is room, exactly if nothing has been overshot. -/
theorem clamp_add_iff (h : low ≤ high) :
    clamp (place + step) low high = clamp (clamp place low high + step) low high ↔
      ¬ Overshot low high place step := by
  rcases clamp_cases place h with ⟨hbelow, heq⟩ | ⟨hmem, heq⟩ | ⟨habove, heq⟩
  · rw [heq]
    unfold clamp Overshot
    omega
  · rw [heq]
    unfold Overshot
    omega
  · rw [heq]
    unfold clamp Overshot
    omega

/-- What is pushed back into an interval of coordinates is a coordinate. -/
theorem toNat_clamp_inj {low : Nat} {place' : Int} :
    (clamp place low high).toNat = (clamp place' low high).toNat ↔
      clamp place low high = clamp place' low high := by
  unfold clamp
  omega

theorem not_overshot_of_mem (hlow : low ≤ place) (hhigh : place ≤ high) :
    ¬ Overshot low high place step := by
  unfold Overshot
  omega

end Line

/-- Where a box stands, without bounds to keep it. -/
def place (s : Surface) : Int × Int := (s.anchor.x + s.dx, s.anchor.y - 1 + s.dy)

theorem place_moveBy (s : Surface) (step : Int × Int) :
    (s.moveBy step.1 step.2).place = s.place + step := by
  ext
  · show (s.anchor.x : Int) + (s.dx + step.1) = s.anchor.x + s.dx + step.1
    omega
  · show (s.anchor.y : Int) - 1 + (s.dy + step.2) = s.anchor.y - 1 + s.dy + step.2
    omega

theorem moveBy_zero (s : Surface) : s.moveBy 0 0 = s := by
  unfold moveBy
  rw [Int.add_zero, Int.add_zero]

theorem moveBy_moveBy (s : Surface) (dx dy dx' dy' : Int) :
    (s.moveBy dx dy).moveBy dx' dy' = s.moveBy (dx + dx') (dy + dy') := by
  simp only [moveBy, Int.add_assoc]

theorem extraHeight_resizeBy_le (s : Surface) (dh : Int) :
    (s.resizeBy dh).extraHeight ≤ maxExtraHeight := by
  simp only [resizeBy, clamp]
  omega

/-- The box is drawn where it stands, pushed back into the bounds. -/
theorem area_place (s : Surface) {bounds : Rect} (hright : bounds.right ≤ maxCoordinate)
    (hbottom : bounds.bottom ≤ maxCoordinate) (bodyHeight : Nat) :
    let width := min (max s.anchor.width minWidth) bounds.width
    let height := min (bodyHeight + s.extraHeight + 2) bounds.height
    s.area bounds bodyHeight =
      { x := (clamp s.place.1 bounds.x (bounds.right - width : Int)).toNat
        y := (clamp s.place.2 bounds.y (bounds.bottom - height : Int)).toNat, width, height } := by
  simp only [area, place, clamp, Rect.make, Rect.right, Rect.bottom] at hright hbottom ⊢
  congr 1
  all_goals omega

end Surface

namespace CellEditor

variable {e : CellEditor} {bounds : Rect}

/-- The box of an editor within bounds. -/
def box (e : CellEditor) (bounds : Rect) : Rect := e.surface.area bounds e.body.height

/-- All that a key does to the surface of an editor: it is dragged by the step of the key, and its
height may change, but does not grow beyond the limit. -/
theorem surface_handleKey (halive : e.destroyed = false) (k : Key) :
    (∃ extraHeight ≤ max e.surface.extraHeight Surface.maxExtraHeight,
      (e.handleKey k).1.surface = { e.surface.moveBy k.drag.1 k.drag.2 with extraHeight }) ∧
      (e.handleKey k).1.destroyed = false := by
  unfold handleKey Key.drag Key.drag?
  rw [halive, if_neg Bool.false_ne_true]
  cases if k.alt then dragStep k.code else none with
  | some step => exact ⟨⟨e.surface.extraHeight, Nat.le_max_left _ _, rfl⟩, halive⟩
  | none =>
    rw [Option.getD_none, e.surface.moveBy_zero]
    dsimp only
    cases if k.control then resizeStep k.code else none with
    | some dh =>
      show (∃ extraHeight ≤ _, (e.resizeBy dh).surface = _) ∧ (e.resizeBy dh).destroyed = false
      unfold resizeBy
      split
      · have hle := Nat.le_trans (e.surface.extraHeight_resizeBy_le dh)
          (Nat.le_max_right e.surface.extraHeight _)
        exact ⟨⟨(e.surface.resizeBy dh).extraHeight, hle, rfl⟩, halive⟩
      · exact ⟨⟨e.surface.extraHeight, Nat.le_max_left _ _, rfl⟩, halive⟩
    | none => exact ⟨⟨e.surface.extraHeight, Nat.le_max_left _ _, rfl⟩, halive⟩

/-- The steps of keys add up, whatever the bounds are. -/
theorem surface_typing (halive : e.destroyed = false) (keys : List Key) :
    (∃ extraHeight ≤ max e.surface.extraHeight Surface.maxExtraHeight,
      (e.typing keys).surface =
        { e.surface.moveBy (Key.drags keys).1 (Key.drags keys).2 with extraHeight }) ∧
      (e.typing keys).destroyed = false := by
  induction keys generalizing e with
  | nil =>
    refine ⟨⟨e.surface.extraHeight, Nat.le_max_left _ _, ?_⟩, halive⟩
    exact e.surface.moveBy_zero.symm
  | cons k keys ih =>
    obtain ⟨⟨height, hheight, hsurface⟩, halive⟩ := surface_handleKey halive k
    obtain ⟨⟨extraHeight, hle, htyped⟩, halive⟩ := ih halive
    rw [hsurface] at hle htyped
    refine ⟨⟨extraHeight, Nat.le_trans hle (Nat.max_le.mpr ⟨hheight, Nat.le_max_right _ _⟩), ?_⟩,
      halive⟩
    show ((e.handleKey k).1.typing keys).surface = _
    rw [htyped]
    show { (e.surface.moveBy k.drag.1 k.drag.2).moveBy _ _ with extraHeight } = _
    rw [Surface.moveBy_moveBy]
    rfl

theorem place_handleKey (halive : e.destroyed = false) (k : Key) :
    (e.handleKey k).1.surface.place = e.surface.place + k.drag ∧
      (e.handleKey k).1.destroyed = false := by
  obtain ⟨⟨extraHeight, -, hsurface⟩, halive⟩ := surface_handleKey halive k
  rw [hsurface]
  exact ⟨e.surface.place_moveBy k.drag, halive⟩

theorem place_typing (halive : e.destroyed = false) (keys : List Key) :
    (e.typing keys).surface.place = e.surface.place + Key.drags keys ∧
      (e.typing keys).destroyed = false := by
  obtain ⟨⟨extraHeight, -, hsurface⟩, halive⟩ := surface_typing halive keys
  rw [hsurface]
  exact ⟨e.surface.place_moveBy (Key.drags keys), halive⟩

/-- A key that drags an editor does nothing else. -/
theorem handleKey_of_drag {k : Key} {step : Int × Int} (halive : e.destroyed = false)
    (hk : k.drag? = some step) : (e.handleKey k).1 = e.moveBy step.1 step.2 := by
  unfold handleKey
  rw [halive, if_neg Bool.false_ne_true]
  rw [Key.drag?] at hk
  rw [hk]

/-! ## The box that is drawn -/

/-- The left top corner of the box of an editor. -/
def corner (e : CellEditor) (bounds : Rect) : Int × Int := ((e.box bounds).x, (e.box bounds).y)

/-- A box that stands within the bounds is drawn where it stands. -/
def Stands (e : CellEditor) (bounds : Rect) : Prop := e.corner bounds = e.surface.place

/-- As long as each key moves the box by its step, the box is drawn where it stands. -/
theorem stands_typing (halive : e.destroyed = false) (h : e.Stands bounds) {keys : List Key}
    (hsteps : ∀ before k after, keys = before ++ k :: after →
      ((e.typing before).handleKey k).1.corner bounds = (e.typing before).corner bounds + k.drag) :
    (e.typing keys).Stands bounds := by
  induction keys generalizing e with
  | nil => exact h
  | cons k keys ih =>
    obtain ⟨hplace, halive'⟩ := place_handleKey halive k
    have hcorner := hsteps [] k keys rfl
    refine ih halive' ?_ fun before k' after hkeys => ?_
    · show (e.handleKey k).1.corner bounds = (e.handleKey k).1.surface.place
      rw [hplace, ← h]
      exact hcorner
    · exact hsteps (k :: before) k' after (congrArg (k :: ·) hkeys)

section Bounds

variable (hright : bounds.right ≤ maxCoordinate) (hbottom : bounds.bottom ≤ maxCoordinate)

include hright hbottom

theorem box_eq (e : CellEditor) :
    e.box bounds =
      { e.box bounds with
        x := (Surface.clamp e.surface.place.1 bounds.x
          (bounds.right - (e.box bounds).width : Int)).toNat
        y := (Surface.clamp e.surface.place.2 bounds.y
          (bounds.bottom - (e.box bounds).height : Int)).toNat } := by
  rw [box, e.surface.area_place hright hbottom]

theorem size_box_le (e : CellEditor) :
    (e.box bounds).width ≤ bounds.width ∧ (e.box bounds).height ≤ bounds.height := by
  rw [box, e.surface.area_place hright hbottom]
  exact ⟨Nat.min_le_right _ _, Nat.min_le_right _ _⟩

/-- The corner of a box is its place, pushed back into the bounds. -/
theorem corner_eq (e : CellEditor) :
    e.corner bounds =
      (Surface.clamp e.surface.place.1 bounds.x (bounds.right - (e.box bounds).width : Int),
        Surface.clamp e.surface.place.2 bounds.y
          (bounds.bottom - (e.box bounds).height : Int)) := by
  have hbox := e.box_eq hright hbottom
  have hx := congrArg Rect.x hbox
  have hy := congrArg Rect.y hbox
  rw [corner, hx, hy]
  simp only [Surface.clamp]
  congr 1
  all_goals omega

/-- A key to drag an editor leaves the size of the box and changes the place that it is pushed back
from. -/
theorem box_handleKey {k : Key} {step : Int × Int} (halive : e.destroyed = false)
    (hk : k.drag? = some step) :
    (e.handleKey k).1.box bounds =
      { e.box bounds with
        x := (Surface.clamp (e.surface.place.1 + step.1) bounds.x
          (bounds.right - (e.box bounds).width : Int)).toNat
        y := (Surface.clamp (e.surface.place.2 + step.2) bounds.y
          (bounds.bottom - (e.box bounds).height : Int)).toNat } := by
  have hplace := e.surface.place_moveBy step
  rw [handleKey_of_drag halive hk]
  rw [box, box, e.surface.area_place hright hbottom]
  show (e.surface.moveBy step.1 step.2).area bounds e.body.height = _
  rw [(e.surface.moveBy step.1 step.2).area_place hright hbottom, hplace]
  rfl

/-- A key moves the box by its step, or up to the edge, if and only if the box does not stand beyond
the edge that the key leads back to. -/
theorem handleKey_dragged_iff {k : Key} {step : Int × Int} (halive : e.destroyed = false)
    (hk : k.drag? = some step) :
    (e.handleKey k).1.box bounds = (e.box bounds).dragged bounds step ↔
      ¬ Surface.Overshot bounds.x (bounds.right - (e.box bounds).width) e.surface.place.1 step.1 ∧
      ¬ Surface.Overshot bounds.y (bounds.bottom - (e.box bounds).height) e.surface.place.2
        step.2 := by
  obtain ⟨hwidth, hheight⟩ := e.size_box_le hright hbottom
  obtain ⟨hx, hy⟩ := Prod.mk.inj (e.corner_eq hright hbottom)
  have hlow : (bounds.x : Int) ≤ bounds.right - (e.box bounds).width := by
    simp only [Rect.right]
    omega
  have htop : (bounds.y : Int) ≤ bounds.bottom - (e.box bounds).height := by
    simp only [Rect.bottom]
    omega
  rw [box_handleKey hright hbottom halive hk, ← Surface.clamp_add_iff hlow,
    ← Surface.clamp_add_iff htop, ← hx, ← hy, Rect.dragged, Rect.mk.injEq,
    Surface.toNat_clamp_inj, Surface.toNat_clamp_inj]
  simp only [and_true]

/-- A box that is drawn where it stands has not overshot any edge. -/
theorem Stands.dragged (h : e.Stands bounds) {k : Key} {step : Int × Int}
    (halive : e.destroyed = false) (hk : k.drag? = some step) :
    (e.handleKey k).1.box bounds = (e.box bounds).dragged bounds step := by
  obtain ⟨hwidth, hheight⟩ := e.size_box_le hright hbottom
  have hplace := h.symm.trans (e.corner_eq hright hbottom)
  obtain ⟨hx, hy⟩ := Prod.ext_iff.mp hplace
  rw [handleKey_dragged_iff hright hbottom halive hk]
  simp only [Surface.clamp, Rect.right, Rect.bottom] at hx hy ⊢
  constructor
  · refine Surface.not_overshot_of_mem ?_ ?_
    · omega
    · omega
  · refine Surface.not_overshot_of_mem ?_ ?_
    · omega
    · omega

/-- Keys that drag an editor add up to a place, whatever the bounds are, and the box is drawn at
that place pushed back into the bounds. So a key moves the box by its step, or up to the edge of the
bounds, if and only if the place is not beyond an edge that the key leads back to. It is not as long
as the box is drawn where it stands and each key has moved it by its step.

The keys may be any number here; 32 bits with a sign hold the place for about `2 ^ 30` of them. -/
theorem drag_iff (halive : e.destroyed = false) (keys : List Key) {k : Key} {step : Int × Int}
    (hk : k.drag? = some step) :
    let dragged := e.typing keys
    let box := dragged.box bounds
    let place := e.surface.place + Key.drags keys
    let lastX : Int := bounds.right - box.width
    let lastY : Int := bounds.bottom - box.height
    ((box.x : Int), (box.y : Int)) =
      (Surface.clamp place.1 bounds.x lastX, Surface.clamp place.2 bounds.y lastY) ∧
    ((dragged.handleKey k).1.box bounds = box.dragged bounds step ↔
      ¬ Surface.Overshot bounds.x lastX place.1 step.1 ∧
      ¬ Surface.Overshot bounds.y lastY place.2 step.2) ∧
    (e.Stands bounds →
      (∀ before k' after, keys = before ++ k' :: after →
        ((e.typing before).handleKey k').1.corner bounds =
          (e.typing before).corner bounds + k'.drag) →
      (dragged.handleKey k).1.box bounds = box.dragged bounds step) := by
  intro dragged box place lastX lastY
  obtain ⟨hplace, halive'⟩ := place_typing halive keys
  refine ⟨?_, ?_, fun hstands hsteps => ?_⟩
  · rw [show place = dragged.surface.place from hplace.symm]
    exact dragged.corner_eq hright hbottom
  · rw [show place = dragged.surface.place from hplace.symm]
    exact handleKey_dragged_iff hright hbottom halive' hk
  · exact (stands_typing halive hstands hsteps).dragged hright hbottom halive' hk

end Bounds

/-- An editor beside a value cell of 40 columns. -/
def besideCell : CellEditor :=
  onRow
    { id := 0, property := "p", displayName := "p", value := none, previousValue := none,
      kind := .optional, hidden := false }
    none ⟨20, 5, 40, 1⟩

/-- An arrow key with Alt. -/
def altKey (code : KeyCode) : Key := { code, alt := true }

/-- Dragged to the left, up to the edge and down, the box moves to the right with the next key. -/
theorem drag_iff_besideCell :
    let bounds : Rect := ⟨0, 0, 80, 24⟩
    let keys := List.replicate 10 (altKey .left) ++ [altKey .down]
    let dragged := besideCell.typing keys
    besideCell.destroyed = false ∧ bounds.right ≤ maxCoordinate ∧ bounds.bottom ≤ maxCoordinate ∧
      (altKey .right).drag? = some (2, 0) ∧ dragged.box bounds = ⟨0, 5, 40, 9⟩ ∧
      (dragged.handleKey (altKey .right)).1.box bounds =
        (dragged.box bounds).dragged bounds (2, 0) := by
  intro bounds keys dragged
  have halive : besideCell.destroyed = false := rfl
  have hright : bounds.right ≤ maxCoordinate := by decide
  have hbottom : bounds.bottom ≤ maxCoordinate := by decide
  have hkey : (altKey .right).drag? = some (2, 0) := rfl
  have hbox : dragged.box bounds = ⟨0, 5, 40, 9⟩ := by decide
  refine ⟨halive, hright, hbottom, hkey, hbox, ?_⟩
  obtain ⟨-, hdragged, -⟩ := drag_iff hright hbottom halive keys hkey
  refine hdragged.mpr ?_
  rw [show besideCell.typing keys = dragged from rfl, hbox]
  decide

/-- One key more to the left leaves the box at the edge, and the next key to the right as well. -/
theorem not_dragged_pressedAtEdge :
    let bounds : Rect := ⟨0, 0, 80, 24⟩
    let pressed := besideCell.typing (List.replicate 11 (altKey .left))
    (pressed.box bounds).x = bounds.x ∧
      (pressed.handleKey (altKey .right)).1.box bounds = pressed.box bounds ∧
      (pressed.handleKey (altKey .right)).1.box bounds ≠
        (pressed.box bounds).dragged bounds (2, 0) := by
  decide +kernel

end CellEditor

end PropertySheet
