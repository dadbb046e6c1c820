import Mathlib.Algebra.Group.Nat.Defs
import PropertySheet.Proofs.Editor.Dragging
import PropertySheet.Proofs.Sheet.Popups

/-!
# The box of an editor in numbers of fixed width

The box of an editor is computed in numbers without bounds. On a terminal a coordinate has 16 bits,
and the place where a box stands, which may lie left of the first column or above the first line,
has 32 bits with a sign. `Surface.areaChecked` is the same computation in these widths: each sum has
to fit its width, what becomes a coordinate has to be one, and an interval that a number is moved
into must not be empty.

`areaChecked_eq` says all that can go wrong; an empty interval is not among it. Within the bounds of
a terminal, for a body that an editor has and a height that resizing leads to, only the two sums
with the distance that the box was dragged are left to overflow (`box_computed_in_bounds`).

The distance itself is a sum of the steps of keys, in 32 bits as well. A user would have to press
about `2 ^ 30` keys in one editor to overflow it, or the place of the box: with fewer, each step is
added without a fault (`moveByChecked_typing_onRow`), and so is the box computed
(`boxChecked_typing_onRow`).
-/

namespace PropertySheet

/-! ## Numbers of fixed width -/

/-- What goes wrong with numbers of fixed width. -/
inductive ArithmeticFault where
  /-- A number is no coordinate of 16 bits. -/
  | coordinate
  /-- A number takes more than 32 bits with a sign. -/
  | signed
  /-- The interval that a number is to be moved into is empty. -/
  | emptyInterval
deriving DecidableEq, Repr, Inhabited

/-- 32 bits with a sign hold a number. -/
def FitsSigned (n : Int) : Prop := -2 ^ 31 ≤ n ∧ n < 2 ^ 31

instance (n : Int) : Decidable (FitsSigned n) := inferInstanceAs (Decidable (_ ∧ _))

namespace Checked

variable {α β : Type}

/-- A value under a condition, and a fault without it. -/
def check (holds : Prop) [Decidable holds] (fault : ArithmeticFault) (a : α) :
    Except ArithmeticFault α :=
  if holds then .ok a else .error fault

/-- A number as a coordinate. -/
def coordinate (n : Nat) : Except ArithmeticFault Nat := check (n ≤ maxCoordinate) .coordinate n

/-- A number in 32 bits with a sign. -/
def signed (n : Int) : Except ArithmeticFault Int := check (FitsSigned n) .signed n

/-- A number with a sign as a coordinate. -/
def toCoordinate (n : Int) : Except ArithmeticFault Nat :=
  check (0 ≤ n ∧ n ≤ maxCoordinate) .coordinate n.toNat

/-- A number moved into an interval. -/
def clamp (n low high : Int) : Except ArithmeticFault Int :=
  check (low ≤ high) .emptyInterval (Surface.clamp n low high)

theorem check_bind (holds : Prop) [Decidable holds] (fault : ArithmeticFault) (a : α)
    (f : α → Except ArithmeticFault β) :
    check holds fault a >>= f = if holds then f a else .error fault := by
  unfold check
  split
  · rfl
  · rfl

end Checked

namespace Surface

/-! ## The rectangle -/

/-- The box for a body of a number of lines, in numbers of fixed width. -/
def areaChecked (s : Surface) (bounds : Rect) (bodyHeight : Nat) : Except ArithmeticFault Rect := do
  let width := min (max s.anchor.width minWidth) bounds.width
  let lines ← Checked.coordinate (bodyHeight + s.extraHeight)
  let height := min (← Checked.coordinate (lines + 2)) bounds.height
  let maxX := (← Checked.coordinate (bounds.x + bounds.width)) - width
  let maxY := (← Checked.coordinate (bounds.y + bounds.height)) - height
  let left ← Checked.signed (s.anchor.x + s.dx)
  let x ← Checked.clamp left bounds.x (max (maxX : Int) bounds.x)
  let above ← Checked.signed (s.anchor.y - 1)
  let top ← Checked.signed (above + s.dy)
  let y ← Checked.clamp top bounds.y (max (maxY : Int) bounds.y)
  return .make (← Checked.toCoordinate x) (← Checked.toCoordinate y) width height

/-- What is moved in between coordinates is one. -/
theorem clamp_mem {n low high : Int} (hlow : 0 ≤ low) (h : low ≤ high)
    (hhigh : high ≤ maxCoordinate) : 0 ≤ clamp n low high ∧ clamp n low high ≤ maxCoordinate := by
  unfold clamp
  omega

/-- The computation in fixed width gives the box, or it stops at a sum that does not fit. It never
comes to an empty interval, and what becomes a coordinate at its end is one. -/
theorem areaChecked_eq (s : Surface) (bounds : Rect) (bodyHeight : Nat) :
    s.areaChecked bounds bodyHeight =
      if bodyHeight + s.extraHeight + 2 ≤ maxCoordinate ∧ bounds.right ≤ maxCoordinate ∧
          bounds.bottom ≤ maxCoordinate then
        if FitsSigned s.place.1 ∧ FitsSigned (s.anchor.y - 1) ∧ FitsSigned s.place.2 then
          .ok (s.area bounds bodyHeight)
        else .error .signed
      else .error .coordinate := by
  -- the last place for a box is at least the first one, also where the bounds have no room for it
  have hx := Int.le_max_right
    (bounds.x + bounds.width - min (max s.anchor.width minWidth) bounds.width : Nat) bounds.x
  have hy := Int.le_max_right
    (bounds.y + bounds.height - min (bodyHeight + s.extraHeight + 2) bounds.height : Nat) bounds.y
  simp only [areaChecked, Checked.coordinate, Checked.signed, Checked.clamp, Checked.toCoordinate,
    Checked.check_bind, hx, hy, if_true]
  by_cases hsums : bodyHeight + s.extraHeight + 2 ≤ maxCoordinate ∧ bounds.right ≤ maxCoordinate ∧
      bounds.bottom ≤ maxCoordinate
  · rw [if_pos hsums]
    obtain ⟨hlines, hright, hbottom⟩ := hsums
    simp only [Rect.right, Rect.bottom] at hright hbottom
    rw [if_pos (Nat.le_of_add_right_le hlines), if_pos hlines, if_pos hright, if_pos hbottom]
    rw [if_pos (clamp_mem (Int.natCast_nonneg _) hx (by omega)),
      if_pos (clamp_mem (Int.natCast_nonneg _) hy (by omega))]
    -- the sums with a sign are looked at one after the other
    simp only [ite_and]
    rfl
  · rw [if_neg hsums]
    simp only [ite_eq_right_iff]
    intro _ hlines hright hbottom
    exact absurd ⟨hlines, hright, hbottom⟩ hsums

/-! ## The height -/

/-- A surface that is made higher, or lower again, a number of times. -/
def resized (s : Surface) (steps : List Int) : Surface := steps.foldl resizeBy s

/-- Resizing changes the height alone, and never beyond its limit. -/
theorem resized_eq {s : Surface} (h : s.extraHeight ≤ maxExtraHeight) (steps : List Int) :
    ∃ extraHeight ≤ maxExtraHeight, s.resized steps = { s with extraHeight } := by
  induction steps generalizing s with
  | nil => exact ⟨s.extraHeight, h, rfl⟩
  | cons dh steps ih =>
    obtain ⟨extraHeight, hle, heq⟩ := ih (s.extraHeight_resizeBy_le dh)
    exact ⟨extraHeight, hle, heq⟩

end Surface

namespace EditorBody

/-- The lines that a body needs, in numbers of fixed width. -/
def heightChecked : EditorBody → Except ArithmeticFault Nat
  | .plain _ | .expression _ => Checked.coordinate (textLines + 2)
  | .choice l => Checked.coordinate (min (asCoordinate l.entries.length) maxChoiceLines + 3)

theorem height_le (b : EditorBody) : b.height ≤ maxChoiceLines + 3 := by
  cases b with
  | plain f => simp [height, textLines, maxChoiceLines]
  | expression f => simp [height, textLines, maxChoiceLines]
  | choice l => exact Nat.add_le_add_right (Nat.min_le_right _ _) 3

theorem heightChecked_eq (b : EditorBody) : b.heightChecked = .ok b.height := by
  have hheight : b.height ≤ maxCoordinate := Nat.le_trans b.height_le (by decide)
  cases b with
  | plain f => rfl
  | expression f => rfl
  | choice l => exact if_pos hheight

end EditorBody

namespace Surface

/-! ## The box of an editor -/

/-- The box for a body, in numbers of fixed width. -/
def boxChecked (s : Surface) (bounds : Rect) (body : EditorBody) : Except ArithmeticFault Rect := do
  s.areaChecked bounds (← body.heightChecked)

/-- Where the height is one that resizing leads to, only the place of the box may not fit. -/
theorem boxChecked_eq (s : Surface) (body : EditorBody) {bounds : Rect}
    (hextra : s.extraHeight ≤ maxExtraHeight) (hanchor : s.anchor.y ≤ maxCoordinate)
    (hright : bounds.right ≤ maxCoordinate) (hbottom : bounds.bottom ≤ maxCoordinate) :
    s.boxChecked bounds body =
      if FitsSigned s.place.1 ∧ FitsSigned s.place.2 then .ok (s.area bounds body.height)
      else .error .signed := by
  have hbody := body.height_le
  have hlines : body.height + s.extraHeight + 2 ≤ maxCoordinate := by
    simp only [maxExtraHeight, EditorBody.maxChoiceLines, maxCoordinate] at hextra hbody ⊢
    omega
  -- the line above a cell needs no more than a coordinate and a sign
  have habove : FitsSigned (s.anchor.y - 1) := by
    simp only [FitsSigned, maxCoordinate] at hanchor ⊢
    omega
  rw [boxChecked, body.heightChecked_eq]
  show s.areaChecked bounds body.height = _
  rw [areaChecked_eq, if_pos ⟨hlines, hright, hbottom⟩]
  simp only [habove, true_and]

/-- The box of an editor, whatever its cell and its body are and however it was dragged and resized,
within bounds that end at a coordinate. As long as 32 bits hold the place where it stands, the box
is computed in numbers of fixed width without a fault: no coordinate overflows, and no number is
moved into an empty interval. Otherwise the computation stops at the sum that does not fit. The box
lies within the bounds. -/
theorem box_computed_in_bounds (anchor : Rect) (dx dy : Int) (steps : List Int) (body : EditorBody)
    {bounds : Rect} (hanchor : anchor.y ≤ maxCoordinate) (hright : bounds.right ≤ maxCoordinate)
    (hbottom : bounds.bottom ≤ maxCoordinate) :
    let s := resized { anchor, dx, dy } steps
    s.boxChecked bounds body =
        (if FitsSigned (anchor.x + dx) ∧ FitsSigned (anchor.y - 1 + dy) then
          .ok (s.area bounds body.height)
        else .error .signed) ∧
      (s.area bounds body.height).Within bounds := by
  intro s
  refine ⟨?_, s.area_within bounds body.height⟩
  obtain ⟨extraHeight, hextra, hs⟩ : ∃ extraHeight ≤ maxExtraHeight,
      s = { anchor, dx, dy, extraHeight } := resized_eq (Nat.zero_le _) steps
  rw [hs]
  exact boxChecked_eq _ body hextra hanchor hright hbottom

/-- A box dragged as far to the left and as far down as 32 bits reach, for bounds of 20 columns near
the last corner of the coordinates. It gets fewer columns than it asks for, and all of its lines. -/
theorem box_computed_in_bounds_lastCorner :
    let anchor : Rect := ⟨0, 1, 8, 1⟩
    let bounds : Rect := ⟨65500, 65480, 20, 50⟩
    let body := CellEditor.besideCell.body
    let s := resized { anchor, dx := -2 ^ 31, dy := 2 ^ 31 - 1 } [50, -3]
    anchor.y ≤ maxCoordinate ∧ bounds.right ≤ maxCoordinate ∧ bounds.bottom ≤ maxCoordinate ∧
      FitsSigned (anchor.x + -2 ^ 31) ∧ FitsSigned (anchor.y - 1 + (2 ^ 31 - 1)) ∧
      s.boxChecked bounds body = .ok ⟨65500, 65504, 20, 26⟩ ∧
      Rect.Within ⟨65500, 65504, 20, 26⟩ bounds := by
  intro anchor bounds body s
  have hanchor : anchor.y ≤ maxCoordinate := by decide
  have hright : bounds.right ≤ maxCoordinate := by decide
  have hbottom : bounds.bottom ≤ maxCoordinate := by decide
  have hleft : FitsSigned (anchor.x + -2 ^ 31) := by decide
  have htop : FitsSigned (anchor.y - 1 + (2 ^ 31 - 1)) := by decide
  have hbox : s.area bounds body.height = ⟨65500, 65504, 20, 26⟩ := by decide +kernel
  obtain ⟨hchecked, hwithin⟩ :=
    box_computed_in_bounds anchor (-2 ^ 31) (2 ^ 31 - 1) [50, -3] body hanchor hright hbottom
  rw [if_pos ⟨hleft, htop⟩] at hchecked
  rw [← hbox]
  exact ⟨hanchor, hright, hbottom, hleft, htop, hchecked, hwithin⟩

/-! ## Dragging -/

/-- A surface moved by a step, in numbers of fixed width. -/
def moveByChecked (s : Surface) (dx dy : Int) : Except ArithmeticFault Surface := do
  return { s with dx := ← Checked.signed (s.dx + dx), dy := ← Checked.signed (s.dy + dy) }

theorem moveByChecked_eq (s : Surface) (dx dy : Int) :
    s.moveByChecked dx dy =
      if FitsSigned (s.dx + dx) ∧ FitsSigned (s.dy + dy) then .ok (s.moveBy dx dy)
      else .error .signed := by
  simp only [moveByChecked, Checked.signed, Checked.check_bind, ite_and]
  rfl

end Surface

namespace CellEditor

variable (r : Row) (d : Option Descriptor)

/-- An editor on a row begins at its cell, and each key adds to the distance what it drags. -/
theorem surface_typing_onRow (anchor : Rect) (keys : List Key) :
    ∃ extraHeight ≤ Surface.maxExtraHeight,
      ((onRow r d anchor).typing keys).surface =
        { anchor, dx := (Key.drags keys).1, dy := (Key.drags keys).2, extraHeight } := by
  obtain ⟨⟨extraHeight, hle, hsurface⟩, -⟩ :=
    surface_typing (e := onRow r d anchor) rfl keys
  refine ⟨extraHeight, hle, ?_⟩
  rw [hsurface, onRow, Surface.moveBy, Int.zero_add, Int.zero_add]

/-- Each of fewer than `2 ^ 30` keys adds its step to the distance in 32 bits with a sign. -/
theorem moveByChecked_typing_onRow (anchor : Rect) {keys : List Key} {k : Key} {step : Int × Int}
    (hk : k.drag? = some step) (hlength : keys.length + 1 < 2 ^ 30) :
    let e := (onRow r d anchor).typing keys
    e.surface.moveByChecked step.1 step.2 = .ok (e.handleKey k).1.surface := by
  intro e
  obtain ⟨-, halive⟩ := surface_typing (e := onRow r d anchor) rfl keys
  obtain ⟨extraHeight, -, hsurface⟩ := surface_typing_onRow r d anchor keys
  have hkeys := Key.natAbs_drags_le keys
  have hstep : step = k.drag := by rw [Key.drag, hk, Option.getD_some]
  have hkey := hstep ▸ k.natAbs_drag_le
  have hfits : FitsSigned (e.surface.dx + step.1) ∧ FitsSigned (e.surface.dy + step.2) := by
    rw [hsurface]
    simp only [FitsSigned]
    omega
  rw [Surface.moveByChecked_eq, if_pos hfits, handleKey_of_drag halive hk]
  rfl

/-- The box of an editor on a row is computed without a fault, unless about `2 ^ 30` keys have been
pressed in it. -/
theorem boxChecked_typing_onRow {anchor bounds : Rect} {keys : List Key}
    (hx : anchor.x ≤ maxCoordinate) (hy : anchor.y ≤ maxCoordinate)
    (hright : bounds.right ≤ maxCoordinate) (hbottom : bounds.bottom ≤ maxCoordinate)
    (hlength : keys.length ≤ 2 ^ 30 - 2 ^ 15) :
    let e := (onRow r d anchor).typing keys
    e.surface.boxChecked bounds e.body = .ok (e.box bounds) := by
  intro e
  obtain ⟨extraHeight, hextra, hsurface⟩ := surface_typing_onRow r d anchor keys
  have hkeys := Key.natAbs_drags_le keys
  have hfits : FitsSigned e.surface.place.1 ∧ FitsSigned e.surface.place.2 := by
    rw [hsurface]
    simp only [FitsSigned, Surface.place, maxCoordinate] at hx hy ⊢
    omega
  rw [box, e.surface.boxChecked_eq e.body (hsurface ▸ hextra) (hsurface ▸ hy) hright hbottom,
    if_pos hfits]

end CellEditor

end PropertySheet
