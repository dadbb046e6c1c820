import PropertySheet.GridView

/-!
# Moving the selection of a grid view

Every call that selects a row does the same thing: it sets the place that is selected and scrolls
there. Rows, columns and what is formatted have no part in it.
-/

namespace PropertySheet

namespace GridView

@[simp]
theorem order_scrollToSelection (g : GridView) : g.scrollToSelection.order = g.order := rfl

@[simp]
theorem positions_scrollToSelection (g : GridView) :
    g.scrollToSelection.positions = g.positions := rfl

@[simp]
theorem cache_scrollToSelection (g : GridView) : g.scrollToSelection.cache = g.cache := rfl

@[simp]
theorem widths_scrollToSelection (g : GridView) : g.scrollToSelection.widths = g.widths := rfl

@[simp]
theorem area_scrollToSelection (g : GridView) : g.scrollToSelection.area = g.area := rfl

/-- The view with another place selected, and scrolled there. -/
def selecting (g : GridView) (place : Nat) : GridView :=
  { g with selected := place }.scrollToSelection

theorem trySelect_cases (g : GridView) (id : Nat) :
    g.trySelect id = g ∨ ∃ place, g.trySelect id = g.selecting place := by
  rw [trySelect, select]
  cases g.positions.get? id with
  | none => exact .inl rfl
  | some place => exact .inr ⟨place, rfl⟩

theorem moveSelection_cases (g : GridView) (delta : Int) :
    g.moveSelection delta = g ∨ ∃ place, g.moveSelection delta = g.selecting place := by
  unfold moveSelection
  split
  · exact .inl rfl
  · exact .inr ⟨_, rfl⟩

end GridView

end PropertySheet
