import PropertySheet.Proofs.GridView.Following

/-!
# The selected row stays in view

A view holds three numbers that depend on one another: how many rows there are, which place is
selected, and how many rows are scrolled out above. Every call sets the first two and scrolls in the
end. Scrolling brings the selection into view and then cuts the offset, so that no line stays blank
that a row above could take; the cut does not take the selection out of view again
(`scrolled_scrollToSelection`).

`Steady` is what every call keeps. It asks nothing of the stores that a view is given to format or
to follow, which may differ from call to call and carry any notes. `selection_stays_in_view` reads
off it what is seen on the screen, and says which place is selected after a synchronisation.
-/

namespace PropertySheet

/-- A call on a view. To format rows or to follow them it is given a store, which need not be the
one that it was given before. -/
inductive ViewCall where
  | resize (area : Rect) (store : RowStore) (descriptors : Descriptors) (options : MarkupOptions)
  | sync (store : RowStore) (descriptors : Descriptors) (options : MarkupOptions)
  | select (id : Nat)
  | moveSelection (delta : Int)
  | selectFirst
  | selectLast
  | reset

namespace GridView

variable {g : GridView} {store : RowStore} {descriptors : Descriptors} {options : MarkupOptions}

/-! ## What scrolling does -/

/-- The selected place is within the lines from the offset on, of which a view counts at least one;
and these lines reach beyond the order only if the order has fewer rows. -/
structure Scrolled (g : GridView) : Prop where
  offset_le : g.offset ≤ g.selected
  selected_lt : g.selected < g.offset + max g.viewportRows 1
  filled : g.offset + max g.viewportRows 1 ≤ max g.order.length (max g.viewportRows 1)

/-- An offset from which the selection is in view may be cut so that no line stays blank. The cut
does not take the selection out of view again, since the selection is within the order. -/
theorem scrolled_cut {offset : Nat} (hselected : g.selected ≤ g.order.length - 1)
    (hle : offset ≤ g.selected) (hlt : g.selected < offset + max g.viewportRows 1) :
    ({ g with
      offset := min offset (g.order.length - max g.viewportRows 1) } : GridView).Scrolled := by
  constructor
  · show min offset (g.order.length - max g.viewportRows 1) ≤ g.selected
    omega
  · show g.selected < min offset (g.order.length - max g.viewportRows 1) + max g.viewportRows 1
    omega
  · show min offset (g.order.length - max g.viewportRows 1) + max g.viewportRows 1 ≤
      max g.order.length (max g.viewportRows 1)
    omega

/-- Wherever the offset was, after scrolling it suits a selection within the order. -/
theorem scrolled_scrollToSelection (h : g.selected ≤ g.order.length - 1) :
    g.scrollToSelection.Scrolled := by
  refine scrolled_cut h ?_ ?_
  · split
    · exact Nat.le_refl _
    · split
      · omega
      · omega
  · split
    · omega
    · split
      · omega
      · omega

/-- Where a line fits, the selected row is in the visible slice. -/
theorem Scrolled.getElem?_viewport (h : g.Scrolled) (hfits : 0 < g.viewportRows) :
    g.viewport[g.selected - g.offset]? = g.selectedId? := by
  have hle := h.offset_le
  have hlt := h.selected_lt
  rw [viewport, List.getElem?_take_of_lt (by omega), List.getElem?_drop, Nat.add_sub_cancel' hle,
    selectedId?]

/-- Where rows are scrolled out above, the visible slice takes every line. -/
theorem Scrolled.length_viewport (h : g.Scrolled) (hfits : 0 < g.viewportRows)
    (hoffset : 0 < g.offset) : g.viewport.length = g.viewportRows := by
  have hfilled := h.filled
  rw [viewport, List.length_take, List.length_drop]
  omega

/-! ## What every call keeps -/

/-- The selected place is one of the order, or the first if the order has none; so are the places
that are kept for ids; and the view has scrolled to the selection. -/
structure Steady (g : GridView) : Prop where
  selected_le : g.selected ≤ g.order.length - 1
  placed : ∀ id i, g.positions.get? id = some i → i < g.order.length
  scrolled : g.Scrolled

/-- Scrolling is the last that a call does. -/
theorem steady_scrollToSelection (hselected : g.selected ≤ g.order.length - 1)
    (hplaced : ∀ id i, g.positions.get? id = some i → i < g.order.length) :
    g.scrollToSelection.Steady :=
  ⟨hselected, hplaced, scrolled_scrollToSelection hselected⟩

theorem steady_empty : ({} : GridView).Steady where
  selected_le := Nat.le_refl 0
  placed _ _ h := nomatch h
  scrolled := ⟨Nat.le_refl 0, by decide, by decide⟩

theorem Steady.selecting (h : g.Steady) {place : Nat} (hplace : place ≤ g.order.length - 1) :
    (g.selecting place).Steady :=
  steady_scrollToSelection hplace h.placed

theorem Steady.trySelect (h : g.Steady) (id : Nat) : (g.trySelect id).Steady := by
  rw [GridView.trySelect, select]
  cases hplace : g.positions.get? id with
  | none => exact h
  | some place => exact h.selecting (Nat.le_sub_one_of_lt (h.placed id place hplace))

/-- A move beyond either end stops there. -/
theorem Steady.moveSelection (h : g.Steady) (delta : Int) : (g.moveSelection delta).Steady := by
  unfold GridView.moveSelection
  split
  · exact h
  · refine h.selecting ?_
    omega

theorem steady_reset (g : GridView) : g.reset.Steady where
  selected_le := Nat.le_refl 0
  placed _ _ h := nomatch h
  scrolled := by
    constructor
    · exact Nat.le_refl 0
    · show 0 < 0 + max g.viewportRows 1
      omega
    · show 0 + max g.viewportRows 1 ≤ max 0 (max g.viewportRows 1)
      omega

theorem Steady.resize (h : g.Steady) (area : Rect) (store : RowStore) (descriptors : Descriptors)
    (options : MarkupOptions) : (g.resize area store descriptors options).Steady :=
  steady_scrollToSelection h.selected_le h.placed

/-! ## Following a store -/

/-- A new order has a place for the selected row, or the selection is cut to its last place. -/
theorem selected_rebuild_le (g : GridView) (store : RowStore) :
    (g.rebuild store).selected ≤ (g.rebuild store).order.length - 1 := by
  simp only [rebuild]
  split
  next place hplace =>
    obtain ⟨id, -, hid⟩ := Option.bind_eq_some_iff.mp hplace
    obtain ⟨hlt, -⟩ := List.getElem?_eq_some_iff.mp (getElem?_of_get?_positionsOf hid)
    exact Nat.le_sub_one_of_lt hlt
  · exact Nat.min_le_right _ _

theorem placed_rebuild (g : GridView) (store : RowStore) {id i : Nat}
    (h : (g.rebuild store).positions.get? id = some i) : i < (g.rebuild store).order.length :=
  (List.getElem?_eq_some_iff.mp (getElem?_of_get?_positionsOf h)).1

/-- The selected place stays, cut to the last one, if the new order does not have its row. -/
theorem selected_rebuild_of_gone
    (hgone : ∀ id, g.selectedId? = some id → id ∉ store.visible.map (·.id)) :
    (g.rebuild store).selected = min g.selected ((g.rebuild store).order.length - 1) := by
  have hnone : g.selectedId?.bind (positionsOf (store.visible.map (·.id))).get? = none := by
    rw [Option.bind_eq_none_iff]
    intro id hid
    rw [Option.eq_none_iff_forall_ne_some]
    intro i hi
    exact hgone id hid (List.mem_of_getElem? (getElem?_of_get?_positionsOf hi))
  simp only [rebuild, hnone]

/-- A synchronisation builds the order anew or leaves it, and scrolls. What it formats has no part
in that. -/
theorem sync_cases (g : GridView) (store : RowStore) (descriptors : Descriptors)
    (options : MarkupOptions) :
    ∃ cache n, (g.sync store descriptors options).1 =
        ({ g with cache, lastFormatted := n } : GridView).scrollToSelection ∨
      (g.sync store descriptors options).1 =
        (({ g with cache, lastFormatted := n } : GridView).rebuild
          store.takeEvents.1).scrollToSelection := by
  obtain ⟨cache, n, hview⟩ := (g.tracks_followNotes store descriptors options).frame
  refine ⟨cache, n, ?_⟩
  rw [sync_eq, hview]
  split
  · exact .inr rfl
  · exact .inl rfl

theorem Steady.sync (h : g.Steady) (store : RowStore) (descriptors : Descriptors)
    (options : MarkupOptions) : (g.sync store descriptors options).1.Steady := by
  obtain ⟨cache, n, hsync | hsync⟩ := g.sync_cases store descriptors options
  · rw [hsync]
    exact steady_scrollToSelection h.selected_le h.placed
  · rw [hsync]
    exact steady_scrollToSelection (selected_rebuild_le _ _) fun _ _ => placed_rebuild _ _

/-- Where the selected row is gone, the selected place stays, cut to the last one. -/
theorem Steady.selected_sync (h : g.Steady)
    (hgone : ∀ id, g.selectedId? = some id → id ∉ store.visible.map (·.id)) :
    (g.sync store descriptors options).1.selected =
      min g.selected ((g.sync store descriptors options).1.order.length - 1) := by
  obtain ⟨cache, n, hsync | hsync⟩ := g.sync_cases store descriptors options
  · -- The order is left as it is, in which the selected place is one already.
    rw [hsync]
    exact (Nat.min_eq_left h.selected_le).symm
  · rw [hsync]
    exact selected_rebuild_of_gone hgone

/-! ## Any sequence of calls -/

/-- The view after a call. -/
def handle (g : GridView) : ViewCall → GridView
  | .resize area store descriptors options => g.resize area store descriptors options
  | .sync store descriptors options => (g.sync store descriptors options).1
  | .select id => g.trySelect id
  | .moveSelection delta => g.moveSelection delta
  | .selectFirst => g.selectFirst
  | .selectLast => g.selectLast
  | .reset => g.reset

/-- An empty view after a sequence of calls, the first one first. -/
def handleAll (calls : List ViewCall) : GridView := calls.foldl handle {}

theorem Steady.handle (h : g.Steady) (call : ViewCall) : (g.handle call).Steady := by
  cases call with
  | resize area store descriptors options => exact h.resize area store descriptors options
  | sync store descriptors options => exact h.sync store descriptors options
  | select id => exact h.trySelect id
  | moveSelection delta => exact h.moveSelection delta
  | selectFirst => exact h.selecting (Nat.zero_le _)
  | selectLast => exact h.selecting (Nat.le_refl _)
  | reset => exact steady_reset g

theorem steady_handleAll (calls : List ViewCall) : (handleAll calls).Steady := by
  -- Induction on the calls, from any view that is steady.
  suffices h : ∀ (calls : List ViewCall) (g : GridView), g.Steady → (calls.foldl handle g).Steady
    from h calls {} steady_empty
  intro calls
  induction calls with
  | nil => exact fun _ h => h
  | cons call calls ih => exact fun g h => ih _ (h.handle call)

/-- After any sequence of calls: the selected place is one of the order, or the first if there are
no rows; it is within the lines from the offset on, and these lines reach beyond the order only if
it has fewer rows. So where a line fits, the selected row is in the visible slice, and while rows
are scrolled out above, the slice takes every line. A synchronisation with any store keeps the
selected row if it is visible, and otherwise the selected place, cut to the last one. -/
theorem selection_stays_in_view (calls : List ViewCall) :
    let g := handleAll calls
    let lines := max g.viewportRows 1
    (g.selected < g.order.length ∨ g.order = [] ∧ g.selected = 0) ∧
    g.offset ≤ g.selected ∧ g.selected < g.offset + lines ∧
    g.offset + lines ≤ max g.order.length lines ∧
    (0 < g.viewportRows →
      (g.order ≠ [] → ∃ id ∈ g.viewport, g.selectedId? = some id) ∧
      (0 < g.offset → g.viewport.length = g.viewportRows)) ∧
    ∀ store descriptors options,
      let g' := (g.sync store descriptors options).1
      let shown := store.visible.map (·.id)
      (∀ id, g.selectedId? = some id → id ∈ shown → g'.selectedId? = some id) ∧
      ((∀ id, g.selectedId? = some id → id ∉ shown) →
        g'.selected = min g.selected (g'.order.length - 1)) := by
  intro g lines
  have hsteady : g.Steady := steady_handleAll calls
  have hle := hsteady.selected_le
  have hplace : g.selected < g.order.length ∨ g.order = [] ∧ g.selected = 0 := by
    rcases Nat.eq_zero_or_pos g.order.length with hnone | hsome
    · exact .inr ⟨List.length_eq_zero_iff.mp hnone, by omega⟩
    · exact .inl (by omega)
  refine ⟨hplace, hsteady.scrolled.offset_le, hsteady.scrolled.selected_lt, hsteady.scrolled.filled,
    fun hfits => ⟨fun hrows => ?_, ?_⟩, fun store descriptors options => ?_⟩
  · rcases hplace with hlt | ⟨hnone, -⟩
    · have hselected : g.selectedId? = some g.order[g.selected] := List.getElem?_eq_getElem hlt
      have hseen := hsteady.scrolled.getElem?_viewport hfits
      exact ⟨_, List.mem_of_getElem? (hseen.trans hselected), hselected⟩
    · exact absurd hnone hrows
  · exact hsteady.scrolled.length_viewport hfits
  · exact ⟨fun id hid hshown => selectedId?_sync hid hshown _ _, hsteady.selected_sync⟩

end GridView

end PropertySheet
