import PropertySheet.Proofs.Sheet.Formatted

/-!
# An added property becomes visible

A property is added in two steps: the sheet asks for its descriptor, and the row comes with the
response. In the meantime the same property may have been asked for again, and its row may have been
added, edited and deleted. `added_is_selected_iff` says what a response leads to in any such state:
the property has exactly one row afterwards, and that row is visible and selected unless it had been
deleted, that is, hidden.

A row that is hidden by then stays so (`deletedBetweenRun`), although adding a property anew brings
a hidden row back (`selects_addProperty`).
-/

namespace PropertySheet

open RowStore GridView

namespace Sheet

/-- The row of a property is visible and selected. -/
def Selects (s : Sheet) (name : String) : Prop :=
  ∃ r ∈ s.rows, r.property = name ∧ r.hidden = false ∧ s.view.selectedId? = some r.id

variable {s : Sheet} {name : String}

/-! ## Keeping the selected row -/

theorem Selects.sync (h : s.Selects name) : s.sync.Selects name := by
  obtain ⟨r, hr, hname, hvisible, hselected⟩ := h
  have hid : r.id ∈ s.store.visible.map (·.id) :=
    List.mem_map_of_mem (mem_visible.mpr ⟨hr, hvisible⟩)
  exact ⟨r, hr, hname, hvisible, selectedId?_sync hselected hid _ _⟩

theorem Selects.updateRow (h : s.Selects name) (hidx : s.store.Indexed) (id : Nat)
    (value : Option String) : (s.updateRow id { value := some value }).Selects name := by
  obtain ⟨r, hr, hname, hvisible, hselected⟩ := h
  unfold Sheet.updateRow
  split
  next store hu =>
    obtain ⟨hrows, -, -⟩ := hidx.update hu
    refine ⟨patchAt id { value := some value } r, ?_, ?_, ?_, ?_⟩
    · show _ ∈ store.rows
      rw [hrows]
      exact List.mem_map_of_mem hr
    · exact (property_patchAt _ _ r).trans hname
    · unfold patchAt
      split
      · exact hvisible
      · exact hvisible
    · rw [id_patchAt]
      exact hselected
  · exact ⟨r, hr, hname, hvisible, hselected⟩

/-- Storing the value of an editor hides no row. -/
theorem Selects.saveRow (h : s.Selects name) (hidx : s.store.Indexed) :
    s.saveRow.Selects name := by
  unfold Sheet.saveRow
  split
  · exact h
  next e _ =>
    have hclosed : s.cancelEdit.Selects name := h
    dsimp only
    split
    · exact (hclosed.updateRow hidx _ _).sync
    · exact hclosed.sync

theorem Selects.openEditor (h : s.Selects name) (hidx : s.store.Indexed) (id : Nat) :
    (s.openEditor id).Selects name := by
  have hsaved := h.saveRow hidx
  unfold Sheet.openEditor
  dsimp only
  split
  · exact hsaved
  · split
    · exact hsaved
    · exact hsaved

/-! ## Selecting a row -/

theorem selects_selectId (hfollows : s.view.Follows s.store)
    (horder : s.view.order = s.visibleRows.map (·.id)) {r : Row} (hr : r ∈ s.rows)
    (hname : r.property = name) (hvisible : r.hidden = false) : (s.selectId r.id).Selects name := by
  have hid : r.id ∈ s.view.order := by
    rw [horder]
    exact List.mem_map_of_mem (mem_visible.mpr ⟨hr, hvisible⟩)
  exact ⟨r, hr, hname, hvisible, hfollows.selectedId?_trySelect hid⟩

/-- A row that a change of the store has made visible can be selected once the grid follows. -/
theorem selects_sync_selectId {store : RowStore} {ids : List Nat} (hfollows : s.view.Follows s.store)
    (ha : s.store.Announces store ids) {r : Row} (hr : r ∈ store.rows) (hname : r.property = name)
    (hvisible : r.hidden = false) : ((sync { s with store }).selectId r.id).Selects name := by
  have hafter := (hfollows.announces ha).sync_fst s.descriptors s.markupOptions
  exact selects_selectId (s := sync { s with store }) hafter.1 hafter.2.2.2.1 hr hname hvisible

/-- Adding a property that has a hidden row brings the row back and selects it. -/
theorem selects_addProperty (hfollows : s.view.Follows s.store) {r : Row}
    (hr : s.findRow? (Text.trim name) = some r) (hname : (Text.trim name).isEmpty = false)
    (hhidden : r.hidden) : (s.addProperty name).Selects (Text.trim name) := by
  have hidx := hfollows.indexed
  obtain ⟨hmem, hproperty⟩ := hidx.findByName?_eq_some_iff.mp hr
  obtain ⟨store, hu⟩ := exists_update (hidx.findById?_eq_some_iff.mpr ⟨hmem, rfl⟩)
    { hidden := some false, value := some none, previousValue := some none }
  obtain ⟨hrows, -, hafter⟩ := hidx.update hu
  have hback := List.mem_map_of_mem (f := patchAt r.id
    { hidden := some false, value := some none, previousValue := some none }) hmem
  rw [← hrows] at hback
  have hselects := selects_sync_selectId (s := { s with dialog := none }) hfollows
    (hidx.announces_update hu) hback ((property_patchAt _ _ r).trans hproperty)
    (by simp [patchAt, Row.patch])
  rw [id_patchAt] at hselects
  have hfind : ({ s with dialog := none } : Sheet).findRow? (Text.trim name) = some r := hr
  simp only [addProperty, hname, hfind, hhidden, hu, if_true]
  exact hselects.openEditor hafter.takeEvents _

/-! ## The response to a request to add a property -/

/-- What is known of every state: the view follows the rows, and has taken all notes. -/
theorem current_run (config : SheetConfig) (ops : List Operation) :
    ((ofConfig config).run ops).pane.Current fun _ => False :=
  run_invariant (P := fun s => s.pane.Current fun _ => False)
    (fun _ _ h => current_apply h fun _ _ hfalse => hfalse) (current_ofConfig config) ops

/-- A property without a row gets one. -/
theorem selects_propertyResolved_of_none (hfollows : s.view.Follows s.store)
    (hnone : s.findRow? name = none) (d : Descriptor) : (s.propertyResolved name d).Selects name := by
  obtain ⟨store, ha⟩ := exists_add (r := .loaded name name none .userDefined) hnone
  obtain ⟨-, -, hrows, -, hidx⟩ := hfollows.indexed.add ha
  have hnew : (NewRow.loaded name name none .userDefined).withId s.store.nextId ∈ store.rows := by
    simp [hrows]
  have hselects : ((sync { s with descriptors := s.descriptors.insert name d, store }).selectId
      s.store.nextId).Selects name :=
    selects_sync_selectId (s := { s with descriptors := s.descriptors.insert name d }) hfollows
      (hfollows.indexed.announces_add ha) hnew rfl rfl
  have hfind : ({ s with descriptors := s.descriptors.insert name d } : Sheet).findRow? name = none :=
    hnone
  simp only [propertyResolved, hfind, ha]
  exact hselects.openEditor hidx.takeEvents _

/-- A property with a row keeps it, and the row is selected if it is visible. -/
theorem propertyResolved_of_some {r : Row} (hr : s.findRow? name = some r) (d : Descriptor) :
    (s.propertyResolved name d).rows = s.rows ∧
    (s.propertyResolved name d).view = (s.selectId r.id).view := by
  have hfind : ({ s with descriptors := s.descriptors.insert name d } : Sheet).findRow? name =
      some r := hr
  simp only [propertyResolved, hfind]
  exact ⟨rfl, rfl⟩

theorem complete_of_addProperty {t : Token} (hp : s.pending.get? t = some (.addProperty name))
    (d : Descriptor) : s.complete (.descriptor t (.ok d)) =
      ({ s with pending := s.pending.erase t } : Sheet).propertyResolved name d := by
  simp [complete, Response.token, hp, settle]

theorem selectedRow?_of_mem (hidx : s.store.Indexed) {r : Row} (hr : r ∈ s.rows)
    (hselected : s.view.selectedId? = some r.id) : s.selectedRow? = some r := by
  rw [selectedRow?, hselected]
  exact hidx.findById?_eq_some_iff.mpr ⟨hr, rfl⟩

/-- A response that lets a property be added leaves it with exactly one row. The row is visible and
selected, unless the property had a hidden one before, whatever happened in the meantime. -/
theorem added_is_selected_iff (config : SheetConfig) (ops : List Operation) {t : Token}
    {name : String}
    (hp : ((ofConfig config).run ops).pending.get? t = some (.addProperty name))
    (d : Descriptor) :
    let s := (ofConfig config).run ops
    let u := s.complete (.descriptor t (.ok d))
    ∃ r, u.rows.filter (·.property = name) = [r] ∧
      (r.hidden = false ∧ u.selectedRow? = some r ↔
        ∀ r₀ ∈ s.rows, r₀.property = name → r₀.hidden = false) := by
  intro s u
  have hcurrent := current_run config ops
  have hidx : s.store.Indexed := hcurrent.follows.indexed
  have hafter : u.store.Indexed := indexed_apply hidx (.complete (.descriptor t (.ok d)))
  have hu : u = ({ s with pending := s.pending.erase t } : Sheet).propertyResolved name d :=
    complete_of_addProperty hp d
  cases hfound : s.findRow? name with
  | none =>
    obtain ⟨r, hr, hname, hvisible, hselected⟩ : u.Selects name := by
      rw [hu]
      exact selects_propertyResolved_of_none (s := { s with pending := s.pending.erase t })
        hcurrent.follows hfound d
    refine ⟨r, hname ▸ filter_key_eq_singleton hafter.properties_nodup hr, ?_⟩
    refine iff_of_true ⟨hvisible, selectedRow?_of_mem hafter hr hselected⟩ ?_
    exact fun r₀ hr₀ hname₀ => absurd hname₀ (hidx.findByName?_eq_none_iff.mp hfound r₀ hr₀)
  | some r =>
    obtain ⟨hr, hname⟩ := hidx.findByName?_eq_some_iff.mp hfound
    obtain ⟨hrows, hview⟩ :=
      propertyResolved_of_some (s := { s with pending := s.pending.erase t }) hfound d
    rw [← hu] at hrows hview
    have hr' : r ∈ u.rows := hrows ▸ hr
    refine ⟨r, hname ▸ filter_key_eq_singleton hafter.properties_nodup hr', ?_⟩
    constructor
    · rintro ⟨hvisible, -⟩ r₀ hr₀ hname₀
      rwa [hidx.eq_of_property_eq hr₀ hr (hname₀.trans hname.symm)]
    · intro hall
      have hvisible := hall r hr hname
      obtain ⟨r₀, hr₀, hname₀, -, hselected⟩ := selects_selectId hcurrent.follows
        (order_eq_of_current hcurrent) hr hname hvisible
      obtain rfl := hidx.eq_of_property_eq hr₀ hr (hname₀.trans hname.symm)
      refine ⟨hvisible, selectedRow?_of_mem hafter hr' ?_⟩
      rw [hview]
      exact hselected

/-- A property is asked for twice before the first response, and gets a value before the second. -/
def askedTwiceRun : List Operation :=
  askingForX ++ askingForX ++ .complete (.descriptor 0 (.ok { name := "x" })) :: enteringAbc

theorem added_is_selected_askedTwiceRun :
    let s := (ofConfig { dialogContainer := some "main" }).run askedTwiceRun
    let u := s.complete (.descriptor 1 (.ok { name := "x" }))
    s.pending.get? 1 = some (.addProperty "x") ∧ s.rows.map (·.hidden) = [false] ∧
    ∃ r, u.rows.filter (·.property = "x") = [r] ∧ r.hidden = false ∧ u.selectedRow? = some r := by
  intro s u
  have hp : s.pending.get? 1 = some (.addProperty "x") := by decide +kernel
  have hvisible : ∀ r₀ ∈ s.rows, r₀.property = "x" → r₀.hidden = false := by decide +kernel
  refine ⟨hp, by decide +kernel, ?_⟩
  obtain ⟨r, hr, hiff⟩ := added_is_selected_iff { dialogContainer := some "main" } askedTwiceRun hp
    { name := "x" }
  exact ⟨r, hr, hiff.mpr hvisible⟩

/-- A property is asked for twice before the first response, and deleted before the second. -/
def deletedBetweenRun : List Operation :=
  askingForX ++ askingForX ++ [.complete (.descriptor 0 (.ok { name := "x" })),
    .handleKey { code := .esc }, .handleKey { code := .char 'd' }]

/-- The second response tells that the property exists, and leaves its row hidden. -/
theorem not_added_is_selected_deletedBetweenRun :
    let s := (ofConfig { dialogContainer := some "main" }).run deletedBetweenRun
    let u := s.complete (.descriptor 1 (.ok { name := "x" }))
    s.pending.get? 1 = some (.addProperty "x") ∧
    u.rows.map (fun r => (r.property, r.hidden)) = [("x", true)] ∧ u.selectedRow? = none ∧
    u.notice = some nameExists := by
  decide +kernel

end Sheet

end PropertySheet
