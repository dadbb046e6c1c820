import PropertySheet.Proofs.Sheet.Adding
import PropertySheet.Proofs.Sheet.Departure
import PropertySheet.Proofs.Sheet.Transactions

/-!
# Following a service commits the editor

The user may follow the service that the selected row names while an editor is open. The sheet looks
at the row, then commits the editor, and then asks for the service and says what is unsaved.
`selectedRow?_saveRow` says what the commit does to the selected row.

What is unsaved is said of the rows after the commit. The service is the one from before it: if the
editor is on the selected row and gives it another value, the sheet asks for a service that the row
does not name any more. `goToService_agrees_iff` says that this is the only case.
-/

namespace PropertySheet

open RowStore

namespace Sheet

variable {s : Sheet}

/-! ## The commit and the selected row -/

/-- The selected row is visible. -/
theorem selects_of_selectedRow? (hcurrent : s.pane.Current fun _ => False) {r : Row}
    (hr : s.selectedRow? = some r) : r ∈ s.rows ∧ s.Selects r.property := by
  have hidx : s.store.Indexed := hcurrent.follows.indexed
  obtain ⟨id, hselected, hfound⟩ := Option.bind_eq_some_iff.mp hr
  obtain ⟨hmem, rfl⟩ := hidx.findById?_eq_some_iff.mp hfound
  have hplaced : r.id ∈ s.view.order := List.mem_of_getElem? hselected
  rw [order_eq_of_current hcurrent] at hplaced
  obtain ⟨r', hr', hid⟩ := List.mem_map.mp hplaced
  obtain ⟨hmem', hvisible⟩ := mem_visible.mp hr'
  obtain rfl := hidx.eq_of_id_eq hmem' hmem hid
  exact ⟨hmem, r', hmem, rfl, hvisible, hselected⟩

/-- A commit keeps the selection. -/
theorem selectedRow?_saveRow (hcurrent : s.pane.Current fun _ => False) {r : Row}
    (hr : s.selectedRow? = some r) : s.saveRow.selectedRow? = some (s.committed r) := by
  have hidx : s.store.Indexed := hcurrent.follows.indexed
  obtain ⟨hmem, hselects⟩ := selects_of_selectedRow? hcurrent hr
  obtain ⟨r', hr', hname, -, hselected⟩ := hselects.saveRow hidx
  rw [rows_saveRow hidx] at hr'
  obtain ⟨r₀, hr₀, rfl⟩ := List.mem_map.mp hr'
  rw [property_committed] at hname
  obtain rfl := hidx.eq_of_property_eq hr₀ hmem hname
  refine selectedRow?_of_mem ((revised_saveRow .kept).indexed hidx) ?_ hselected
  rw [rows_saveRow hidx]
  exact List.mem_map_of_mem hr₀

/-! ## Following a service -/

/-- A row offers to follow the service that it names. -/
def OffersService (s : Sheet) (r : Row) : Prop :=
  (Markup.actions r (s.descriptors.get? r.property) s.markupOptions).goToService = true

instance (s : Sheet) (r : Row) : Decidable (s.OffersService r) :=
  inferInstanceAs (Decidable (_ = true))

/-- The open editor is on a row, and its commit gives the row another value. -/
def Rewrites (s : Sheet) (r : Row) : Prop :=
  ∃ e, s.editor = some e ∧ e.rowId = r.id ∧ e.commit.dirty ∧ e.commit.value ≠ r.value

/-- A row offers what it names: whether it does depends on nothing else that a commit changes. -/
theorem offersService_congr {t : Sheet} {r r' : Row} (hdescriptors : t.descriptors = s.descriptors)
    (hconfig : t.config = s.config) (hproperty : r'.property = r.property)
    (hvalue : r'.value = r.value) : t.OffersService r' ↔ s.OffersService r := by
  unfold OffersService markupOptions Markup.actions
  rw [hdescriptors, hconfig, hproperty, hvalue]

theorem value_committed_eq_iff (s : Sheet) (r : Row) :
    (s.committed r).value = r.value ↔ ¬ s.Rewrites r := by
  unfold committed Rewrites
  cases he : s.editor with
  | none => simp
  | some e =>
    dsimp only
    split
    next hdirty =>
      by_cases hid : r.id = e.rowId
      · simp [patchAt, Row.patch, hid, hdirty]
      · simp [patchAt, hid, Ne.symm hid]
    next hclean => simp [hclean]

/-- The sheet either offers nothing to follow and stays as it is, or it commits the editor and asks
for the service that the selected row named before. -/
theorem goToService_cases (s : Sheet) :
    s.goToService = (s, false) ∨
    ∃ r id, s.selectedRow? = some r ∧ r.value = some id ∧ s.OffersService r ∧
      s.goToService =
        (s.saveRow.ask .goToService (.goToService · id s.saveRow.unsaved), true) := by
  have hconfig : s.saveRow.config = s.config := by rw [saveRow_frame]
  unfold goToService OffersService
  split
  · exact .inl rfl
  next r hr =>
    split
    next hoffers =>
      split
      · exact .inl rfl
      next id hid =>
        refine .inr ⟨r, id, hr, hid, hoffers, ?_⟩
        simp only [unsaved, hconfig]
    · exact .inl rfl

/-- In every state that calls and responses lead to: the sheet refuses to follow a service and stays
as it is, or it asks for a service and says all changes after the commit of the editor. The service
is the one that the selected row names, and offers to follow, in the resulting state, exactly if the
commit does not give that row another value. -/
theorem goToService_agrees_iff (config : SheetConfig) (ops : List Operation) :
    let s := (ofConfig config).run ops
    let t := s.goToService.1
    (s.goToService.2 = false → t = s) ∧
    (s.goToService.2 = true → ∃ r r' id, s.selectedRow? = some r ∧ r.value = some id ∧
      t.selectedRow? = some r' ∧ r'.id = r.id ∧
      t.requests = s.requests ++ [.goToService s.nextToken id t.unsaved] ∧
      (r'.value = some id ∧ t.OffersService r' ↔ ¬ s.Rewrites r)) := by
  intro s t
  have hcurrent := current_run config ops
  rcases s.goToService_cases with hrefused | ⟨r, id, hr, hid, hoffers, hasked⟩
  · have ht : t = s := congrArg Prod.fst hrefused
    refine ⟨fun _ => ht, fun htrue => ?_⟩
    rw [hrefused] at htrue
    cases htrue
  · have ht : t = s.saveRow.ask .goToService (.goToService · id s.saveRow.unsaved) :=
      congrArg Prod.fst hasked
    refine ⟨fun hfalse => ?_, fun _ => ?_⟩
    · rw [hasked] at hfalse
      cases hfalse
    have hframe := s.saveRow_frame
    have hrequests : s.saveRow.requests = s.requests := by rw [hframe]
    have htoken : s.saveRow.nextToken = s.nextToken := by rw [hframe]
    have hsame : t.OffersService (s.committed r) ↔
        s.saveRow.OffersService (s.committed r) := by
      rw [ht]
      exact Iff.rfl
    refine ⟨r, s.committed r, id, hr, hid, ?_, s.id_committed r, ?_, ?_⟩
    · rw [ht]
      exact selectedRow?_saveRow hcurrent hr
    · rw [ht]
      show s.saveRow.requests ++ [.goToService s.saveRow.nextToken id _] = _
      rw [hrequests, htoken]
      rfl
    · rw [← s.value_committed_eq_iff r, hid]
      refine ⟨fun hagrees => hagrees.1, fun hvalue => ⟨hvalue, ?_⟩⟩
      rw [hsame]
      refine (offersService_congr ?_ ?_ (s.property_committed r) (hvalue.trans hid.symm)).mpr
        hoffers
      · rw [hframe]
      · rw [hframe]

/-- The row of a service is selected, and another service is chosen in its editor. -/
def choosingOtherRun : List Operation := [
  .load [("Cache", some "svc-1")]
    (.ofList [("Cache",
      { name := "Cache", serviceType := some "org.Cache",
        allowableValues := some [{ value := "svc-1" }, { value := "svc-2" }] })])
    .empty,
  .handleKey { code := .enter },
  .handleKey { code := .down }]

/-- The row names the service that was chosen, and the change of it is said to be unsaved, but the
sheet asks for the service of before. -/
theorem not_goToService_agrees_choosingOtherRun :
    let s := (ofConfig { supportsNavigation := true }).run choosingOtherRun
    let t := s.goToService.1
    s.goToService.2 = true ∧
    t.requests = [.goToService 0 "svc-1" (some (.ofList [("Cache", some "svc-2")]))] ∧
    (t.selectedRow?.map fun r => (r.value, decide (t.OffersService r))) =
      some (some "svc-2", true) := by
  decide +kernel

end Sheet

end PropertySheet
