import PropertySheet.Proofs.Sheet.Rows

/-!
# A destroyed sheet

Destroying a sheet empties it and drops what is pending, so there is nothing left that a call could
act on: no row to edit or follow, and no request that a response could be for. Keys are refused on
their own account. So the sheet stays `Inert`, by one step for each call and from there for a
sequence of calls.

Two calls need no row. Adding a property asks for it, or complains about a blank name, and the
prompt for a name comes up wherever the sheet has a place for it. Neither looks whether the sheet is
destroyed (`rouses`). `inert_along_iff` says that a destroyed sheet stays inert until the first such
call and not longer; `not_inert_addingToDestroyed` shows a row and an editor come out of one.
-/

namespace PropertySheet

namespace Operation

/-- The call that puts rows into an emptied sheet. -/
def loads : Operation → Bool
  | .load _ _ _ => true
  | _ => false

/-- The calls that do something to a sheet without rows, by the options of the sheet. -/
def rouses (c : SheetConfig) : Operation → Bool
  | .addProperty _ => true
  | .openNamePrompt => !(c.readOnly || c.dialogContainer.isNone)
  | _ => false

end Operation

namespace Sheet

/-- A destroyed sheet that holds nothing: no rows, nothing open, nothing pending, and nothing for
the application to take. -/
structure Inert (s : Sheet) : Prop where
  destroyed : s.destroyed = true
  rows : s.rows = []
  order : s.view.order = []
  editor : s.editor = none
  dialog : s.dialog = none
  notice : s.notice = none
  pending : s.pending = .empty
  requests : s.requests = []
  events : s.events = []

variable {s : Sheet} {op : Operation}

theorem inert_destroy (s : Sheet) : s.destroy.Inert where
  destroyed := rfl
  rows := RowStore.rows_clear s.store
  order := rfl
  editor := rfl
  dialog := rfl
  notice := rfl
  pending := rfl
  requests := rfl
  events := rfl

/-! ## One call -/

theorem Inert.selectedId? (h : s.Inert) : s.view.selectedId? = none := by
  rw [GridView.selectedId?, h.order, List.getElem?_nil]

theorem Inert.selectedRow? (h : s.Inert) : s.selectedRow? = none := by
  rw [Sheet.selectedRow?, h.selectedId?, Option.bind_none]

/-- The index of names may hold a position, but there is no row at it. -/
theorem Inert.findRow? (h : s.Inert) (name : String) : s.findRow? name = none := by
  have hrows : s.store.rows = [] := h.rows
  rw [Sheet.findRow?, RowStore.findByName?, Option.bind_eq_none_iff]
  intro position _
  rw [hrows, List.getElem?_nil]

/-- Most calls act on a row, an editor or a pending request, and find none. -/
theorem Inert.apply (h : s.Inert) (hload : op.loads = false) (hop : op.rouses s.config = false) :
    (s.apply op).Inert ∧ (s.apply op).config = s.config := by
  have hself : s.Inert ∧ s.config = s.config := ⟨h, rfl⟩
  cases op with
  | load values descriptors histories => cases hload
  | clear => exact ⟨{ s.inert_destroy with destroyed := h.destroyed, events := h.events }, rfl⟩
  | destroy => exact ⟨s.inert_destroy, rfl⟩
  | saveRow =>
    rw [Sheet.apply, saveRow, h.editor]
    exact hself
  | cancelEdit => exact ⟨{ h with editor := rfl }, rfl⟩
  | resize area => exact ⟨{ h with }, rfl⟩
  | setGroup groupId => exact ⟨{ h with }, rfl⟩
  | select property =>
    rw [Sheet.apply, select, h.findRow?]
    exact hself
  | activate =>
    rw [Sheet.apply, activate, h.selectedId?]
    exact hself
  | deleteSelected =>
    rw [Sheet.apply, deleteSelected, h.selectedId?]
    dsimp only
    rw [ite_self]
    exact hself
  | goToService =>
    rw [Sheet.apply, goToService, h.selectedRow?]
    exact hself
  | showTooltip =>
    rw [Sheet.apply, showTooltip, h.selectedRow?]
    exact hself
  | openNamePrompt =>
    have hclosed : (s.config.readOnly || s.config.dialogContainer.isNone) = true := by
      simpa only [Operation.rouses, Bool.not_eq_false'] using hop
    rw [Sheet.apply, openNamePrompt, if_pos hclosed]
    exact hself
  | addProperty name => cases hop
  | takeRequests => exact ⟨{ h with requests := rfl }, rfl⟩
  | takeEvents => exact ⟨{ h with events := rfl }, rfl⟩
  | handleKey k =>
    rw [Sheet.apply, handleKey, if_pos h.destroyed]
    exact hself
  | complete r =>
    rw [Sheet.apply, complete, h.pending, SortedMap.get?_empty]
    exact hself

/-- Adding a property shows a notice or asks for the property, and the prompt is a dialog. -/
theorem Inert.rouses_eq_false (h : s.Inert) (hafter : (s.apply op).Inert) :
    op.rouses s.config = false := by
  rw [Bool.eq_false_iff]
  intro hop
  cases op with
  | addProperty name =>
    have hnotice := hafter.notice
    have hrequests := hafter.requests
    rw [Sheet.apply, Sheet.addProperty] at hnotice hrequests
    dsimp only at hnotice hrequests
    split at hnotice
    next hblank => cases hnotice
    next hblank =>
      have hnone : ({ s with dialog := none } : Sheet).findRow? (Text.trim name) = none :=
        h.findRow? _
      rw [if_neg hblank, hnone] at hrequests
      exact absurd hrequests (List.append_ne_nil_of_right_ne_nil _ (List.cons_ne_nil _ _))
  | openNamePrompt =>
    have hdialog := hafter.dialog
    have hoffered : (s.config.readOnly || s.config.dialogContainer.isNone) = false := by
      simpa only [Operation.rouses, Bool.not_eq_true'] using hop
    rw [Sheet.apply, Sheet.openNamePrompt, hoffered, if_neg Bool.false_ne_true] at hdialog
    cases hdialog
  | _ => cases hop

/-! ## A sequence of calls -/

theorem Inert.along_iff (h : s.Inert) {ops : List Operation}
    (hloads : ∀ op ∈ ops, op.loads = false) :
    (∀ before, before <+: ops → (s.run before).Inert) ↔
      ∀ op ∈ ops, op.rouses s.config = false := by
  induction ops generalizing s with
  | nil =>
    refine iff_of_true (fun before hbefore => ?_) fun _ hop => absurd hop List.not_mem_nil
    rw [List.prefix_nil.mp hbefore]
    exact h
  | cons op ops ih =>
    obtain ⟨hload, hloads⟩ := List.forall_mem_cons.mp hloads
    constructor
    · intro hall
      have hop : op.rouses s.config = false :=
        h.rouses_eq_false (hall [op] (List.prefix_append [op] ops))
      obtain ⟨hafter, hconfig⟩ := h.apply hload hop
      refine List.forall_mem_cons.mpr ⟨hop, ?_⟩
      rw [← hconfig]
      refine (ih hafter hloads).mp fun before hbefore => ?_
      exact hall (op :: before) ((List.prefix_cons_inj op).mpr hbefore)
    · intro hall before hbefore
      obtain ⟨hop, hall⟩ := List.forall_mem_cons.mp hall
      obtain ⟨hafter, hconfig⟩ := h.apply hload hop
      rcases List.prefix_cons_iff.mp hbefore with rfl | ⟨rest, rfl, hrest⟩
      · exact h
      · rw [← hconfig] at hall
        exact (ih hafter hloads).mpr hall rest hrest

/-- A destroyed sheet that is not loaded again stays inert through a sequence of calls exactly if
none of them adds a property or, on a sheet where properties can be added, opens the prompt for
it. Responses may come to requests of before. -/
theorem inert_along_iff (s : Sheet) {ops : List Operation}
    (hloads : ∀ op ∈ ops, op.loads = false) :
    (∀ before, before <+: ops → (s.destroy.run before).Inert) ↔
      ∀ op ∈ ops, op.rouses s.config = false :=
  s.inert_destroy.along_iff hloads

/-- Responses to requests of before, keys, and calls that act on rows. -/
def leftoverRun : List Operation :=
  [.complete (.descriptor 0 (.ok { name := "x" })),
    .complete (.serviceLocated 1 (.error .missingFile)), .handleKey { code := .char 'a' },
    .handleKey { code := .enter }, .activate, .deleteSelected, .goToService, .showTooltip, .saveRow,
    .cancelEdit, .takeRequests, .takeEvents]

/-- A sheet with a row and a pending request is destroyed. Its prompt cannot be opened, since it has
no place for dialogs. -/
theorem inert_along_iff_leftoverRun :
    let s := (ofConfig {}).run [.load [("a", some "1")] .empty .empty, .addProperty "x"]
    let ops := leftoverRun ++ [.openNamePrompt]
    s.pending.toList = [(0, .addProperty "x")] ∧ s.rows.map (·.property) = ["a"] ∧
    (∀ op ∈ ops, op.loads = false) ∧ (∀ op ∈ ops, op.rouses s.config = false) ∧
    ∀ before, before <+: ops → (s.destroy.run before).Inert := by
  intro s ops
  have hloads : ∀ op ∈ ops, op.loads = false := by simp [ops, leftoverRun, Operation.loads]
  have hrouses : ∀ op ∈ ops, op.rouses s.config = false := by
    have hconfig : s.config = {} := by decide +kernel
    rw [hconfig]
    simp [ops, leftoverRun, Operation.rouses]
  exact ⟨by decide +kernel, by decide +kernel, hloads, hrouses,
    (inert_along_iff s hloads).mpr hrouses⟩

/-- Adding a property to a destroyed sheet asks for it, and the response appends its row and opens
an editor on it. -/
theorem not_inert_addingToDestroyed :
    let s := ((ofConfig { dialogContainer := some "main" }).run
      [.load [("a", some "1")] .empty .empty]).destroy
    let t := s.addProperty "x"
    let u := t.takeRequests.1.complete (.descriptor 0 (.ok { name := "x" }))
    s.Inert ∧ t.takeRequests.2 = [.resolveDescriptor 0 "x"] ∧ u.destroyed = true ∧
    u.rows.map (·.property) = ["x"] ∧ u.editor.map (·.property) = some "x" ∧
    (s.addProperty "").events = [.notice nameRequired] ∧
    s.openNamePrompt.1.dialog = some (.namePrompt .empty) := by
  intro s t u
  exact ⟨inert_destroy _, by decide +kernel⟩

end Sheet

end PropertySheet
