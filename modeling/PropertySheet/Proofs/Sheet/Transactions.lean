import PropertySheet.Proofs.Sheet.Pairing

/-!
# An edit is a transaction

While an editor is open, keys go to it unless a notice or a dialog is over it. They change the
editor and nothing else of the sheet (`run_typing`), until one of them asks to close it. Then either
the row takes the value of the editor, if that is a change, or no row changes at all.
`edit_is_transaction` puts this together for every state and every sequence of keys.

`editorStep_apply` says what any call can do to the open editor: leave it, close it, let it take a
key, or open one on a row. So an editor that is open was opened on a row and has taken keys since.
-/

namespace PropertySheet

open RowStore

/-! ## Editors that were opened on a row -/

namespace CellEditor

/-- The editor was opened on a row, and has taken keys since. -/
def Opened (e : CellEditor) : Prop :=
  ∃ r anchor keys, e = (onRow r e.descriptor anchor).typing keys

theorem typing_append (e : CellEditor) (xs ys : List Key) :
    e.typing (xs ++ ys) = (e.typing xs).typing ys := by
  simp [typing, List.foldl_append]

/-- Keys change nothing of an editor but its surface and its content. -/
theorem typing_frame (e : CellEditor) (keys : List Key) :
    ∃ surface body, e.typing keys = { e with surface, body } := by
  obtain ⟨surface, body, htyped, -⟩ :=
    e.typing_keeps (P := fun _ => True) (fun _ _ _ => trivial) trivial keys
  exact ⟨surface, body, htyped⟩

theorem opened_onRow (r : Row) (d : Option Descriptor) (anchor : Rect) :
    (onRow r d anchor).Opened := ⟨r, anchor, [], rfl⟩

theorem Opened.typing {e : CellEditor} (h : e.Opened) (keys : List Key) :
    (e.typing keys).Opened := by
  obtain ⟨r, anchor, before, he⟩ := h
  obtain ⟨surface, body, hkeys⟩ := e.typing_frame keys
  have hdescriptor : (e.typing keys).descriptor = e.descriptor := by rw [hkeys]
  refine ⟨r, anchor, before ++ keys, ?_⟩
  rw [typing_append, hdescriptor, ← he]

theorem Opened.alive {e : CellEditor} (h : e.Opened) : e.destroyed = false := by
  obtain ⟨r, anchor, keys, he⟩ := h
  obtain ⟨surface, body, hkeys⟩ := (onRow r e.descriptor anchor).typing_frame keys
  rw [he, hkeys]
  rfl

/-- Whatever it has taken since, a cancelled editor has the content that it was opened with. -/
theorem Opened.exists_onRow {e : CellEditor} (h : e.Opened) :
    ∃ r anchor before, r.id = e.rowId ∧ r.property = e.property ∧ r.value = e.previousValue ∧
      e = (onRow r e.descriptor anchor).typing before ∧
      ∀ after, (e.typing after).cancel.body = (onRow r e.descriptor anchor).body := by
  obtain ⟨r, anchor, before, he⟩ := h
  obtain ⟨surface, body, hbefore⟩ := (onRow r e.descriptor anchor).typing_frame before
  have hrow : r.id = e.rowId ∧ r.property = e.property ∧ r.value = e.previousValue := by
    rw [he, hbefore]
    exact ⟨rfl, rfl, rfl⟩
  refine ⟨r, anchor, before, hrow.1, hrow.2.1, hrow.2.2, he, fun after => ?_⟩
  have hall : e.typing after = (onRow r e.descriptor anchor).typing (before ++ after) := by
    rw [typing_append, ← he]
  rw [hall, cancel_typing_onRow]

end CellEditor

namespace Sheet

variable {s : Sheet}

/-! ## The commit of the open editor -/

/-- A row once the open editor is committed. -/
def committed (s : Sheet) (r : Row) : Row :=
  match s.editor with
  | none => r
  | some e => if e.commit.dirty then patchAt e.rowId { value := some e.commit.value } r else r

@[simp]
theorem property_committed (s : Sheet) (r : Row) : (s.committed r).property = r.property := by
  unfold committed
  split
  · rfl
  · split
    · exact property_patchAt _ _ r
    · rfl

@[simp]
theorem id_committed (s : Sheet) (r : Row) : (s.committed r).id = r.id := by
  unfold committed
  split
  · rfl
  · split
    · exact id_patchAt _ _ r
    · rfl

/-- A commit that is a change gives the row of the editor its value, and any other is none. -/
theorem committed_of_editor {e : CellEditor} (he : s.editor = some e) (r : Row) :
    s.committed r =
      if r.id = e.rowId ∧ e.commit.dirty then { r with value := e.commit.value } else r := by
  unfold committed
  rw [he]
  by_cases hid : r.id = e.rowId
  · simp [patchAt, hid, Row.patch]
  · simp [patchAt, hid]

/-- A commit closes the editor and changes the rows and the view, but nothing else. -/
theorem saveRow_frame (s : Sheet) :
    s.saveRow = { s with editor := none, view := s.saveRow.view, store := s.saveRow.store } := by
  unfold saveRow
  split
  next hnone => rw [← hnone]
  next e _ =>
    dsimp only
    split
    · unfold updateRow
      split
      · rfl
      · rfl
    · rfl

theorem rows_saveRow (hidx : s.store.Indexed) : s.saveRow.rows = s.rows.map s.committed := by
  unfold saveRow committed
  cases s.editor with
  | none => simp
  | some e =>
    dsimp only
    split
    · exact rows_updateRow (s := s.cancelEdit) hidx e.rowId _
    · simp [rows, store_sync, cancelEdit, RowStore.takeEvents]

/-- Where no editor is open, there is nothing to commit. -/
theorem saveRow_of_closed (h : s.editor = none) : s.saveRow = s := by
  rw [saveRow, h]

/-- An editor that opens changes no row itself. -/
theorem store_openEditor (s : Sheet) (id : Nat) : (s.openEditor id).store = s.saveRow.store := by
  unfold openEditor
  dsimp only
  split
  · rfl
  · split
    · rfl
    · rfl

/-! ## What a call does to the open editor -/

/-- What a call makes of the open editor: it closes it or leaves it, lets it take a key, or opens
one on a row. -/
inductive EditorStep (before : Option CellEditor) : Option CellEditor → Prop
  | closed : EditorStep before none
  | kept : EditorStep before before
  | typed {e : CellEditor} (k : Key) :
      before = some e → EditorStep before (some (e.handleKey k).1)
  | opened (r : Row) (d : Option Descriptor) (anchor : Rect) :
      EditorStep before (some (.onRow r d anchor))

theorem editorStep_saveRow (before : Option CellEditor) (s : Sheet) :
    EditorStep before s.saveRow.editor := by
  rw [editor_saveRow]
  exact .closed

theorem editorStep_openEditor (before : Option CellEditor) (s : Sheet) (id : Nat) :
    EditorStep before (s.openEditor id).editor := by
  unfold openEditor
  dsimp only
  split
  · exact editorStep_saveRow before s
  · split
    · exact editorStep_saveRow before s
    · exact .opened _ _ _

theorem editorStep_of_or {t : Sheet} (h : t.editor = s.editor ∨ t.editor = none) :
    EditorStep s.editor t.editor := by
  rcases h with h | h
  · rw [h]
    exact .kept
  · rw [h]
    exact .closed

theorem editorStep_activate (s : Sheet) : EditorStep s.editor s.activate.editor := by
  unfold activate
  split
  · exact .kept
  · split
    · split
      · exact .kept
      · exact .kept
    · exact editorStep_openEditor _ s _

theorem editorStep_openNamePrompt (s : Sheet) : EditorStep s.editor s.openNamePrompt.1.editor := by
  unfold openNamePrompt
  split
  · exact .kept
  · exact editorStep_saveRow _ s

theorem editorStep_showTooltip (s : Sheet) : EditorStep s.editor s.showTooltip.1.editor := by
  unfold showTooltip
  split
  · exact .kept
  · split
    · exact .kept
    · exact .kept

theorem editorStep_addProperty (s : Sheet) (name : String) :
    EditorStep s.editor (s.addProperty name).editor := by
  unfold addProperty
  dsimp only
  split
  · exact .kept
  · split
    · split
      · split
        · exact .kept
        · exact editorStep_openEditor _ _ _
      · exact .kept
    · exact .kept

theorem editorStep_handleEditorKey {e : CellEditor} (he : s.editor = some e) (k : Key) :
    EditorStep s.editor (s.handleEditorKey e k).editor := by
  unfold handleEditorKey
  dsimp only
  split
  · exact editorStep_saveRow _ _
  · exact .closed
  · exact .closed
  · exact .typed k he
  · exact .typed k he

theorem editorStep_handleDialogKey (s : Sheet) (d : Dialog) (k : Key) :
    EditorStep s.editor (s.handleDialogKey d k).editor := by
  cases d with
  | namePrompt p =>
    show EditorStep s.editor (s.handlePromptKey p k).editor
    unfold handlePromptKey
    dsimp only
    split
    next name _ =>
      exact editorStep_addProperty { s with dialog := some (.namePrompt (p.handleKey k).1) } name
    · exact .kept
    · exact .kept
    · exact .kept
  | createService d =>
    rw [handleDialogKey, editor_handleCreationKey]
    exact .kept
  | detail d =>
    rw [handleDialogKey]
    split
    · exact .kept
    · exact .kept
  | tooltip t => exact .kept

theorem editorStep_handleGridKey (s : Sheet) (k : Key) :
    EditorStep s.editor (s.handleGridKey k).1.editor := by
  have hmove := s.gridMove_handleGridKey k
  generalize (s.handleGridKey k).1 = t at hmove ⊢
  cases hmove with
  | select view => exact .kept
  | activate => exact s.editorStep_activate
  | delete => exact editorStep_of_or s.editor_deleteSelected
  | prompt => exact s.editorStep_openNamePrompt
  | follow => exact editorStep_of_or s.editor_goToService
  | tell => exact s.editorStep_showTooltip

theorem editorStep_handleKey (s : Sheet) (k : Key) :
    EditorStep s.editor (s.handleKey k).1.editor := by
  unfold handleKey
  split
  · exact .kept
  · split
    · exact .kept
    · split
      next d _ => exact s.editorStep_handleDialogKey d k
      · split
        next e he => exact editorStep_handleEditorKey he k
        · exact s.editorStep_handleGridKey k

theorem editorStep_settle (s : Sheet) (p : Purpose) (r : Response) :
    EditorStep s.editor (s.settle p r).editor := by
  unfold settle
  split
  next name _ d =>
    unfold propertyResolved
    dsimp only
    split
    · exact .kept
    · split
      · exact .kept
      · exact editorStep_openEditor _ _ _
  · exact .kept
  · rw [editor_typesListed]
    exact .kept
  · exact .kept
  · rw [editor_serviceCreated]
    exact .kept
  · exact .kept
  · rw [editor_descriptorRefreshed]
    exact .kept
  · exact .kept
  next service => cases service <;> exact .kept
  · exact .kept
  · exact .kept

/-- What each call can do to the open editor. -/
theorem editorStep_apply (s : Sheet) (op : Operation) :
    EditorStep s.editor (s.apply op).editor := by
  cases op with
  | load values descriptors histories =>
    rcases s.load_cases values descriptors histories with ⟨e, hload⟩ | _
    · rw [apply, hload]
      exact .closed
    · rw [apply, load]
      dsimp only
      split
      · exact .closed
      · exact .closed
  | clear => exact .closed
  | destroy => exact .closed
  | saveRow => exact editorStep_saveRow _ s
  | cancelEdit => exact .closed
  | resize area => exact .kept
  | setGroup groupId => exact .kept
  | select property =>
    rw [apply, select]
    split
    · exact .kept
    · exact .kept
  | activate => exact s.editorStep_activate
  | deleteSelected => exact editorStep_of_or s.editor_deleteSelected
  | goToService => exact editorStep_of_or s.editor_goToService
  | showTooltip => exact s.editorStep_showTooltip
  | openNamePrompt => exact s.editorStep_openNamePrompt
  | addProperty name => exact s.editorStep_addProperty name
  | takeRequests => exact .kept
  | takeEvents => exact .kept
  | handleKey k => exact s.editorStep_handleKey k
  | complete r =>
    rw [apply, complete]
    split
    · exact .kept
    next p _ => exact editorStep_settle { s with pending := s.pending.erase r.token } p r

/-! ## Every editor was opened on a row -/

theorem EditorStep.keeps_opened {before after : Option CellEditor} (h : EditorStep before after)
    (hbefore : ∀ e, before = some e → e.Opened) : ∀ e, after = some e → e.Opened := by
  cases h with
  | closed => exact fun e he => nomatch he
  | kept => exact hbefore
  | typed k hsome =>
    intro e he
    obtain rfl := Option.some.inj he
    exact (hbefore _ hsome).typing [k]
  | opened r d anchor =>
    intro e he
    obtain rfl := Option.some.inj he
    exact CellEditor.opened_onRow r d anchor

/-- Whatever the order of calls, keys and responses: an open editor was opened on a row. -/
theorem opened_run (config : SheetConfig) (ops : List Operation) :
    ∀ e, ((ofConfig config).run ops).editor = some e → e.Opened :=
  run_invariant (P := fun s => ∀ e, s.editor = some e → e.Opened)
    (fun s op h => (s.editorStep_apply op).keeps_opened h) (fun _ he => by cases he) ops

/-- Of all rows, an open editor is on one. -/
theorem existsUnique_row (config : SheetConfig) (ops : List Operation) {e : CellEditor}
    (he : ((ofConfig config).run ops).editor = some e) :
    ∃! r, r ∈ ((ofConfig config).run ops).rows ∧ r.id = e.rowId := by
  have hidx := indexed_run (s := ofConfig config) RowStore.indexed_empty ops
  obtain ⟨r, hr, hid, -⟩ := (propertyOf?_eq_some_iff hidx).mp (editsRow_run config ops e he)
  exact ⟨r, ⟨hr, hid⟩, fun r' h => hidx.eq_of_id_eq h.1 hr (h.2.trans hid.symm)⟩

/-! ## Keys while an editor is open -/

/-- The keys go to an open editor: no notice and no dialog is over it. -/
structure Editing (s : Sheet) (e : CellEditor) : Prop where
  editor : s.editor = some e
  alive : s.destroyed = false
  notice : s.notice = none
  dialog : s.dialog = none

variable {e : CellEditor} {k : Key}

theorem Editing.handleKey (h : s.Editing e) (k : Key) :
    (s.handleKey k).1 = s.handleEditorKey e k := by
  simp [Sheet.handleKey, h.alive, h.notice, h.dialog, h.editor]

theorem Editing.typed (h : s.Editing e) (e' : CellEditor) :
    { s with editor := some e' }.Editing e' := ⟨rfl, h.alive, h.notice, h.dialog⟩

/-- A key that does not close the editor changes it, and nothing else. -/
theorem Editing.handleKey_of_open (h : s.Editing e) (hopen : (e.handleKey k).2.closes = false) :
    (s.handleKey k).1 = { s with editor := some (e.handleKey k).1 } := by
  rw [h.handleKey, handleEditorKey]
  dsimp only
  split
  next hinput => rw [hinput] at hopen; cases hopen
  next hinput => rw [hinput] at hopen; cases hopen
  next hinput => rw [hinput] at hopen; cases hopen
  · rfl
  · rfl

theorem Editing.handleKey_of_commit (h : s.Editing e) (hinput : (e.handleKey k).2 = .commit) :
    (s.handleKey k).1 = s.saveRow := by
  rw [h.handleKey, handleEditorKey]
  simp only [hinput, CellEditor.eq_of_commit hinput]
  rw [← h.editor]

theorem Editing.handleKey_of_cancel (h : s.Editing e) (hinput : (e.handleKey k).2 = .cancel) :
    (s.handleKey k).1 = s.cancelEdit := by
  rw [h.handleKey, handleEditorKey]
  simp only [hinput]
  rfl

theorem Editing.handleKey_of_createService (h : s.Editing e) {type : String}
    (hinput : (e.handleKey k).2 = .createService type) :
    (s.handleKey k).1 = s.cancelEdit.startCreation e.rowId e.property type := by
  have hsame := e.sameRow_handleKey k
  rw [h.handleKey, handleEditorKey]
  simp only [hinput, hsame.rowId, hsame.property]
  rfl

/-- The editor is open after a key exactly if the key has not asked to close it. -/
theorem Editing.editor_handleKey_eq_none_iff (h : s.Editing e) (k : Key) :
    (s.handleKey k).1.editor = none ↔ (e.handleKey k).2.closes := by
  cases hinput : (e.handleKey k).2 with
  | none => simp [h.handleKey_of_open (k := k) (by rw [hinput]; rfl), EditorInput.closes]
  | changed => simp [h.handleKey_of_open (k := k) (by rw [hinput]; rfl), EditorInput.closes]
  | commit => simp [h.handleKey_of_commit hinput, editor_saveRow, EditorInput.closes]
  | cancel => simp [h.handleKey_of_cancel hinput, cancelEdit, EditorInput.closes]
  | createService type =>
    rw [h.handleKey_of_createService hinput]
    exact ⟨fun _ => rfl, fun _ => rfl⟩

/-- As long as none of them closes the editor, keys change it and nothing else. -/
theorem run_typing (h : s.Editing e) {keys : List Key} (hopen : e.KeepsOpen keys) :
    s.run (keys.map .handleKey) = { s with editor := some (e.typing keys) } := by
  induction keys generalizing s e with
  | nil => rw [CellEditor.typing, List.foldl_nil, ← h.editor]; rfl
  | cons k keys ih =>
    rw [List.map_cons, run_cons, apply, h.handleKey_of_open hopen.1]
    exact ih (h.typed _) hopen.2

/-! ## Transactions -/

/-- In every state that calls and responses lead to where keys go to an open editor, and for every
sequence of keys: the editor is on a row. Until a key closes it, nothing else changes. Closed by a
key that cancels or that creates a service, it leaves every row as it is, and to open it changed
none either, but for the commit of an editor that was open before. Committed by a key or by a call,
it changes the value of its row to the one it stands for, if that is a change, and no other row and
no other field. Cancelled after whatever keys, it has the content that it was opened with. -/
theorem edit_is_transaction (config : SheetConfig) (ops : List Operation) {e : CellEditor}
    {keys : List Key} (hediting : ((ofConfig config).run ops).Editing e)
    (hopen : e.KeepsOpen keys) :
    let s := (ofConfig config).run ops
    let t := s.run (keys.map .handleKey)
    let e' := e.typing keys
    (∃! r, r ∈ s.rows ∧ r.id = e.rowId) ∧
    (∀ (b : Sheet) id, s = b.openEditor id →
      s.rows = b.saveRow.rows ∧ (b.editor = none → s.rows = b.rows)) ∧
    t = { s with editor := some e' } ∧
    (∀ k, (t.handleKey k).1.editor = none ↔ (e'.handleKey k).2.closes) ∧
    (∀ k, ((e'.handleKey k).2 = .cancel ↔ k.code = .esc) ∧
      (k.code = .esc → (t.handleKey k).1 = { s with editor := none })) ∧
    (∀ k type, (e'.handleKey k).2 = .createService type →
      (t.handleKey k).1 = { s with editor := none }.startCreation e.rowId e.property type ∧
      (t.handleKey k).1.rows = s.rows) ∧
    (∀ k, (e'.handleKey k).2 = .commit → (t.handleKey k).1 = t.saveRow) ∧
    t.saveRow = { s with editor := none, view := t.saveRow.view, store := t.saveRow.store } ∧
    t.saveRow.rows = s.rows.map (fun r =>
      if r.id = e.rowId ∧ e'.commit.dirty then { r with value := e'.commit.value } else r) ∧
    ∃ r anchor before, r.id = e.rowId ∧ r.property = e.property ∧ r.value = e.previousValue ∧
      e = (CellEditor.onRow r e.descriptor anchor).typing before ∧
      ∀ after, (e.typing after).cancel.body = (CellEditor.onRow r e.descriptor anchor).body := by
  intro s t e'
  have hidx : s.store.Indexed := indexed_run (s := ofConfig config) RowStore.indexed_empty ops
  have ht : t = { s with editor := some e' } := run_typing hediting hopen
  have htyping : t.Editing e' := by
    rw [ht]
    exact hediting.typed e'
  have hopened : e.Opened := opened_run config ops e hediting.editor
  obtain ⟨surface, body, htyped⟩ := e.typing_frame keys
  have hrow : e'.rowId = e.rowId ∧ e'.property = e.property := by
    simp only [e', htyped, and_self]
  refine ⟨existsUnique_row config ops hediting.editor, ?_, ht,
    htyping.editor_handleKey_eq_none_iff, ?_, ?_, ?_, ?_, ?_, hopened.exists_onRow⟩
  · intro b id hs
    have hrows : s.rows = b.saveRow.rows := by
      rw [rows, hs, store_openEditor]
      rfl
    refine ⟨hrows, fun hclosed => ?_⟩
    rw [hrows, saveRow_of_closed hclosed]
  · intro k
    have hcancels : (e'.handleKey k).2 = .cancel ↔ k.code = .esc :=
      CellEditor.handleKey_eq_cancel_iff (hopened.typing keys).alive
    refine ⟨hcancels, fun hesc => ?_⟩
    rw [htyping.handleKey_of_cancel (hcancels.mpr hesc), ht]
    rfl
  · intro k type hinput
    have hstarted := htyping.handleKey_of_createService hinput
    rw [hrow.1, hrow.2, ht] at hstarted
    refine ⟨?_, ?_⟩
    · rw [ht, hstarted]
      rfl
    · rw [ht, hstarted]
      rfl
  · exact fun k hinput => htyping.handleKey_of_commit hinput
  · have hframe := t.saveRow_frame
    rw [ht] at hframe ⊢
    exact hframe
  · have hidx' : t.store.Indexed := by rw [ht]; exact hidx
    have hrows : t.rows = s.rows := by rw [ht]; rfl
    rw [rows_saveRow hidx', hrows]
    refine List.map_congr_left fun r' _ => ?_
    rw [committed_of_editor htyping.editor, hrow.1]

/-- A sheet with two properties, and the editor open on the first one. -/
def editingNameRun : List Operation := [
  .load [("Name", some "old"), ("Cache", some "svc")]
    (.ofList [("Name", { name := "Name" }), ("Cache", { name := "Cache" })]) .empty,
  .handleKey { code := .enter }]

/-- Another value is typed. -/
def newNameKeys : List Key := [
  { code := .char 'u', control := true },
  { code := .char 'n' },
  { code := .char 'e' },
  { code := .char 'w' }]

/-- The value that was typed comes into its row when it is committed. -/
theorem edit_is_transaction_editingNameRun :
    let s := (ofConfig {}).run editingNameRun
    let t := s.run (newNameKeys.map .handleKey)
    ∃ e, s.Editing e ∧ e.KeepsOpen newNameKeys ∧
      t = { s with editor := some (e.typing newNameKeys) } ∧
      t.saveRow.rows = s.rows.map (fun r =>
        if r.id = e.rowId ∧ (e.typing newNameKeys).commit.dirty then
          { r with value := (e.typing newNameKeys).commit.value } else r) ∧
      t.saveRow.rows.map (·.value) = [some "new", some "svc"] := by
  intro s t
  have hsome : s.editor.isSome := by decide +kernel
  obtain ⟨e, he⟩ := Option.isSome_iff_exists.mp hsome
  have hediting : s.Editing e :=
    { editor := he
      alive := by decide +kernel
      notice := by decide +kernel
      dialog := by decide +kernel }
  have hopen : s.editor.all fun e => decide (e.KeepsOpen newNameKeys) := by decide +kernel
  rw [he, Option.all_some, decide_eq_true_eq] at hopen
  obtain ⟨-, -, ht, -, -, -, -, -, hrows, -⟩ :=
    edit_is_transaction {} editingNameRun hediting hopen
  exact ⟨e, hediting, hopen, ht, hrows, by decide +kernel⟩

end Sheet

end PropertySheet
