import PropertySheet.Proofs.Editor.Typing
import PropertySheet.Proofs.Sheet.Rows
import PropertySheet.Proofs.Sheet.Traffic

/-!
# No update is lost under an open editor

An editor remembers the value that its row had when it opened, and a commit replaces the value of
the row. Meanwhile a response may come that writes to rows, and an editor can even open underneath
the dialog that creates a service. `editor_isCurrent_of_reachable` says that this never costs an
update: while an editor is open its row is there, visible and as it was when the editor opened.

The one response that writes a value is the one that ends the creation of a service. So the proof
keeps apart the row of the editor and the row that the creation is for (`EditLocked`): every pending
request that will write does so to the latter, and an editor that opens during the creation is on a
row that is newer.
-/

namespace PropertySheet

open RowStore

/-! ## Editors and their rows -/

namespace CellEditor

/-- The row of an editor is there, visible, and as it was when the editor opened. -/
def IsCurrent (e : CellEditor) (store : RowStore) : Prop :=
  ∃ r, store.findById? e.rowId = some r ∧ r.hidden = false ∧ r.property = e.property ∧
    r.value = e.previousValue

/-- Keys change the content of an editor, not what it is about. -/
structure SameRow (e e' : CellEditor) : Prop where
  rowId : e'.rowId = e.rowId
  property : e'.property = e.property
  previousValue : e'.previousValue = e.previousValue

theorem sameRow_handleKey (e : CellEditor) (k : Key) : e.SameRow (e.handleKey k).1 := by
  obtain ⟨surface, body, hkey, -⟩ := e.handleKey_frame k
  rw [hkey]
  exact ⟨rfl, rfl, rfl⟩

theorem IsCurrent.sameRow {e e' : CellEditor} {store : RowStore} (h : e.IsCurrent store)
    (hsame : e.SameRow e') : e'.IsCurrent store := by
  rw [IsCurrent, hsame.rowId, hsame.property, hsame.previousValue]
  exact h

/-- A change of another row does not matter. -/
theorem IsCurrent.update {e : CellEditor} {s t : RowStore} (h : e.IsCurrent s) (hs : s.Indexed)
    {id : Nat} {p : RowPatch} (hu : s.update id p = .ok t) (hne : e.rowId ≠ id) :
    e.IsCurrent t := by
  obtain ⟨r, hr, hrest⟩ := h
  obtain ⟨hrows, _, ht⟩ := hs.update hu
  obtain ⟨hmem, hid⟩ := hs.findById?_eq_some_iff.mp hr
  have hsame : patchAt id p r = r := if_neg (hid ▸ hne)
  have hmem' : r ∈ t.rows := by
    rw [hrows]
    exact List.mem_map.mpr ⟨r, hmem, hsame⟩
  exact ⟨r, ht.findById?_eq_some_iff.mpr ⟨hmem', hid⟩, hrest⟩

end CellEditor

namespace Sheet

/-- An open editor is on a row that is as it was when the editor opened. -/
def EditorCurrent (s : Sheet) : Prop := ∀ e, s.editor = some e → e.IsCurrent s.store

theorem editorCurrent_of_closed {s : Sheet} (h : s.editor = none) : s.EditorCurrent :=
  fun _ he => nomatch h.symm.trans he

/-! ## Opening and closing an editor -/

@[simp]
theorem editor_updateRow (s : Sheet) (id : Nat) (p : RowPatch) :
    (s.updateRow id p).editor = s.editor := by
  unfold updateRow
  split <;> rfl

@[simp]
theorem editor_saveRow (s : Sheet) : s.saveRow.editor = none := by
  unfold saveRow
  split
  next h => exact h
  · show (if _ then _ else s.cancelEdit).editor = none
    split
    · exact editor_updateRow _ _ _
    · rfl

/-- An editor that opens is on the row that was asked for, as it is now. -/
theorem editor_openEditor {s : Sheet} (h : s.store.Indexed) (id : Nat) :
    (s.openEditor id).editor = none ∨
    ∃ e, (s.openEditor id).editor = some e ∧ e.rowId = id ∧
      e.IsCurrent (s.openEditor id).store := by
  have hidx := (revised_saveRow .kept).indexed h
  unfold openEditor
  dsimp only
  split
  · exact .inl s.editor_saveRow
  next r hr =>
    split
    · exact .inl s.editor_saveRow
    next hvisible =>
      obtain ⟨_, hid⟩ := hidx.findById?_eq_some_iff.mp hr
      refine .inr ⟨_, rfl, hid, r, ?_, Bool.eq_false_iff.mpr hvisible, rfl, rfl⟩
      exact hid ▸ hr

theorem editorCurrent_openEditor {s : Sheet} (h : s.store.Indexed) (id : Nat) :
    (s.openEditor id).EditorCurrent := by
  rcases editor_openEditor h id with hnone | ⟨e, he, _, hcurrent⟩
  · exact editorCurrent_of_closed hnone
  · intro e' he'
    obtain rfl := Option.some.inj (he.symm.trans he')
    exact hcurrent

theorem rowId_of_openEditor {s : Sheet} (h : s.store.Indexed) {id : Nat} {e : CellEditor}
    (he : (s.openEditor id).editor = some e) : e.rowId = id := by
  rcases editor_openEditor h id with hnone | ⟨e', he', hid, _⟩
  · exact nomatch hnone.symm.trans he
  · obtain rfl := Option.some.inj (he'.symm.trans he)
    exact hid

/-! ## What operations do to the open editor -/

variable {s : Sheet}

theorem EditorCurrent.activate (h : s.EditorCurrent) (hidx : s.store.Indexed) :
    s.activate.EditorCurrent := by
  unfold Sheet.activate
  split
  · exact h
  · split
    · split
      · exact h
      · exact h
    · exact editorCurrent_openEditor hidx _

/-- Hiding the row of an editor closes it. -/
theorem EditorCurrent.deleteSelected (h : s.EditorCurrent) (hidx : s.store.Indexed) :
    s.deleteSelected.1.EditorCurrent := by
  unfold Sheet.deleteSelected
  split
  · exact h
  · split
    · exact h
    next id _ =>
      split
      · exact h
      · dsimp only
        -- the editor of the row is cancelled first; any other is on a row that stays
        by_cases hown : s.editor.map (·.rowId) = some id
        · rw [if_pos hown]
          split
          · exact editorCurrent_of_closed rfl
          · exact editorCurrent_of_closed rfl
        · rw [if_neg hown]
          split
          · exact h
          next store hu =>
            intro e he
            have he : s.editor = some e := he
            have hne : e.rowId ≠ id := by
              rintro rfl
              exact hown (by rw [he, Option.map_some])
            have hcurrent : e.IsCurrent store := (h e he).update hidx hu hne
            exact hcurrent

theorem EditorCurrent.openNamePrompt (h : s.EditorCurrent) :
    s.openNamePrompt.1.EditorCurrent := by
  unfold Sheet.openNamePrompt
  split
  · exact h
  · exact editorCurrent_of_closed s.editor_saveRow

theorem EditorCurrent.goToService (h : s.EditorCurrent) : s.goToService.1.EditorCurrent := by
  unfold Sheet.goToService
  split
  · exact h
  · split
    · split
      · exact h
      · exact editorCurrent_of_closed s.editor_saveRow
    · exact h

theorem EditorCurrent.showTooltip (h : s.EditorCurrent) : s.showTooltip.1.EditorCurrent := by
  unfold Sheet.showTooltip
  split
  · exact h
  · split
    · exact h
    · exact h

theorem EditorCurrent.addProperty (h : s.EditorCurrent) (hidx : s.store.Indexed)
    (name : String) : (s.addProperty name).EditorCurrent := by
  unfold Sheet.addProperty
  dsimp only
  split
  · exact h
  · split
    · split
      · split
        · exact h
        next store hu =>
          exact editorCurrent_openEditor (Indexed.takeEvents (hidx.update hu).2.2) _
      · exact h
    · exact h

theorem EditorCurrent.handleEditorKey {e : CellEditor} (h : s.EditorCurrent)
    (he : s.editor = some e) (k : Key) : (s.handleEditorKey e k).EditorCurrent := by
  have htyped : ({ s with editor := some (e.handleKey k).1 } : Sheet).EditorCurrent := by
    intro e' he'
    obtain rfl := Option.some.inj he'
    exact (h e he).sameRow (e.sameRow_handleKey k)
  unfold Sheet.handleEditorKey
  dsimp only
  split
  · exact editorCurrent_of_closed (editor_saveRow _)
  · exact editorCurrent_of_closed rfl
  · exact editorCurrent_of_closed rfl
  · exact htyped
  · exact htyped

theorem EditorCurrent.handlePromptKey (h : s.EditorCurrent) (hidx : s.store.Indexed)
    (p : NamePrompt) (k : Key) : (s.handlePromptKey p k).EditorCurrent := by
  unfold Sheet.handlePromptKey
  dsimp only
  split
  next name _ =>
    exact EditorCurrent.addProperty
      (s := { s with dialog := some (.namePrompt (p.handleKey k).1) }) h hidx name
  · exact h
  · exact h
  · exact h

@[simp]
theorem editor_handleCreationKey (s : Sheet) (d : ServiceDialog) (k : Key) :
    (s.handleCreationKey d k).editor = s.editor := by
  unfold handleCreationKey
  dsimp only
  split <;> rfl

theorem EditorCurrent.handleDialogKey (h : s.EditorCurrent) (hidx : s.store.Indexed)
    (d : Dialog) (k : Key) : (s.handleDialogKey d k).EditorCurrent := by
  cases d with
  | namePrompt p => exact h.handlePromptKey hidx p k
  | createService d =>
    rw [Sheet.handleDialogKey, EditorCurrent, editor_handleCreationKey, store_handleCreationKey]
    exact h
  | detail d =>
    rw [Sheet.handleDialogKey]
    split
    · exact h
    · exact h
  | tooltip t => exact h

theorem EditorCurrent.handleGridKey (h : s.EditorCurrent) (hidx : s.store.Indexed) (k : Key) :
    (s.handleGridKey k).1.EditorCurrent := by
  have hmove := s.gridMove_handleGridKey k
  generalize (s.handleGridKey k).1 = t at hmove ⊢
  cases hmove with
  | select view => exact h
  | activate => exact h.activate hidx
  | delete => exact h.deleteSelected hidx
  | prompt => exact h.openNamePrompt
  | follow => exact h.goToService
  | tell => exact h.showTooltip

theorem EditorCurrent.handleKey (h : s.EditorCurrent) (hidx : s.store.Indexed) (k : Key) :
    (s.handleKey k).1.EditorCurrent := by
  unfold Sheet.handleKey
  split
  · exact h
  · split
    · exact h
    · split
      next d _ => exact h.handleDialogKey hidx d k
      · split
        next e he => exact h.handleEditorKey he k
        · exact h.handleGridKey hidx k

/-! ## What responses do to the open editor -/

/-- The property that was asked about gets a new row, and an editor on it. -/
theorem editor_propertyResolved (h : s.store.Indexed) (name : String) (d : Descriptor) :
    (s.propertyResolved name d).editor = s.editor ∧
      (s.propertyResolved name d).store = s.store ∨
    (s.propertyResolved name d).EditorCurrent ∧
      ∀ e, (s.propertyResolved name d).editor = some e → e.rowId = s.store.nextId := by
  unfold propertyResolved
  dsimp only
  split
  · exact .inl ⟨rfl, rfl⟩
  · split
    · exact .inl ⟨rfl, rfl⟩
    next store id ha =>
      obtain ⟨rfl, _, _, _, hidx⟩ := h.add ha
      right
      refine ⟨editorCurrent_openEditor hidx.takeEvents _, fun e he => ?_⟩
      refine rowId_of_openEditor ?_ he
      exact hidx.takeEvents

@[simp]
theorem editor_typesListed (s : Sheet) (types : List ServiceType) :
    (s.typesListed types).editor = s.editor := by
  unfold typesListed
  split
  · rfl
  · split <;> rfl

@[simp]
theorem editor_serviceCreated (s : Sheet) (service : Service) :
    (s.serviceCreated service).editor = s.editor := by
  unfold serviceCreated
  split <;> rfl

@[simp]
theorem editor_descriptorRefreshed (s : Sheet) (rowId : Nat) (serviceId : String)
    (d : Descriptor) : (s.descriptorRefreshed rowId serviceId d).editor = s.editor := by
  unfold descriptorRefreshed
  dsimp only
  split
  · rfl
  · exact editor_updateRow _ _ _

/-- The row of a new service is written; the editor has to be on another one. -/
theorem EditorCurrent.descriptorRefreshed (h : s.EditorCurrent) (hidx : s.store.Indexed)
    {rowId : Nat} (hother : ∀ e, s.editor = some e → e.rowId ≠ rowId) (serviceId : String)
    (d : Descriptor) : (s.descriptorRefreshed rowId serviceId d).EditorCurrent := by
  intro e he
  rw [editor_descriptorRefreshed] at he
  have hcurrent := h e he
  unfold Sheet.descriptorRefreshed
  dsimp only
  split
  · exact hcurrent
  · rw [store_sync, updateRow]
    split
    next store hu =>
      have hu : s.store.update rowId { value := some (some serviceId) } = .ok store := hu
      have hwritten : e.IsCurrent store := hcurrent.update hidx hu (hother e he)
      exact hwritten
    · exact hcurrent

theorem EditorCurrent.settle (h : s.EditorCurrent) (hidx : s.store.Indexed) {p : Purpose}
    (hother : ∀ rowId id, p = .refreshDescriptor rowId id →
      ∀ e, s.editor = some e → e.rowId ≠ rowId) (r : Response) :
    (s.settle p r).EditorCurrent := by
  unfold Sheet.settle
  split
  next name _ d =>
    rcases editor_propertyResolved hidx name d with ⟨heditor, hstore⟩ | ⟨hcurrent, _⟩
    · rw [EditorCurrent, heditor, hstore]
      exact h
    · exact hcurrent
  · exact h
  · rw [EditorCurrent, editor_typesListed, store_typesListed]
    exact h
  · exact h
  · rw [EditorCurrent, editor_serviceCreated, store_serviceCreated]
    exact h
  · exact h
  next rowId id _ d => exact h.descriptorRefreshed hidx (hother rowId id rfl) id d
  · exact h
  next service =>
    cases service with
    | none => exact h
    | some service => exact h
  · exact h
  · exact h

/-- An operation leaves the open editor on a row as it was, as long as no response is to write that
row. -/
theorem EditorCurrent.apply (h : s.EditorCurrent) (hidx : s.store.Indexed)
    (hother : ∀ t rowId id, s.pending.get? t = some (.refreshDescriptor rowId id) →
      ∀ e, s.editor = some e → e.rowId ≠ rowId) (op : Operation) :
    (s.apply op).EditorCurrent := by
  cases op with
  | load values descriptors histories =>
    refine editorCurrent_of_closed ?_
    rw [Sheet.apply, load]
    dsimp only
    split
    · rfl
    · rfl
  | clear => exact editorCurrent_of_closed rfl
  | destroy => exact editorCurrent_of_closed rfl
  | saveRow => exact editorCurrent_of_closed s.editor_saveRow
  | cancelEdit => exact editorCurrent_of_closed rfl
  | resize area => exact h
  | setGroup groupId => exact h
  | select property =>
    rw [Sheet.apply, select]
    split
    · exact h
    · exact h
  | activate => exact h.activate hidx
  | deleteSelected => exact h.deleteSelected hidx
  | goToService => exact h.goToService
  | showTooltip => exact h.showTooltip
  | openNamePrompt => exact h.openNamePrompt
  | addProperty name => exact h.addProperty hidx name
  | takeRequests => exact h
  | takeEvents => exact h
  | handleKey k => exact h.handleKey hidx k
  | complete r =>
    rw [Sheet.apply, complete]
    split
    · exact h
    next p hp =>
      refine EditorCurrent.settle (s := { s with pending := s.pending.erase r.token }) h hidx ?_ r
      rintro rowId id rfl
      exact hother r.token rowId id hp

end Sheet

/-! ## Whose row a response will write -/

namespace Traffic

/-- A pending request that will write a row does so for the creation that is open. -/
def WritesOwnRow (x : Traffic) : Prop :=
  ∀ t rowId id, x.pending.get? t = some (.refreshDescriptor rowId id) →
    ∃ d, x.creation = some d ∧ d.rowId = rowId

variable {x y : Traffic}

theorem WritesOwnRow.showing (h : x.WritesOwnRow) {c : Option ServiceDialog}
    (hc : ∀ d, x.creation = some d → ∃ d', c = some d' ∧ d'.rowId = d.rowId) :
    (x.showing c).WritesOwnRow := by
  intro t rowId id hp
  obtain ⟨d, hd, hrow⟩ := h t rowId id hp
  obtain ⟨d', hd', hsame⟩ := hc d hd
  exact ⟨d', hd', hsame.trans hrow⟩

theorem WritesOwnRow.ask (h : x.WritesOwnRow) {p : Purpose}
    (hp : ∀ rowId id, p = .refreshDescriptor rowId id →
      ∃ d, x.creation = some d ∧ d.rowId = rowId) (q : Request) : (x.ask p q).WritesOwnRow := by
  intro t rowId id hpending
  rw [Traffic.ask, SortedMap.get?_insert] at hpending
  split at hpending
  · exact hp rowId id (Option.some.inj hpending)
  · exact h t rowId id hpending

theorem WritesOwnRow.answer (h : x.WritesOwnRow) (t : Token) : (x.answer t).WritesOwnRow := by
  intro t' rowId id hp
  exact h t' rowId id (get?_pending_answer.mp hp).2

/-- What writes a row serves the creation, so none of it is left after that is closed. -/
theorem writesOwnRow_close (x : Traffic) : x.close.WritesOwnRow := by
  intro t rowId id hp
  cases (get?_pending_close.mp hp).2

theorem WritesOwnRow.step (h : x.WritesOwnRow) (hy : Step x y) : y.WritesOwnRow := by
  cases hy with
  | idle => exact h
  | ask p q hp _ _ =>
    refine h.ask ?_ q
    rintro rowId id rfl
    cases hp
  | move d d' hd hcourse =>
    refine h.showing fun d₀ hd₀ => ?_
    obtain rfl := Option.some.inj (hd.symm.trans hd₀)
    exact ⟨d', rfl, hcourse.rowId⟩
  | create d scope typeName hd _ =>
    refine (h.showing fun d₀ hd₀ => ?_).ask ?_ _
    · obtain rfl := Option.some.inj (hd.symm.trans hd₀)
      exact ⟨_, rfl, rfl⟩
    · intro rowId id hp
      cases hp

theorem WritesOwnRow.settled (h : x.WritesOwnRow) {p : Purpose} {r : Response}
    (hy : Settled p r x y) : y.WritesOwnRow := by
  cases hy with
  | idle _ _ => exact h
  | offered d _ types _ _ hd _ _ =>
    refine h.showing fun d₀ hd₀ => ?_
    obtain rfl := Option.some.inj (hd.symm.trans hd₀)
    exact ⟨_, rfl, rfl⟩
  | created d _ service _ _ hd _ =>
    refine (h.showing fun d₀ hd₀ => ?_).ask ?_ _
    · obtain rfl := Option.some.inj (hd.symm.trans hd₀)
      exact ⟨_, rfl, rfl⟩
    · intro rowId id' hp
      cases hp
      exact ⟨_, rfl, rfl⟩
  | closed _ => exact x.writesOwnRow_close

/-- A response leaves the row of the creation as well. -/
theorem Settled.creation_row {p : Purpose} {r : Response} (h : Settled p r x y)
    {d' : ServiceDialog} (hd' : y.creation = some d') :
    ∃ d, x.creation = some d ∧ d'.rowId = d.rowId ∧ d'.property = d.property := by
  cases h with
  | idle _ _ => exact ⟨d', hd', rfl, rfl⟩
  | offered d _ types _ _ hd _ _ =>
    obtain rfl := Option.some.inj hd'
    exact ⟨d, hd, rfl, rfl⟩
  | created d _ service _ _ hd _ =>
    obtain rfl := Option.some.inj hd'
    exact ⟨d, hd, rfl, rfl⟩
  | closed _ => cases hd'

end Traffic

namespace Sheet

variable {s : Sheet}

theorem writesOwnRow_apply (h : s.traffic.WritesOwnRow) {op : Operation} (hop : s.ByKeys op) :
    (s.apply op).traffic.WritesOwnRow := by
  have hx := s.exchange_apply op
  generalize (s.apply op).traffic = y at hx
  cases hx with
  | emptied _ => exact fun _ _ _ hp => nomatch hp
  | taken => exact h
  | stale _ => exact h
  | answered _ hy => exact (h.answer _).settled hy
  | left _ => exact s.traffic.writesOwnRow_close
  | started hnone _ _ _ _ _ _ =>
    refine (h.showing fun d hd => ?_).ask ?_ _
    · exact nomatch hnone.symm.trans hd
    · intro rowId id hp
      cases hp
  | called _ _ _ hy => exact h.step hy
  | replaced hdialog _ =>
    rw [ByKeys, hdialog] at hop
    cases hop

/-! ## Editors during the creation of a service -/

/-- The creation of a service goes on with its row, and begins where an editor closes. -/
theorem creation?_apply {op : Operation} {d' : ServiceDialog}
    (h : (s.apply op).creation? = some d') :
    (∃ d, s.creation? = some d ∧ d'.rowId = d.rowId ∧ d'.property = d.property) ∨
    (∃ e, s.editor = some e ∧ d'.rowId = e.rowId ∧ d'.property = e.property) ∧
      (s.apply op).editor = none ∧ (s.apply op).store = s.store := by
  have hx := s.exchange_apply op
  replace h : (s.apply op).traffic.creation = some d' := h
  generalize (s.apply op).traffic = y at hx h
  cases hx with
  | emptied _ => cases h
  | taken => exact .inl ⟨d', h, rfl, rfl⟩
  | stale _ => exact .inl ⟨d', h, rfl, rfl⟩
  | answered _ hy => exact .inl (hy.creation_row h)
  | left _ => cases h
  | @started k e d _ he hrow hproperty hclosed hstore _ =>
    obtain rfl := Option.some.inj h
    have hsame := e.sameRow_handleKey k
    exact .inr ⟨⟨e, he, hrow.trans hsame.rowId, hproperty.trans hsame.property⟩, hclosed, hstore⟩
  | called _ _ _ hy => exact .inl (hy.creation_row h)
  | replaced _ hy =>
    obtain ⟨x, rfl | rfl, hstep⟩ := hy
    · exact .inl (hstep.creation_row h)
    · obtain ⟨d, hd, _⟩ := hstep.creation_row h
      cases hd

theorem editor_deleteSelected (s : Sheet) :
    s.deleteSelected.1.editor = s.editor ∨ s.deleteSelected.1.editor = none := by
  unfold deleteSelected
  split
  · exact .inl rfl
  · split
    · exact .inl rfl
    next id _ =>
      split
      · exact .inl rfl
      · dsimp only
        have hcancel : (if s.editor.map (·.rowId) = some id then s.cancelEdit else s).editor =
            s.editor ∨
            (if s.editor.map (·.rowId) = some id then s.cancelEdit else s).editor = none := by
          split
          · exact .inr rfl
          · exact .inl rfl
        split
        · exact hcancel
        · exact hcancel

theorem editor_goToService (s : Sheet) :
    s.goToService.1.editor = s.editor ∨ s.goToService.1.editor = none := by
  unfold goToService
  split
  · exact .inl rfl
  · split
    · split
      · exact .inl rfl
      · exact .inr s.editor_saveRow
    · exact .inl rfl

/-- While a service is created, keys do not reach the editor. -/
theorem editor_handleKey_of_creation {d : ServiceDialog} (hd : s.creation? = some d) (k : Key) :
    (s.handleKey k).1.editor = s.editor := by
  have hdialog := dialog_eq_of_creation? hd
  unfold handleKey
  split
  · rfl
  · split
    · rfl
    · simp only [hdialog]
      exact s.editor_handleCreationKey d k

theorem editor_settle (hidx : s.store.Indexed) (p : Purpose) (r : Response) :
    (s.settle p r).editor = s.editor ∨
      ∀ e, (s.settle p r).editor = some e → e.rowId = s.store.nextId := by
  unfold settle
  split
  next name _ d =>
    rcases editor_propertyResolved hidx name d with ⟨heditor, _⟩ | ⟨_, hnew⟩
    · exact .inl heditor
    · exact .inr hnew
  · exact .inl rfl
  · exact .inl (s.editor_typesListed _)
  · exact .inl rfl
  · exact .inl (s.editor_serviceCreated _)
  · exact .inl rfl
  · exact .inl (s.editor_descriptorRefreshed _ _ _)
  · exact .inl rfl
  next service => cases service <;> exact .inl rfl
  · exact .inl rfl
  · exact .inl rfl

/-- An editor that opens during the creation of a service is on a new row. -/
theorem editor_apply_of_creation (hidx : s.store.Indexed) {d : ServiceDialog}
    (hd : s.creation? = some d) {op : Operation} (hop : s.ByKeys op) {e : CellEditor}
    (he : (s.apply op).editor = some e) : s.editor = some e ∨ e.rowId = s.store.nextId := by
  cases op with
  | load values descriptors histories =>
    have hnone : (s.load values descriptors histories).1.editor = none := by
      unfold load
      dsimp only
      split
      · rfl
      · rfl
    rw [apply, hnone] at he
    cases he
  | clear => cases he
  | destroy => cases he
  | saveRow =>
    rw [apply, editor_saveRow] at he
    cases he
  | cancelEdit => cases he
  | resize area => exact .inl he
  | setGroup groupId => exact .inl he
  | select property =>
    left
    rw [apply, select] at he
    split at he
    · exact he
    · exact he
  | deleteSelected =>
    rcases s.editor_deleteSelected with hsame | hnone
    · exact .inl (hsame.symm.trans he)
    · rw [apply, hnone] at he
      cases he
  | goToService =>
    rcases s.editor_goToService with hsame | hnone
    · exact .inl (hsame.symm.trans he)
    · rw [apply, hnone] at he
      cases he
  | takeRequests => exact .inl he
  | takeEvents => exact .inl he
  | handleKey k => exact .inl ((editor_handleKey_of_creation hd k).symm.trans he)
  | complete r =>
    rw [apply, complete] at he
    split at he
    · exact .inl he
    next p _ =>
      rcases editor_settle (s := { s with pending := s.pending.erase r.token }) hidx p r with
        hsame | hnew
      · exact .inl (hsame.symm.trans he)
      · exact .inr (hnew e he)
  | _ => cases hop

/-! ## All interleavings -/

/-- What keeps the row of an open editor from being written: it is not the row that a service is
being created for, and no response will write another row than that. -/
structure EditLocked (s : Sheet) : Prop where
  indexed : s.store.Indexed
  current : s.EditorCurrent
  writesOwnRow : s.traffic.WritesOwnRow
  known : ∀ d, s.creation? = some d → d.rowId < s.store.nextId
  apart : ∀ d, s.creation? = some d → ∀ e, s.editor = some e → e.rowId ≠ d.rowId

theorem editLocked_ofConfig (config : SheetConfig) : (ofConfig config).EditLocked where
  indexed := indexed_empty
  current := editorCurrent_of_closed rfl
  writesOwnRow _ _ _ hp := nomatch hp
  known _ hd := nomatch hd
  apart _ hd := nomatch hd

theorem EditLocked.apply (h : s.EditLocked) {op : Operation} (hop : s.ByKeys op) :
    (s.apply op).EditLocked where
  indexed := indexed_apply h.indexed op
  current := by
    -- a response writes the row of the creation, which is not that of the editor
    refine h.current.apply h.indexed ?_ op
    intro t rowId id hp e he
    obtain ⟨d, hd, rfl⟩ := h.writesOwnRow t rowId id hp
    exact h.apart d hd e he
  writesOwnRow := writesOwnRow_apply h.writesOwnRow hop
  known := by
    intro d' hd'
    rcases creation?_apply hd' with ⟨d, hd, hrow, _⟩ | ⟨⟨e, he, hrow, _⟩, _, hstore⟩
    · exact hrow ▸ Nat.lt_of_lt_of_le (h.known d hd) (nextId_le_apply h.indexed op)
    -- a creation begins for the row of the editor, which exists
    · obtain ⟨r, hr, _⟩ := h.current e he
      obtain ⟨hmem, hid⟩ := h.indexed.findById?_eq_some_iff.mp hr
      rw [hrow, hstore, ← hid]
      exact h.indexed.fresh r hmem
  apart := by
    intro d' hd' e he
    rcases creation?_apply hd' with ⟨d, hd, hrow, _⟩ | ⟨_, hclosed, _⟩
    · rw [hrow]
      -- the editor is the one of before, or on a row newer than that of the creation
      rcases editor_apply_of_creation h.indexed hd hop he with hsame | hnew
      · exact h.apart d hd e hsame
      · exact hnew ▸ Nat.ne_of_gt (h.known d hd)
    · exact nomatch hclosed.symm.trans he

theorem editLocked_of_reachable {s : Sheet} (h : Reachable ByKeys s) : s.EditLocked := by
  induction h with
  | new config => exact editLocked_ofConfig config
  | step _ hop ih => exact ih.apply hop

/-- Whatever the order of calls, keys and responses: while an editor is open, its row is there,
visible, of its name, and has the value that the editor remembers; and a service that is being
created is for another row. -/
theorem editor_isCurrent_of_reachable {s : Sheet} (h : Reachable ByKeys s) {e : CellEditor}
    (he : s.editor = some e) :
    (∃ r, s.store.findById? e.rowId = some r ∧ r.hidden = false ∧ r.property = e.property ∧
      r.value = e.previousValue) ∧
    ∀ d, s.dialog = some (.createService d) → d.rowId ≠ e.rowId := by
  have hlocked := editLocked_of_reachable h
  refine ⟨hlocked.current e he, fun d hd => ?_⟩
  exact (hlocked.apart d (by rw [creation?, hd]) e he).symm

/-- A property is asked for, and added while a service is being created for another one. -/
def editingUnderCreationRun : List Operation := [
  .load [("Cache", none)]
    (.ofList [("Cache",
      { name := "Cache", allowableValues := some [], serviceType := some "org.CacheClient" })])
    .empty,
  .handleKey { code := .char 'a' },
  .handleKey { code := .char 'x' },
  .handleKey { code := .enter },
  .handleKey { code := .enter },
  .handleKey { code := .down },
  .handleKey { code := .enter },
  .complete (.descriptor 0 (.ok { name := "x" }))]

/-- An editor opens underneath the dialog that creates a service. -/
theorem editor_isCurrent_editingUnderCreationRun :
    let s := (ofConfig { dialogContainer := some "main" }).run editingUnderCreationRun
    Reachable ByKeys s ∧ s.creation?.map (·.property) = some "Cache" ∧
    ∃ e, s.editor = some e ∧ e.property = "x" ∧
      (∃ r, s.store.findById? e.rowId = some r ∧ r.hidden = false ∧ r.property = e.property ∧
        r.value = e.previousValue) ∧
      ∀ d, s.dialog = some (.createService d) → d.rowId ≠ e.rowId := by
  intro s
  have hallowed : AllowedAlong ByKeys (ofConfig { dialogContainer := some "main" })
      editingUnderCreationRun := by decide +kernel
  have hreachable : Reachable ByKeys s := Reachable.run (.new _) hallowed
  have hopen : s.editor.map (·.property) = some "x" := by decide +kernel
  obtain ⟨e, he, hname⟩ := Option.map_eq_some_iff.mp hopen
  exact ⟨hreachable, by decide +kernel, e, he, hname, editor_isCurrent_of_reachable hreachable he⟩

end Sheet

end PropertySheet
