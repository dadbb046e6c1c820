import PropertySheet.Proofs.Sheet.Navigation

/-!
# Keys that a sheet refuses

A sheet says of every key whether it was one for the sheet. Whoever hands it keys takes a refused
one for a key that nobody has acted on, so a refusal must leave the sheet as it was
(`cleanRefusal_handleKey`), also where the sheet looks at a row before it refuses.

While a notice, a dialog or an editor is open the sheet refuses nothing (`handleKey_captured`). A
destroyed sheet refuses every key, but no key and no response makes it one: only the call for it
destroys a sheet.
-/

namespace PropertySheet

namespace Sheet

variable {s : Sheet}

/-! ## Only destroying destroys -/

@[simp]
theorem destroyed_saveRow (s : Sheet) : s.saveRow.destroyed = s.destroyed := by
  rw [saveRow_frame]

@[simp]
theorem destroyed_openEditor (s : Sheet) (id : Nat) :
    (s.openEditor id).destroyed = s.destroyed := by
  unfold openEditor
  dsimp only
  split
  · exact s.destroyed_saveRow
  · split
    · exact s.destroyed_saveRow
    · exact s.destroyed_saveRow

@[simp]
theorem destroyed_updateRow (s : Sheet) (id : Nat) (p : RowPatch) :
    (s.updateRow id p).destroyed = s.destroyed := by
  unfold updateRow
  split
  · rfl
  · rfl

@[simp]
theorem destroyed_addProperty (s : Sheet) (name : String) :
    (s.addProperty name).destroyed = s.destroyed := by
  unfold addProperty
  dsimp only
  split
  · rfl
  · split
    · split
      · split
        · rfl
        · exact destroyed_openEditor _ _
      · rfl
    · rfl

theorem destroyed_activate (s : Sheet) : s.activate.destroyed = s.destroyed := by
  unfold activate
  split
  · rfl
  · split
    · split
      · rfl
      · rfl
    · exact s.destroyed_openEditor _

theorem destroyed_deleteSelected (s : Sheet) : s.deleteSelected.1.destroyed = s.destroyed := by
  unfold deleteSelected
  split
  · rfl
  · split
    · rfl
    · split
      · rfl
      · dsimp only
        split <;> split <;> rfl

theorem destroyed_openNamePrompt (s : Sheet) : s.openNamePrompt.1.destroyed = s.destroyed := by
  unfold openNamePrompt
  split
  · rfl
  · exact s.destroyed_saveRow

theorem destroyed_goToService (s : Sheet) : s.goToService.1.destroyed = s.destroyed := by
  rcases s.goToService_cases with hrefused | ⟨r, id, -, -, -, hasked⟩
  · rw [hrefused]
  · rw [hasked]
    exact s.destroyed_saveRow

theorem destroyed_showTooltip (s : Sheet) : s.showTooltip.1.destroyed = s.destroyed := by
  unfold showTooltip
  split
  · rfl
  · split
    · rfl
    · rfl

theorem destroyed_handleDialogKey (s : Sheet) (d : Dialog) (k : Key) :
    (s.handleDialogKey d k).destroyed = s.destroyed := by
  cases d with
  | namePrompt p =>
    show (s.handlePromptKey p k).destroyed = _
    unfold handlePromptKey
    dsimp only
    split
    · exact destroyed_addProperty _ _
    · rfl
    · rfl
    · rfl
  | createService d =>
    show (s.handleCreationKey d k).destroyed = _
    unfold handleCreationKey
    dsimp only
    split
    · rfl
    · rfl
    · rfl
    · rfl
  | detail d =>
    rw [handleDialogKey]
    split
    · rfl
    · rfl
  | tooltip t => rfl

theorem destroyed_handleEditorKey (s : Sheet) (e : CellEditor) (k : Key) :
    (s.handleEditorKey e k).destroyed = s.destroyed := by
  unfold handleEditorKey
  dsimp only
  split
  · exact destroyed_saveRow _
  · rfl
  · rfl
  · rfl
  · rfl

theorem destroyed_handleKey (s : Sheet) (k : Key) :
    (s.handleKey k).1.destroyed = s.destroyed := by
  unfold handleKey
  split
  · rfl
  · split
    · rfl
    · split
      · exact s.destroyed_handleDialogKey _ k
      · split
        · exact s.destroyed_handleEditorKey _ k
        · have hmove := s.gridMove_handleGridKey k
          generalize (s.handleGridKey k).1 = t at hmove ⊢
          cases hmove with
          | select view => rfl
          | activate => exact s.destroyed_activate
          | delete => exact s.destroyed_deleteSelected
          | prompt => exact s.destroyed_openNamePrompt
          | follow => exact s.destroyed_goToService
          | tell => exact s.destroyed_showTooltip

theorem destroyed_settle (s : Sheet) (p : Purpose) (r : Response) :
    (s.settle p r).destroyed = s.destroyed := by
  unfold settle
  split
  · unfold propertyResolved
    dsimp only
    split
    · rfl
    · split
      · rfl
      · exact destroyed_openEditor _ _
  · rfl
  · unfold typesListed
    split
    · rfl
    · split <;> rfl
  · rfl
  · unfold serviceCreated
    split <;> rfl
  · rfl
  · unfold descriptorRefreshed
    dsimp only
    split
    · rfl
    · exact destroyed_updateRow _ _ _
  · rfl
  · unfold serviceLocated
    split <;> rfl
  · rfl
  · rfl

theorem destroyed_complete (s : Sheet) (r : Response) :
    (s.complete r).destroyed = s.destroyed := by
  unfold complete
  split
  · rfl
  · exact destroyed_settle _ _ r

theorem destroyed_load (s : Sheet) (values : List (String × Option String))
    (descriptors : Descriptors) (histories : Histories) :
    (s.load values descriptors histories).1.destroyed = s.destroyed := by
  unfold load
  dsimp only
  split
  · rfl
  · rfl

/-! ## Refused keys -/

/-- The outcome of a call that says whether it was one for the sheet: if not, it has left the sheet
as it was. -/
def CleanRefusal (s : Sheet) (outcome : Sheet × Bool) : Prop := outcome.2 = false → outcome.1 = s

theorem cleanRefusal_self (s : Sheet) : s.CleanRefusal (s, false) := fun _ => rfl

theorem cleanRefusal_taken (s t : Sheet) : s.CleanRefusal (t, true) := fun h => nomatch h

theorem cleanRefusal_openNamePrompt (s : Sheet) : s.CleanRefusal s.openNamePrompt := by
  unfold openNamePrompt
  split
  · exact s.cleanRefusal_self
  · exact s.cleanRefusal_taken _

/-- A row that is found can be hidden, so the sheet does not refuse once it has closed an editor. -/
theorem cleanRefusal_deleteSelected (s : Sheet) : s.CleanRefusal s.deleteSelected := by
  unfold deleteSelected
  split
  · exact s.cleanRefusal_self
  · split
    · exact s.cleanRefusal_self
    next id _ =>
      split
      · exact s.cleanRefusal_self
      next huser =>
        obtain ⟨r, hr, -⟩ := Option.map_eq_some_iff.mp (Decidable.not_not.mp huser)
        obtain ⟨store, hstore⟩ := RowStore.exists_update hr { hidden := some true }
        have hsame : (if s.editor.map (·.rowId) = some id then s.cancelEdit else s).store =
            s.store := by
          split <;> rfl
        simp only [hsame, hstore]
        exact s.cleanRefusal_taken _

theorem cleanRefusal_goToService (s : Sheet) : s.CleanRefusal s.goToService := by
  rcases s.goToService_cases with hrefused | ⟨r, id, -, -, -, hasked⟩
  · rw [hrefused]
    exact s.cleanRefusal_self
  · rw [hasked]
    exact s.cleanRefusal_taken _

theorem cleanRefusal_showTooltip (s : Sheet) : s.CleanRefusal s.showTooltip := by
  unfold showTooltip
  split
  · exact s.cleanRefusal_self
  · split
    · exact s.cleanRefusal_self
    · exact s.cleanRefusal_taken _

theorem cleanRefusal_handleGridKey (s : Sheet) (k : Key) : s.CleanRefusal (s.handleGridKey k) := by
  unfold handleGridKey
  split
  · exact s.cleanRefusal_taken _
  · exact s.cleanRefusal_taken _
  · exact s.cleanRefusal_taken _
  · exact s.cleanRefusal_taken _
  · exact s.cleanRefusal_taken _
  · exact s.cleanRefusal_taken _
  · exact s.cleanRefusal_taken _
  · exact s.cleanRefusal_deleteSelected
  · exact s.cleanRefusal_openNamePrompt
  · exact s.cleanRefusal_openNamePrompt
  · exact s.cleanRefusal_deleteSelected
  · exact s.cleanRefusal_goToService
  · exact s.cleanRefusal_showTooltip
  · exact s.cleanRefusal_showTooltip
  · exact s.cleanRefusal_self

/-- A sheet that refuses a key stays as it is, whatever is open and whatever is selected. -/
theorem cleanRefusal_handleKey (s : Sheet) (k : Key) : s.CleanRefusal (s.handleKey k) := by
  unfold handleKey
  split
  · exact s.cleanRefusal_self
  · split
    · exact s.cleanRefusal_taken _
    · split
      · exact s.cleanRefusal_taken _
      · split
        · exact s.cleanRefusal_taken _
        · exact s.cleanRefusal_handleGridKey k

/-- Whatever is open over the grid takes every key. -/
theorem handleKey_captured (halive : s.destroyed = false) (hopen : s.isCapturingInput = true)
    (k : Key) : (s.handleKey k).2 = true := by
  unfold handleKey
  rw [halive, if_neg Bool.false_ne_true]
  cases hnotice : s.notice with
  | some n => rfl
  | none =>
    cases hdialog : s.dialog with
    | some d => rfl
    | none =>
      cases heditor : s.editor with
      | some e => rfl
      | none => simp [isCapturingInput, hnotice, hdialog, heditor] at hopen

end Sheet

end PropertySheet
