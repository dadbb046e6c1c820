import PropertySheet.Proofs.Editor.Untouched
import PropertySheet.Proofs.Sheet.Transactions

/-!
# Editors that are opened and opened again

Whatever comes over an open editor commits it first, whether or not the user typed anything in it:
another editor, or the prompt for a new property. `commit_untouched` says what becomes of a row that
the user only looked at, and `commit_reopens` that this is settled once the row has taken the value
of a commit: from then on, to look at it again is no change.
-/

namespace PropertySheet

open CellEditor (onRow)

namespace Sheet

variable {s : Sheet} {r : Row} {d : Option Descriptor} {anchor : Rect} {keys : List Key}

/-- A sheet stores what its editor commits in the row that the editor was opened on. -/
theorem rows_saveRow_edited (hidx : s.store.Indexed) (hr : r ∈ s.rows)
    (he : s.editor = some ((onRow r d anchor).typing keys)) :
    s.saveRow.rows = s.rows.map fun x => if x = r then r.edited d anchor keys else x := by
  obtain ⟨surface, body, htyped⟩ := (onRow r d anchor).typing_frame keys
  have hid : ((onRow r d anchor).typing keys).rowId = r.id := by rw [htyped]; rfl
  rw [rows_saveRow hidx]
  refine List.map_congr_left fun x hx => ?_
  rw [committed_of_editor he, hid]
  by_cases hxr : x = r
  · subst hxr
    simp [Row.edited]
  · have hother : x.id ≠ r.id := fun h => hxr (hidx.eq_of_id_eq hx hr h)
    simp [hxr, hother]

/-- The sheet has committed its open editor. Others come over it only then. -/
def Commits (s t : Sheet) : Prop :=
  t = s.saveRow ∨ (∃ id, t = s.openEditor id) ∨ s.openNamePrompt = (t, true)

theorem Commits.rows_eq_saveRow {t : Sheet} (h : s.Commits t) : t.rows = s.saveRow.rows := by
  rcases h with rfl | ⟨id, rfl⟩ | hprompt
  · rfl
  · exact congrArg RowStore.rows (s.store_openEditor id)
  · unfold openNamePrompt at hprompt
    split at hprompt
    · cases hprompt
    · cases hprompt
      rfl

/-- However a sheet comes to commit its editor, the row of the editor is the only one to change. -/
theorem Commits.rows_eq {t : Sheet} (h : s.Commits t) (hidx : s.store.Indexed) (hr : r ∈ s.rows)
    (he : s.editor = some ((onRow r d anchor).typing keys)) :
    t.rows = s.rows.map fun x => if x = r then r.edited d anchor keys else x := by
  rw [h.rows_eq_saveRow, rows_saveRow_edited hidx hr he]

/-- For every row, every descriptor and every anchor: an editor that is committed as it opened
changes the row exactly in the two ways of `Displaced`, and then to the value named there. A field
never displaces a value that is set. In a sheet, when the open editor is committed or another one or
the prompt for a new property opens over it, the row takes that value and no other row changes, or no
row changes at all. -/
theorem commit_untouched (r : Row) (d : Option Descriptor) (anchor : Rect) :
    let c := (onRow r d anchor).commit
    (c.dirty = true ↔ ∃ v, r.Displaced d v) ∧
    (∀ v, r.Displaced d v → c.value = v) ∧
    (EditorKind.ofDescriptor d ≠ .choice → r.value.isSome → c = ⟨r.value, false⟩) ∧
    ∀ s t : Sheet, s.store.Indexed → r ∈ s.rows → s.editor = some (onRow r d anchor) →
      s.Commits t →
      (∀ v, r.Displaced d v →
        t.rows = s.rows.map fun x => if x = r then { r with value := v } else x) ∧
      ((∀ v, ¬ r.Displaced d v) → t.rows = s.rows) := by
  intro c
  have hiff : ∀ v, c = ⟨v, true⟩ ↔ r.Displaced d v := CellEditor.commit_onRow_iff r d anchor
  have hdirty : c.dirty = true ↔ ∃ v, r.Displaced d v := by
    constructor
    · intro h
      exact ⟨c.value, (hiff c.value).mp (by rw [← h])⟩
    · rintro ⟨v, hv⟩
      rw [(hiff v).mpr hv]
  refine ⟨hdirty, fun v hv => by rw [(hiff v).mpr hv],
    fun hfield hset => CellEditor.commit_onRow_of_isSome hfield hset anchor, ?_⟩
  intro s t hidx hr he hcommits
  -- an editor that took no key has taken an empty sequence of them
  have hrows : t.rows = s.rows.map fun x => if x = r then r.edited d anchor [] else x :=
    hcommits.rows_eq hidx hr he
  constructor
  · intro v hv
    rw [hrows, Row.edited_nil_of_displaced hv]
  · intro hkept
    rw [hrows, Row.edited_nil_of_not_displaced hkept]
    calc s.rows.map (fun x => if x = r then r else x)
        = s.rows.map id := List.map_congr_left fun x _ => by
          split
          next hxr => exact hxr.symm
          · rfl
      _ = s.rows := List.map_id _

/-- A required property is added, and the editor opens on its row. -/
def addedSizeRun : List Operation := [
  .addProperty "Size",
  .complete (.descriptor 0
    (.ok { name := "Size", required := true, defaultValue := some "10" }))]

/-- The row of the property that was added. It has no value yet. -/
def sizeRow : Row := (NewRow.loaded "Size" "Size" none .userDefined).withId 0

/-- The user goes on to add another property, and the one that was added takes its default. -/
theorem commit_untouched_addedSizeRun :
    let d : Descriptor := { name := "Size", required := true, defaultValue := some "10" }
    let s := (ofConfig { dialogContainer := some "main" }).run addedSizeRun
    let t := s.openNamePrompt.1
    s.store.Indexed ∧ sizeRow ∈ s.rows ∧ s.editor = some (onRow sizeRow (some d) {}) ∧
    s.Commits t ∧ sizeRow.Displaced (some d) (some "10") ∧
    t.rows = s.rows.map fun x => if x = sizeRow then { sizeRow with value := some "10" } else x := by
  intro d s t
  have hidx : s.store.Indexed := indexed_run RowStore.indexed_empty addedSizeRun
  have hr : sizeRow ∈ s.rows := by decide +kernel
  have he : s.editor = some (onRow sizeRow (some d) {}) := by decide +kernel
  have hcommits : s.Commits t := .inr (.inr (Prod.ext rfl (by decide +kernel)))
  have hdisplaced : sizeRow.Displaced (some d) (some "10") :=
    .byDefault (by decide) rfl rfl rfl (by decide)
  exact ⟨hidx, hr, he, hcommits, hdisplaced,
    ((commit_untouched sizeRow (some d) {}).2.2.2 s t hidx hr he hcommits).1 _ hdisplaced⟩

/-- For every row, every descriptor and every sequence of keys: once a commit that is a change has
given the row its value, an editor that opens on the row again shows that value and commits it as no
change. A field whose value is no secret has exactly the text of it, and its box is checked for the
empty text only, so that this is not taken for no value, nor the other way around. All of this stays
so through any number of further edits. In a sheet the row takes the value, and no other row
changes. -/
theorem commit_reopens (r : Row) (d : Option Descriptor) (anchor : Rect) (keys : List Key)
    (hdirty : ((onRow r d anchor).typing keys).commit.dirty = true) :
    let c := ((onRow r d anchor).typing keys).commit
    let r' : Row := { r with value := c.value }
    r'.Reopens d c.value ∧
    (∀ edits, (r'.editedBy d edits).Reopens d (r'.editedBy d edits).value) ∧
    ∀ s t : Sheet, s.store.Indexed → r ∈ s.rows →
      s.editor = some ((onRow r d anchor).typing keys) → s.Commits t →
      t.rows = s.rows.map fun x => if x = r then r' else x := by
  intro c r'
  have hr' : r.edited d anchor keys = r' := Row.edited_of_dirty hdirty
  have hreopens : r'.Reopens d c.value := hr' ▸ Row.reopens_edited hdirty
  refine ⟨hreopens, Row.Reopens.editedBy hreopens, fun s t hidx hr he hcommits => ?_⟩
  rw [hcommits.rows_eq hidx hr he, hr']

/-- The row of `editingNameRun` that the editor is on. -/
def nameRow : Row := (NewRow.loaded "Name" "Name" (some "old") .optional).withId 0

/-- The value is deleted, and the empty text is asked for in its place. -/
def blankKeys : List Key :=
  [{ code := .char 'u', control := true }, { code := .char 'e', control := true }]

/-- The empty text comes into the row, and an editor that opens on it again has its box checked. -/
theorem commit_reopens_blankedName :
    let d : Descriptor := { name := "Name" }
    let e := (onRow nameRow (some d) {}).typing blankKeys
    let s := (ofConfig {}).run (editingNameRun ++ blankKeys.map .handleKey)
    let r' : Row := { nameRow with value := some "" }
    e.commit = ⟨some "", true⟩ ∧ r'.Reopens (some d) (some "") ∧
    s.store.Indexed ∧ nameRow ∈ s.rows ∧ s.editor = some e ∧
    s.saveRow.rows = s.rows.map fun x => if x = nameRow then r' else x := by
  intro d e s r'
  have hcommit : ((onRow nameRow (some d) {}).typing blankKeys).commit = ⟨some "", true⟩ := by
    decide +kernel
  have hidx : s.store.Indexed := indexed_run RowStore.indexed_empty _
  have hr : nameRow ∈ s.rows := by decide +kernel
  have he : s.editor = some e := by decide +kernel
  obtain ⟨hreopens, -, hrows⟩ := commit_reopens nameRow (some d) {} blankKeys (by rw [hcommit])
  rw [hcommit] at hreopens hrows
  exact ⟨hcommit, hreopens, hidx, hr, he, hrows s s.saveRow hidx hr he (.inl rfl)⟩

end Sheet

end PropertySheet
