import PropertySheet.Proofs.Sheet.Concealed

/-!
# Secrets do not reach the screen

Two sheets that differ in the values of secrets only are given the same calls. A commit compares
what was typed with the value of the row, so one sheet may store a value where the other sees no
change. `alike_storing_secret` says that this comes to the same on the screen: the row is formatted
as before, and after it both have a value there.

`Alike` relates sheets that are the same when secrets are masked. A call that does not empty the
sheet keeps it as long as the secrets are concealed, since it comes to the same on the masked sheet
(`mask_apply`), and of a key also the answer is the same (`mask_handleKey`).
-/

namespace PropertySheet

open RowStore GridView

variable {names : List String}

/-! ## Commits -/

/-- The value of a field is the one from before the edit, or it does not depend on that. -/
theorem TextField.resolve_cases (f : TextField) (d : Option Descriptor) :
    (∀ previous, f.resolve d previous = previous) ∨
    ∃ value, ∀ previous, f.resolve d previous = value := by
  unfold resolve
  split
  · split
    · exact .inr ⟨_, fun _ => rfl⟩
    · cases d with
      | none => exact .inr ⟨_, fun _ => rfl⟩
      | some d =>
        dsimp only
        split
        · cases d.visibleDefault? with
          | none => exact .inl fun _ => rfl
          | some value => exact .inr ⟨_, fun _ => rfl⟩
        · exact .inr ⟨_, fun _ => rfl⟩
  · split
    · exact .inl fun _ => rfl
    · exact .inr ⟨_, fun _ => rfl⟩

/-- A commit from a field is no change, or it is of a value that does not depend on the one that the
editor remembers. -/
theorem CellEditor.commit_cases {e : CellEditor} (hkind : e.body.kind ≠ .choice) :
    (∀ previous, (e.remembering previous).commit = ⟨previous, false⟩) ∨
    ∃ value, ∀ previous, (e.remembering previous).commit = ⟨value, value ≠ previous⟩ := by
  have hfield : ∃ f : TextField, ∀ previous, (e.remembering previous).commit =
      ⟨f.resolve e.descriptor previous, f.resolve e.descriptor previous ≠ previous⟩ := by
    cases hbody : e.body with
    | plain f => exact ⟨f, fun _ => by simp [commit, value, isDirty, remembering, hbody]⟩
    | expression f => exact ⟨f, fun _ => by simp [commit, value, isDirty, remembering, hbody]⟩
    | choice l =>
      rw [hbody] at hkind
      exact absurd rfl hkind
  obtain ⟨f, hf⟩ := hfield
  rcases f.resolve_cases e.descriptor with hsame | ⟨value, hvalue⟩
  · left
    intro previous
    simp [hf, hsame]
  · right
    refine ⟨value, fun previous => ?_⟩
    simp [hf, hvalue]

/-- Results that are the same after a function are both errors, or both values that the function
maps to the same. -/
theorem cases_of_map_eq {ε α β : Type} {f : α → β} {x y : Except ε α} (h : x.map f = y.map f) :
    (∃ e e', x = .error e ∧ y = .error e') ∨ ∃ a b, x = .ok a ∧ y = .ok b ∧ f a = f b := by
  cases x with
  | error e =>
    cases y with
    | error e' => exact .inl ⟨e, e', rfl, rfl⟩
    | ok b => cases h
  | ok a =>
    cases y with
    | error e' => cases h
    | ok b => exact .inr ⟨a, b, rfl, rfl, Except.ok.inj h⟩

/-! ## Notes that make no difference -/

theorem SortedMap.insert_eq_self {α : Type} {m : SortedMap Nat α} {k : Nat} {a : α}
    (h : m.get? k = some a) : m.insert k a = m := by
  refine SortedMap.ext_get? fun j => ?_
  rw [SortedMap.get?_insert]
  split
  next hkj => rw [← hkj, h]
  · rfl

namespace GridView

/-- Without a note there is nothing to follow. -/
theorem sync_quiet (g : GridView) {store : RowStore} (hevents : store.events = [])
    (descriptors : Descriptors) (options : MarkupOptions) :
    g.sync store descriptors options =
      (({ g with lastFormatted := 0 } : GridView).scrollToSelection, store.takeEvents.1) := by
  rw [sync_eq, followNotes, hevents]
  rfl

/-- Following a note of a row that has its place and is formatted as before. -/
theorem sync_known (g : GridView) {store : RowStore} {descriptors : Descriptors}
    {options : MarkupOptions} {id : Nat} {r : Row} (hevents : store.events = [.rowsChanged [id]])
    (hr : store.findById? id = some r)
    (hcached : g.cache.get? id = some (.ofRow r descriptors g.widths options))
    (hplaced : g.positions.contains id = true) :
    g.sync store descriptors options =
      (({ g with lastFormatted := 1 } : GridView).scrollToSelection, store.takeEvents.1) := by
  have hfound : store.takeEvents.1.findById? id = some r := hr
  have hnotes : g.followNotes store descriptors options =
      { view := { g with lastFormatted := 1 }, rebuild := false } := by
    rw [followNotes, hevents]
    show syncRow store.takeEvents.1 descriptors options _ id = _
    rw [syncRow, hfound]
    simp only [SortedMap.insert_eq_self hcached, hplaced, Bool.not_true, Bool.and_false,
      Bool.or_false]
  rw [sync_eq, hnotes]
  rfl

end GridView

namespace Sheet

variable {s t u : Sheet}

/-! ## Alike sheets -/

/-- The sheets are the same when certain properties are masked. -/
def Alike (names : List String) (s t : Sheet) : Prop := s.mask names = t.mask names

theorem alike_mask (s : Sheet) : Alike names (s.mask names) s := s.mask_mask

theorem Alike.symm (h : Alike names s t) : Alike names t s := Eq.symm h

theorem Alike.trans (h : Alike names s t) (h' : Alike names t u) : Alike names s u :=
  Eq.trans h h'

/-- What a function makes of masked sheets decides what it makes of alike ones. -/
theorem Alike.through {f : Sheet → Sheet} (h : Alike names s t)
    (hs : Alike names (f (s.mask names)) (f s)) (ht : Alike names (f (t.mask names)) (f t)) :
    Alike names (f s) (f t) := by
  have hsame : f (s.mask names) = f (t.mask names) := congrArg f h
  rw [← hsame] at ht
  exact hs.symm.trans ht

/-! ### Parts of alike sheets -/

theorem Alike.mask_eq (h : Alike names s t) : s.mask names = t.mask names := h

theorem Alike.descriptors (h : Alike names s t) : s.descriptors = t.descriptors := by
  have hsame : (s.mask names).descriptors = (t.mask names).descriptors := by rw [h.mask_eq]
  exact hsame

theorem Alike.cancelEdit (h : Alike names s t) : Alike names s.cancelEdit t.cancelEdit :=
  congrArg Sheet.cancelEdit h.mask_eq

theorem Alike.showing (h : Alike names s t) (dialog : Option Dialog) :
    Alike names { s with dialog } { t with dialog } := by
  show ({ s.mask names with dialog } : Sheet) = { t.mask names with dialog }
  rw [h.mask_eq]

theorem Alike.showNotice (h : Alike names s t) (n : Notice) :
    Alike names (s.showNotice n) (t.showNotice n) := by
  show (s.mask names).showNotice n = (t.mask names).showNotice n
  rw [h.mask_eq]

/-- Requests are not on the screen, so they may differ. -/
theorem Alike.ask (h : Alike names s t) (p : Purpose) (request request' : Token → Request) :
    Alike names (s.ask p request) (t.ask p request') := by
  have hasked : ∀ (u : Sheet) (request : Token → Request), (u.ask p request).mask names =
      { u.mask names with
        nextToken := (u.mask names).nextToken + 1
        pending := (u.mask names).pending.insert (u.mask names).nextToken p } :=
    fun _ _ => rfl
  rw [Alike, hasked, hasked, h.mask_eq]

theorem Alike.storing (h : Alike names s t) {store store' : RowStore}
    (hstore : store.mask names = store'.mask names) :
    Alike names { s with store } { t with store := store' } := by
  show ({ s.mask names with store := store.mask names } : Sheet) =
    { t.mask names with store := store'.mask names }
  rw [h.mask_eq, hstore]

theorem uncounted_trySelect (g : GridView) (id : Nat) :
    (g.trySelect id).uncounted = g.uncounted.trySelect id := by
  rw [trySelect, GridView.select, trySelect, GridView.select]
  show _ = ((g.positions.get? id).map _).getD _
  cases g.positions.get? id <;> rfl

theorem uncounted_moveSelection (g : GridView) (delta : Int) :
    (g.moveSelection delta).uncounted = g.uncounted.moveSelection delta := by
  have horder : g.uncounted.order = g.order := rfl
  rw [GridView.moveSelection, GridView.moveSelection, horder]
  split <;> rfl

theorem Alike.viewing (h : Alike names s t) {f : GridView → GridView}
    (hf : ∀ g : GridView, (f g).uncounted = f g.uncounted) :
    Alike names { s with view := f s.view } { t with view := f t.view } := by
  have hviewed : ∀ u : Sheet, ({ u with view := f u.view } : Sheet).mask names =
      { u.mask names with view := f (u.mask names).view } := by
    intro u
    show ({ u.mask names with view := (f u.view).uncounted } : Sheet) = _
    rw [hf]
    rfl
  rw [Alike, hviewed, hviewed, h.mask_eq]

theorem Alike.selectId (h : Alike names s t) (id : Nat) :
    Alike names (s.selectId id) (t.selectId id) :=
  h.viewing fun g => uncounted_trySelect g id

/-- The grid follows masked rows as it follows the rows. -/
theorem mask_sync (h : Secrets names s.descriptors) : Alike names (s.mask names).sync s.sync := by
  have hsync : (s.mask names).sync = { s.mask names with
      view := (s.view.sync s.store s.descriptors s.markupOptions).1
      store := (s.view.sync s.store s.descriptors s.markupOptions).2.mask names } := by
    show ({ s.mask names with
      view := (s.view.sync (s.store.mask names) s.descriptors s.markupOptions).1
      store := (s.view.sync (s.store.mask names) s.descriptors s.markupOptions).2 } : Sheet) = _
    rw [sync_mask h]
  rw [hsync]
  exact alike_mask s.sync

theorem Alike.sync (h : Alike names s t) (hs : Secrets names s.descriptors) :
    Alike names s.sync t.sync :=
  h.through (mask_sync hs) (mask_sync (h.descriptors ▸ hs))

theorem mask_resize (h : Secrets names s.descriptors) (area : Rect) :
    Alike names ((s.mask names).resize area) (s.resize area) := by
  have hresize : (s.mask names).resize area = { s.mask names with
      view := s.view.resize area s.store s.descriptors s.markupOptions } := by
    show ({ s.mask names with
      view := s.view.resize area (s.store.mask names) s.descriptors s.markupOptions } : Sheet) = _
    rw [resize_mask h]
  rw [hresize]
  exact alike_mask (s.resize area)

theorem mask_updateRow (s : Sheet) (id : Nat) (p : RowPatch) :
    Alike names ((s.mask names).updateRow id p) (s.updateRow id p) := by
  have hstore : (s.mask names).store = s.store.mask names := rfl
  rw [updateRow, updateRow, hstore]
  rcases cases_of_map_eq (s.store.mask_update names id p) with
    ⟨e, e', hmask, hplain⟩ | ⟨after, after', hmask, hplain, hsame⟩
  · rw [hmask, hplain]
    exact alike_mask s
  · rw [hmask, hplain]
    exact (alike_mask s).storing hsame

/-! ## Committing an editor -/

/-- A new value of the row of a secret that has one makes no difference to masked rows. -/
theorem mask_patchAt {r : Row} (hname : r.property ∈ names) (hset : r.value.isSome)
    (value : String) :
    (patchAt r.id { value := some (some value) } r).mask names = r.mask names := by
  obtain ⟨old, hold⟩ := Option.isSome_iff_exists.mp hset
  simp [patchAt, Row.patch, Row.mask, hname, hold, masked]

/-- The other rows stay as they are, so all rows are the same when masked. -/
theorem map_mask_patchAt {store : RowStore} (h : store.Indexed) {r : Row} (hr : r ∈ store.rows)
    (hname : r.property ∈ names) (hset : r.value.isSome) (value : String) :
    (store.rows.map (patchAt r.id { value := some (some value) })).map (Row.mask names) =
      store.rows.map (Row.mask names) := by
  rw [List.map_map]
  refine List.map_congr_left fun r' hr' => ?_
  show (patchAt r.id _ r').mask names = r'.mask names
  by_cases hid : r'.id = r.id
  · obtain rfl := h.eq_of_id_eq hr' hr hid
    exact mask_patchAt hname hset value
  · rw [patchAt, if_neg hid]

/-- A visible row has its place in the view. -/
theorem contains_positions (h : s.Conceals names) {r : Row} (hr : r ∈ s.store.rows)
    (hvisible : r.hidden = false) : s.view.positions.contains r.id = true := by
  have hmem : r.id ∈ s.view.order := by
    rw [order_eq_of_current h.current]
    exact List.mem_map_of_mem (mem_visible.mpr ⟨hr, hvisible⟩)
  obtain ⟨i, hi⟩ := List.mem_iff_getElem?.mp hmem
  have hplace : s.view.positions.get? r.id = some i := (h.current.follows.placed r.id i).mpr hi
  rw [SortedMap.contains, hplace]
  rfl

/-- Storing a value in the row of a secret that has one does not show. -/
theorem alike_storing_secret (h : s.Conceals names) {r : Row} (hr : r ∈ s.store.rows)
    (hname : r.property ∈ names) (hvisible : r.hidden = false) (hset : r.value.isSome)
    (value : String) :
    Alike names (s.updateRow r.id { value := some (some value) }).sync s.sync := by
  have hevents : s.store.events = [] := h.current.followed
  have hu := h.indexed.update_value hr (some value)
  generalize hstore : RowStore.emit { s.store with
    rows := s.store.rows.map (patchAt r.id { value := some (some value) }) }
    (.rowsChanged [r.id]) = store at hu
  have hnoted : store.events = [.rowsChanged [r.id]] := by
    rw [← hstore, RowStore.emit, hevents]
    rfl
  have hrows : store.rows = s.store.rows.map (patchAt r.id { value := some (some value) }) := by
    rw [← hstore]
    rfl
  have hmask : store.takeEvents.1.mask names = s.store.takeEvents.1.mask names := by
    have htaken : store.takeEvents.1.mask names =
        { s.store.takeEvents.1 with rows := store.rows.map (Row.mask names) } := by
      rw [← hstore]
      rfl
    rw [htaken, hrows, map_mask_patchAt h.indexed hr hname hset value]
    rfl
  -- the row is formatted as it was, and it has its place
  have hfound : store.findById? r.id = some (patchAt r.id { value := some (some value) } r) := by
    refine (h.indexed.update hu).2.2.findById?_eq_some_iff.mpr ⟨?_, id_patchAt _ _ _⟩
    rw [hrows]
    exact List.mem_map_of_mem hr
  have hcached : s.view.cache.get? r.id = some (.ofRow
      (patchAt r.id { value := some (some value) } r) s.descriptors s.view.widths
      s.markupOptions) := by
    rw [← RowMarkup.ofRow_mask h.secrets, mask_patchAt hname hset value,
      RowMarkup.ofRow_mask h.secrets]
    exact cached_of_current h.current hr hname
  have hafter := s.view.sync_known hnoted hfound hcached (contains_positions h hr hvisible)
  have hbefore := s.view.sync_quiet hevents s.descriptors s.markupOptions
  rw [updateRow, hu]
  show ({ s.mask names with
      store := (s.view.sync store s.descriptors s.markupOptions).2.mask names
      view := (s.view.sync store s.descriptors s.markupOptions).1.uncounted } : Sheet) =
    { s.mask names with
      store := (s.view.sync s.store s.descriptors s.markupOptions).2.mask names
      view := (s.view.sync s.store s.descriptors s.markupOptions).1.uncounted }
  rw [hafter, hbefore, hmask]
  rfl

/-- Store what an editor committed, if it is a change. -/
def storing (s : Sheet) (id : Nat) (c : EditorCommit) : Sheet :=
  if c.dirty then s.updateRow id { value := some c.value } else s

theorem saveRow_eq {e : CellEditor} (he : s.editor = some e) :
    s.saveRow = (s.cancelEdit.storing e.rowId e.commit).sync := by
  rw [saveRow, he]
  rfl

theorem mask_storing (s : Sheet) (id : Nat) (c : EditorCommit) :
    Alike names ((s.mask names).storing id c) (s.storing id c) := by
  rw [storing, storing]
  split
  · exact mask_updateRow s id _
  · exact alike_mask s

theorem descriptors_updateRow (s : Sheet) (id : Nat) (p : RowPatch) :
    (s.updateRow id p).descriptors = s.descriptors := by
  rw [updateRow]
  split <;> rfl

theorem descriptors_storing (s : Sheet) (id : Nat) (c : EditorCommit) :
    (s.storing id c).descriptors = s.descriptors := by
  rw [storing]
  split
  · exact s.descriptors_updateRow id _
  · rfl

/-- A commit of some value to the row of a secret that has one does not show, whether or not it is a
change. -/
theorem alike_storing (h : s.Conceals names) {r : Row} (hr : r ∈ s.store.rows)
    (hname : r.property ∈ names) (hvisible : r.hidden = false) (hset : r.value.isSome)
    (value : String) (dirty : Bool) :
    Alike names (s.storing r.id ⟨some value, dirty⟩).sync s.sync := by
  cases dirty with
  | true => exact alike_storing_secret h hr hname hvisible hset value
  | false => rfl

/-- Committing the same comes to the same. -/
theorem mask_storing_sync (h : Secrets names s.descriptors) (id : Nat) (c : EditorCommit) :
    Alike names ((s.mask names).storing id c).sync (s.storing id c).sync := by
  refine (mask_storing s id c).sync ?_
  rw [descriptors_storing]
  exact h

/-- A commit for a secret is of the same value whatever the secret was, but it need not be a change
for both. -/
theorem mask_storing_secret (h : s.Conceals names) {e : CellEditor} (he : s.editor = some e)
    (hname : e.property ∈ names) :
    Alike names ((s.cancelEdit.mask names).storing e.rowId (e.mask names).commit).sync
      (s.cancelEdit.storing e.rowId e.commit).sync := by
  have hclosed := h.cancelEdit
  obtain ⟨r, hr, hid, hsame, hsecret⟩ := h.edited e he
  have hmem : r.property ∈ names := hsame ▸ hname
  obtain ⟨hvisible, hvalue, hkind⟩ := hsecret hmem
  have hmasked : (e.mask names).commit = (e.remembering (masked e.previousValue)).commit := by
    rw [CellEditor.mask, if_pos hname]
  have hplain : e.commit = (e.remembering e.previousValue).commit := rfl
  rw [hmasked, hplain]
  rcases CellEditor.commit_cases hkind with hkept | ⟨value, hcommit⟩
  · rw [hkept, hkept]
    exact mask_sync h.secrets
  · rw [hcommit, hcommit]
    cases hold : e.previousValue with
    | none => exact mask_storing_sync hclosed.secrets _ _
    | some old =>
      cases value with
      | none => exact mask_storing_sync hclosed.secrets _ _
      | some value =>
        -- one of the two may see no change
        have hset : r.value.isSome := by rw [hvalue, hold]; rfl
        have hset' : (r.mask names).value.isSome := by
          show (if r.property ∈ names then masked r.value else r.value).isSome = true
          rw [if_pos hmem, masked, Option.isSome_map]
          exact hset
        have hr' : r.mask names ∈ (s.cancelEdit.mask names).store.rows := List.mem_map_of_mem hr
        have hleft := alike_storing hclosed.mask hr' hmem hvisible hset' value
          (some value ≠ masked (some old))
        have hright := alike_storing hclosed hr hmem hvisible hset value (some value ≠ some old)
        rw [← hid]
        exact hleft.trans ((mask_sync hclosed.secrets).trans hright.symm)

/-- A commit does not show what the value of a secret was. -/
theorem mask_saveRow (h : s.Conceals names) : Alike names (s.mask names).saveRow s.saveRow := by
  have heditor : (s.mask names).editor = s.editor.map (CellEditor.mask names) := rfl
  cases he : s.editor with
  | none =>
    rw [he] at heditor
    rw [saveRow, saveRow, heditor, he]
    exact alike_mask s
  | some e =>
    rw [he] at heditor
    rw [saveRow_eq heditor, saveRow_eq he]
    show Alike names ((s.cancelEdit.mask names).storing e.rowId (e.mask names).commit).sync _
    by_cases hname : e.property ∈ names
    · exact mask_storing_secret h he hname
    · rw [CellEditor.mask_of_not_mem hname]
      exact mask_storing_sync h.cancelEdit.secrets _ _

theorem Alike.saveRow (h : Alike names s t) (hs : s.Conceals names) (ht : t.Conceals names) :
    Alike names s.saveRow t.saveRow :=
  h.through (mask_saveRow hs) (mask_saveRow ht)

/-! ## Opening an editor -/

/-- Open an editor on a visible row where none is open. -/
def editRow (s : Sheet) (id : Nat) : Sheet :=
  match s.store.findById? id with
  | none => s
  | some r =>
    if r.hidden then s
    else
      { s with editor := some (.onRow r (s.descriptors.get? r.property)
          ((s.view.cellArea? id).getD {})) }

theorem openEditor_eq (s : Sheet) (id : Nat) : s.openEditor id = s.saveRow.editRow id := rfl

theorem findById?_mask (s : Sheet) (id : Nat) :
    (s.mask names).store.findById? id = (s.store.findById? id).map (Row.mask names) :=
  s.store.findById?_mask id

theorem mask_editRow (h : Secrets names s.descriptors) (id : Nat) :
    Alike names ((s.mask names).editRow id) (s.editRow id) := by
  rw [editRow, editRow, findById?_mask]
  cases s.store.findById? id with
  | none => exact alike_mask s
  | some r =>
    rw [Option.map_some]
    dsimp only
    rw [Row.hidden_mask]
    split
    · exact alike_mask s
    · have hopened := CellEditor.onRow_mask h r ((s.view.cellArea? id).getD {})
      show Alike names { s.mask names with
        editor := some (.onRow (r.mask names) (s.descriptors.get? r.property)
          ((s.view.cellArea? id).getD {})) } _
      rw [hopened]
      generalize CellEditor.onRow r _ _ = e
      exact alike_mask { s with editor := some e }

theorem Alike.openEditor (h : Alike names s t) (hs : s.Conceals names) (ht : t.Conceals names)
    (id : Nat) : Alike names (s.openEditor id) (t.openEditor id) := by
  have hsaved := h.saveRow hs ht
  rw [openEditor_eq, openEditor_eq]
  exact hsaved.through (f := (·.editRow id)) (mask_editRow hs.saveRow.secrets id)
    (mask_editRow ht.saveRow.secrets id)

theorem mask_activate (h : s.Conceals names) :
    Alike names (s.mask names).activate s.activate := by
  have hselected : (s.mask names).view.selectedId? = s.view.selectedId? := rfl
  have hconfig : (s.mask names).config = s.config := rfl
  rw [activate, activate, hselected, hconfig]
  cases s.view.selectedId? with
  | none => exact alike_mask s
  | some id =>
    dsimp only
    split
    · have hdetail : (((s.mask names).store.findById? id).bind fun r =>
          ValueDetail.ofRow? r ((s.mask names).descriptors.get? r.property)) =
          (s.store.findById? id).bind fun r =>
            ValueDetail.ofRow? r (s.descriptors.get? r.property) := by
        rw [findById?_mask]
        cases s.store.findById? id with
        | none => rfl
        | some r => exact ValueDetail.ofRow?_mask h.secrets r
      rw [hdetail]
      split
      next d _ => exact (alike_mask s).showing (some (.detail d))
      · exact alike_mask s
    · exact (alike_mask s).openEditor h.mask h id

/-! ## Calls with an answer -/

/-- Two calls leave alike sheets and give the same answer. -/
def AlikeAnswer (names : List String) (x y : Sheet × Bool) : Prop :=
  Alike names x.1 y.1 ∧ x.2 = y.2

theorem mask_deleteSelected (h : s.Conceals names) :
    AlikeAnswer names (s.mask names).deleteSelected s.deleteSelected := by
  have hself : AlikeAnswer names (s.mask names, false) (s, false) := ⟨alike_mask s, rfl⟩
  have hselected : (s.mask names).view.selectedId? = s.view.selectedId? := rfl
  have hconfig : (s.mask names).config = s.config := rfl
  rw [deleteSelected, deleteSelected, hselected, hconfig]
  split
  · exact hself
  · cases s.view.selectedId? with
    | none => exact hself
    | some id =>
      have hkind : ((s.mask names).store.findById? id).map (·.kind) =
          (s.store.findById? id).map (·.kind) := by
        rw [findById?_mask, Option.map_map]
        rfl
      have hopen : (s.mask names).editor.map (·.rowId) = s.editor.map (·.rowId) := by
        show (s.editor.map (CellEditor.mask names)).map (·.rowId) = _
        rw [Option.map_map]
        rfl
      dsimp only
      rw [hkind, hopen]
      split
      · exact hself
      · have hclosed : (if s.editor.map (·.rowId) = some id then (s.mask names).cancelEdit
            else s.mask names) =
            (if s.editor.map (·.rowId) = some id then s.cancelEdit else s).mask names := by
          split <;> rfl
        have hconceals : (if s.editor.map (·.rowId) = some id then s.cancelEdit else s).Conceals
            names := by
          split
          · exact h.cancelEdit
          · exact h
        rw [hclosed]
        -- from here on it does not matter whether an editor was closed
        generalize (if s.editor.map (·.rowId) = some id then s.cancelEdit else s) = t
          at hconceals ⊢
        have hstore : (t.mask names).store = t.store.mask names := rfl
        rw [hstore]
        rcases cases_of_map_eq (t.store.mask_update names id { hidden := some true }) with
          ⟨e, e', hmask, hplain⟩ | ⟨after, after', hmask, hplain, hsame⟩
        · rw [hmask, hplain]
          exact ⟨alike_mask t, rfl⟩
        · rw [hmask, hplain]
          exact ⟨((alike_mask t).storing hsame).sync hconceals.secrets, rfl⟩

theorem mask_openNamePrompt (h : s.Conceals names) :
    AlikeAnswer names (s.mask names).openNamePrompt s.openNamePrompt := by
  have hconfig : (s.mask names).config = s.config := rfl
  rw [openNamePrompt, openNamePrompt, hconfig]
  split
  · exact ⟨alike_mask s, rfl⟩
  · exact ⟨(mask_saveRow h).showing _, rfl⟩

theorem selectedRow?_mask (s : Sheet) :
    (s.mask names).selectedRow? = s.selectedRow?.map (Row.mask names) := by
  have hselected : (s.mask names).view.selectedId? = s.view.selectedId? := rfl
  rw [selectedRow?, selectedRow?, hselected]
  cases s.view.selectedId? with
  | none => rfl
  | some id => exact s.findById?_mask id

/-- A secret names no service. -/
theorem mask_goToService (h : s.Conceals names) :
    AlikeAnswer names (s.mask names).goToService s.goToService := by
  have hself : AlikeAnswer names (s.mask names, false) (s, false) := ⟨alike_mask s, rfl⟩
  rw [goToService, goToService, selectedRow?_mask]
  cases s.selectedRow? with
  | none => exact hself
  | some r =>
    have hdescriptor : (s.mask names).descriptors.get? (r.mask names).property =
        s.descriptors.get? r.property := rfl
    have hoptions : (s.mask names).markupOptions = s.markupOptions := rfl
    rw [Option.map_some]
    dsimp only
    rw [hdescriptor, hoptions]
    by_cases hname : r.property ∈ names
    · obtain ⟨d, hd, hsecret⟩ := h.secrets _ hname
      -- only a value from a list can be that of a service
      have hnone : ∀ r : Row, (Markup.actions r (some d) s.markupOptions).goToService = false := by
        intro r
        cases hvalue : r.value <;> simp [Markup.actions, hvalue, hsecret.findChoice?]
      rw [hd, hnone, hnone]
      exact hself
    · rw [Row.mask_of_not_mem hname]
      split
      · cases r.value with
        | none => exact hself
        | some service => exact ⟨(mask_saveRow h).ask _ _ _, rfl⟩
      · exact hself

theorem mask_showTooltip (s : Sheet) :
    AlikeAnswer names (s.mask names).showTooltip s.showTooltip := by
  have hself : AlikeAnswer names (s.mask names, false) (s, false) := ⟨alike_mask s, rfl⟩
  rw [showTooltip, showTooltip, selectedRow?_mask]
  cases s.selectedRow? with
  | none => exact hself
  | some r =>
    have hdescriptor : (s.mask names).descriptors.get? (r.mask names).property =
        s.descriptors.get? r.property := rfl
    rw [Option.map_some]
    dsimp only
    rw [hdescriptor]
    cases s.descriptors.get? r.property with
    | none => exact hself
    | some d => exact ⟨(alike_mask s).showing _, rfl⟩

theorem findRow?_mask (s : Sheet) (name : String) :
    (s.mask names).findRow? name = (s.findRow? name).map (Row.mask names) :=
  s.store.findByName?_mask name

theorem mask_select (s : Sheet) (property : String) :
    AlikeAnswer names ((s.mask names).select property) (s.select property) := by
  have hview : ((s.mask names).findRow? property).bind (fun r => (s.mask names).view.select r.id) =
      ((s.findRow? property).bind fun r => s.view.select r.id).map uncounted := by
    rw [findRow?_mask]
    cases s.findRow? property with
    | none => rfl
    | some r =>
      show (s.view.positions.get? r.id).map _ = ((s.view.positions.get? r.id).map _).map _
      rw [Option.map_map]
      rfl
  rw [select, select, hview]
  cases (s.findRow? property).bind fun r => s.view.select r.id with
  | none => exact ⟨alike_mask s, rfl⟩
  | some view => exact ⟨alike_mask { s with view }, rfl⟩

theorem mask_addProperty (h : s.Conceals names) (name : String) :
    Alike names ((s.mask names).addProperty name) (s.addProperty name) := by
  have hclosed : ({ s with dialog := none } : Sheet).Conceals names :=
    h.showing (by simp)
  have halike : Alike names ({ s.mask names with dialog := none } : Sheet)
      { s with dialog := none } := (alike_mask s).showing none
  have hfound : ∀ name, ({ s.mask names with dialog := none } : Sheet).findRow? name =
      (({ s with dialog := none } : Sheet).findRow? name).map (Row.mask names) :=
    fun name => s.findRow?_mask name
  rw [addProperty, addProperty]
  dsimp only
  split
  · exact (alike_mask s).showNotice _
  · rw [hfound]
    cases hrow : ({ s with dialog := none } : Sheet).findRow? (Text.trim name) with
    | none => exact halike.ask _ _ _
    | some r =>
      rw [Option.map_some]
      dsimp only
      rw [Row.hidden_mask, Row.id_mask]
      split
      next hhidden =>
        have hmem := (h.indexed.findByName?_eq_some_iff.mp hrow).1
        have hstore : ({ s.mask names with dialog := none } : Sheet).store = s.store.mask names :=
          rfl
        rw [hstore]
        rcases cases_of_map_eq (s.store.mask_update names r.id
            { hidden := some false, value := some none, previousValue := some none }) with
          ⟨e, e', hmask, hplain⟩ | ⟨after, after', hmask, hplain, hsame⟩
        · rw [hmask, hplain]
          exact halike
        · rw [hmask, hplain]
          have hunhidden := hclosed.mask.wroteHidden (List.mem_map_of_mem hmem) hhidden hmask
          have hleft := hunhidden.selectId r.id
          have hright := (hclosed.wroteHidden hmem hhidden hplain).selectId r.id
          have hsynced := (halike.storing hsame).sync h.secrets
          exact (hsynced.selectId r.id).openEditor hleft hright r.id
      · exact (halike.selectId r.id).showNotice _

/-! ## Keys -/

theorem mask_handleEditorKey (h : s.Conceals names) {e : CellEditor} (he : s.editor = some e)
    (k : Key) :
    Alike names ((s.mask names).handleEditorKey (e.mask names) k) (s.handleEditorKey e k) := by
  have htyped := h.typing he k
  have halike : Alike names _ { s with editor := some (e.handleKey k).1 } := alike_mask _
  rw [handleEditorKey, handleEditorKey, CellEditor.handleKey_mask]
  dsimp only
  split
  · exact mask_saveRow htyped
  · exact halike.cancelEdit
  · exact (halike.cancelEdit.ask _ _ _).showing _
  · exact halike
  · exact halike

theorem mask_handlePromptKey (h : s.Conceals names) (p : NamePrompt) (k : Key) :
    Alike names ((s.mask names).handlePromptKey p k) (s.handlePromptKey p k) := by
  have htyped : ({ s with dialog := some (.namePrompt (p.handleKey k).1) } : Sheet).Conceals
      names := h.showing (by simp)
  have hmask : Alike names _ s := alike_mask s
  have halike := hmask.showing (some (.namePrompt (p.handleKey k).1))
  rw [handlePromptKey, handlePromptKey]
  dsimp only
  split
  next name _ => exact mask_addProperty htyped name
  · exact halike.showing none
  · exact halike
  · exact halike

theorem mask_closeCreation (s : Sheet) :
    Alike names (s.mask names).closeCreation s.closeCreation :=
  alike_mask s.closeCreation

theorem mask_handleCreationKey (s : Sheet) (d : ServiceDialog) (k : Key) :
    Alike names ((s.mask names).handleCreationKey d k) (s.handleCreationKey d k) := by
  have hshown : ∀ d : ServiceDialog,
      Alike names { s.mask names with dialog := some (.createService d) }
        { s with dialog := some (.createService d) } :=
    fun d => (alike_mask s).showing _
  rw [handleCreationKey, handleCreationKey]
  dsimp only
  split
  · exact (hshown _).ask _ _ _
  · exact mask_closeCreation { s with dialog := some (.createService (d.handleKey k).1) }
  · exact hshown _
  · exact hshown _

theorem mask_handleDialogKey (h : s.Conceals names) (d : Dialog) (k : Key) :
    Alike names ((s.mask names).handleDialogKey d k) (s.handleDialogKey d k) := by
  cases d with
  | namePrompt p => exact mask_handlePromptKey h p k
  | createService d => exact mask_handleCreationKey s d k
  | detail d =>
    rw [handleDialogKey, handleDialogKey]
    split
    · exact (alike_mask s).showing none
    · exact alike_mask s
  | tooltip t => exact (alike_mask s).showing none

theorem mask_handleGridKey (h : s.Conceals names) (k : Key) :
    AlikeAnswer names ((s.mask names).handleGridKey k) (s.handleGridKey k) := by
  have hview : ∀ f : GridView → GridView, (∀ g : GridView, (f g).uncounted = f g.uncounted) →
      Alike names { s.mask names with view := f (s.mask names).view } { s with view := f s.view } :=
    fun f hf => (alike_mask s).viewing hf
  have hmove : ∀ delta, Alike names ((s.mask names).moveSelection delta) (s.moveSelection delta) :=
    fun delta => hview (·.moveSelection delta) fun g => uncounted_moveSelection g delta
  rw [handleGridKey, handleGridKey]
  split
  · exact ⟨hmove _, rfl⟩
  · exact ⟨hmove _, rfl⟩
  · exact ⟨hmove _, rfl⟩
  · exact ⟨hmove _, rfl⟩
  · exact ⟨hview selectFirst fun _ => rfl, rfl⟩
  · exact ⟨hview selectLast fun _ => rfl, rfl⟩
  · exact ⟨mask_activate h, rfl⟩
  · exact mask_deleteSelected h
  · exact mask_openNamePrompt h
  · exact mask_openNamePrompt h
  · exact mask_deleteSelected h
  · exact mask_goToService h
  · exact mask_showTooltip s
  · exact mask_showTooltip s
  · exact ⟨alike_mask s, rfl⟩

theorem mask_handleKey (h : s.Conceals names) (k : Key) :
    AlikeAnswer names ((s.mask names).handleKey k) (s.handleKey k) := by
  have hdestroyed : (s.mask names).destroyed = s.destroyed := rfl
  have hnotice : (s.mask names).notice = s.notice := rfl
  have hdialog : (s.mask names).dialog = s.dialog := rfl
  have heditor : (s.mask names).editor = s.editor.map (CellEditor.mask names) := rfl
  rw [handleKey, handleKey, hdestroyed, hnotice, hdialog, heditor]
  split
  · exact ⟨alike_mask s, rfl⟩
  · cases s.notice with
    | some n => exact ⟨alike_mask { s with notice := none }, rfl⟩
    | none =>
      cases s.dialog with
      | some d => exact ⟨mask_handleDialogKey h d k, rfl⟩
      | none =>
        cases he : s.editor with
        | some e => exact ⟨mask_handleEditorKey h he k, rfl⟩
        | none => exact mask_handleGridKey h k

/-! ## Responses -/

theorem mask_propertyResolved (h : s.Conceals names) {name : String} (hname : name ∉ names)
    (d : Descriptor) :
    Alike names ((s.mask names).propertyResolved name d) (s.propertyResolved name d) := by
  have hlearned := h.learned hname d
  have halike : Alike names _ { s with descriptors := s.descriptors.insert name d } :=
    alike_mask _
  have hfound : ({ s.mask names with descriptors := (s.mask names).descriptors.insert name d } :
      Sheet).findRow? name = (({ s with descriptors := s.descriptors.insert name d } :
        Sheet).findRow? name).map (Row.mask names) := s.findRow?_mask name
  rw [propertyResolved, propertyResolved]
  dsimp only
  rw [hfound]
  cases ({ s with descriptors := s.descriptors.insert name d } : Sheet).findRow? name with
  | some r => exact (halike.selectId r.id).showNotice _
  | none =>
    -- the property is not a secret, so its new row is not masked
    have hnew : (NewRow.loaded name name none .userDefined).mask names =
        .loaded name name none .userDefined := by
      simp [NewRow.mask, NewRow.loaded, hname]
    have hadded := s.store.mask_add names (.loaded name name none .userDefined)
    rw [hnew] at hadded
    have hstore : ({ s.mask names with descriptors := s.descriptors.insert name d } : Sheet).store =
        s.store.mask names := rfl
    rw [Option.map_none]
    dsimp only
    rw [hstore, hadded]
    cases ha : s.store.add (.loaded name name none .userDefined) with
    | error e => exact halike
    | ok added =>
      obtain ⟨store, id⟩ := added
      rw [ha] at hadded
      have hleft := (hlearned.mask.added hadded).selectId id
      have hright := (hlearned.added ha).selectId id
      have hsynced := (halike.storing (store.mask_mask)).sync hlearned.secrets
      exact (hsynced.selectId id).openEditor hleft hright id

theorem mask_typesListed (s : Sheet) (types : List ServiceType) :
    Alike names ((s.mask names).typesListed types) (s.typesListed types) := by
  have hdialog : (s.mask names).dialog = s.dialog := rfl
  rw [typesListed, typesListed, hdialog]
  split
  · exact (mask_closeCreation s).showNotice _
  · split
    · exact (alike_mask s).showing _
    · exact alike_mask s

theorem mask_serviceCreated (s : Sheet) (service : Service) :
    Alike names ((s.mask names).serviceCreated service) (s.serviceCreated service) := by
  have hdialog : (s.mask names).dialog = s.dialog := rfl
  rw [serviceCreated, serviceCreated, hdialog]
  split
  · exact ((alike_mask s).showing _).ask _ _ _
  · exact alike_mask s

theorem mask_descriptorRefreshed (h : s.Conceals names) {rowId : Nat}
    (hrow : ¬ s.store.Holds names rowId) (serviceId : String) (d : Descriptor) :
    Alike names ((s.mask names).descriptorRefreshed rowId serviceId d)
      (s.descriptorRefreshed rowId serviceId d) := by
  have hfound : (s.mask names).closeCreation.store.findById? rowId =
      (s.closeCreation.store.findById? rowId).map (Row.mask names) := s.findById?_mask rowId
  rw [descriptorRefreshed, descriptorRefreshed]
  dsimp only
  rw [hfound]
  cases hr : s.closeCreation.store.findById? rowId with
  | none => exact mask_closeCreation s
  | some r =>
    obtain ⟨hmem, hid⟩ := h.indexed.findById?_eq_some_iff.mp hr
    have hname : r.property ∉ names := fun hname => hrow ⟨r, hmem, hid, hname⟩
    have hlearned := h.closeCreation.learned hname d
    have hupdated : Alike names _ _ := mask_updateRow
      { s.closeCreation with descriptors := s.closeCreation.descriptors.insert r.property d }
      rowId { value := some (some serviceId) }
    refine hupdated.sync ?_
    rw [descriptors_updateRow]
    exact hlearned.secrets

/-- A response acts on alike sheets in the same way. -/
theorem mask_settle (h : s.Conceals names) {p : Purpose}
    (hadd : ∀ name, p = .addProperty name → name ∉ names)
    (hrefresh : ∀ id service, p = .refreshDescriptor id service → ¬ s.store.Holds names id)
    (r : Response) : Alike names ((s.mask names).settle p r) (s.settle p r) := by
  have hfailed : ∀ e, Alike names ((s.mask names).creationFailed e) (s.creationFailed e) :=
    fun e => (mask_closeCreation s).showNotice _
  unfold settle
  split
  · exact mask_propertyResolved h (hadd _ rfl) _
  · exact (alike_mask s).showNotice _
  · exact mask_typesListed s _
  · exact hfailed _
  · exact mask_serviceCreated s _
  · exact hfailed _
  · exact mask_descriptorRefreshed h (hrefresh _ _ rfl) _ _
  · exact hfailed _
  next service =>
    cases service with
    | none => exact alike_mask s
    | some service => exact alike_mask (s.emit (.navigate service.id service.parentGroupId))
  · exact (alike_mask s).showNotice _
  · exact alike_mask s


/-! ## All operations -/

theorem mask_complete (h : s.Conceals names) (r : Response) :
    Alike names ((s.mask names).complete r) (s.complete r) := by
  have hpending : (s.mask names).pending = s.pending := rfl
  rw [complete, complete, hpending]
  cases hp : s.pending.get? r.token with
  | none => exact alike_mask s
  | some p =>
    have hdropped := h.answered r.token
    refine mask_settle hdropped ?_ ?_ r
    · rintro name rfl
      exact h.asked _ name hp
    · rintro id service rfl
      exact h.refreshed _ id service hp

/-- A call that does not empty the sheet comes to the same when secrets are masked. -/
theorem mask_apply (h : s.Conceals names) {op : Operation} (hop : op.empties = false) :
    Alike names ((s.mask names).apply op) (s.apply op) := by
  cases op with
  | load values descriptors histories => cases hop
  | clear => cases hop
  | destroy => cases hop
  | saveRow => exact mask_saveRow h
  | cancelEdit => exact (alike_mask s).cancelEdit
  | resize area => exact mask_resize h.secrets area
  | setGroup groupId => exact alike_mask (s.setGroup groupId)
  | select property => exact (mask_select s property).1
  | activate => exact mask_activate h
  | deleteSelected => exact (mask_deleteSelected h).1
  | goToService => exact (mask_goToService h).1
  | showTooltip => exact (mask_showTooltip s).1
  | openNamePrompt => exact (mask_openNamePrompt h).1
  | addProperty name => exact mask_addProperty h name
  | takeRequests => exact alike_mask s
  | takeEvents => exact alike_mask { s with events := [] }
  | handleKey k => exact (mask_handleKey h k).1
  | complete r => exact mask_complete h r

end Sheet

end PropertySheet
