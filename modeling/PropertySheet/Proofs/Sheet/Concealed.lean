import PropertySheet.Proofs.Sheet.Masked

/-!
# Sheets that conceal secrets

Whether a secret is out of the way of everything that a sheet does on its own is a matter of the
whole sheet, not of its rows alone. `Conceals` says of the properties of a list that they are known
to be secrets, that their rows are there and formatted as they are now, that no request on the way
can replace their descriptors or write their values, and that an editor on one of them is a field
that remembers the value of its row. Every call keeps this, except those that empty the sheet
(`Conceals.apply`).
-/

namespace PropertySheet

open RowStore

variable {names : List String}

/-- The row of an id is that of one of certain properties. -/
def RowStore.Holds (names : List String) (s : RowStore) (id : Nat) : Prop :=
  ∃ r ∈ s.rows, r.id = id ∧ r.property ∈ names

/-- An editor is on a row of its property. On one of certain properties it is a field, and it
remembers the value that the visible row has. -/
def CellEditor.IsOn (names : List String) (e : CellEditor) (s : RowStore) : Prop :=
  ∃ r ∈ s.rows, r.id = e.rowId ∧ r.property = e.property ∧
    (r.property ∈ names →
      r.hidden = false ∧ r.value = e.previousValue ∧ e.body.kind ≠ .choice)

/-! ## Editors and dialogs -/

theorem TextField.handleKey_ne_createService (f : TextField) (k : Key) (serviceType : String) :
    (f.handleKey k).2 ≠ .createService serviceType := by
  rw [handleKey]
  cases k.code with
  | enter =>
    dsimp only
    split <;> nofun
  | char c =>
    dsimp only
    split
    · split
      · nofun
      · split <;> nofun
    · nofun
  | _ => nofun

namespace CellEditor

theorem kind_handleKey (e : CellEditor) (k : Key) :
    (e.handleKey k).1.body.kind = e.body.kind := by
  obtain ⟨surface, body, hkey, hbody⟩ := e.handleKey_frame k
  rw [hkey]
  rcases hbody with rfl | rfl
  · rfl
  · show (e.body.handleKey k _).1.kind = e.body.kind
    cases e.body <;> rfl

/-- A key that asks for a new service goes to a list of values. -/
theorem kind_of_createService {e : CellEditor} {k : Key} {serviceType : String}
    (h : (e.handleKey k).2 = .createService serviceType) : e.body.kind = .choice := by
  unfold handleKey at h
  split at h
  · cases h
  · split at h
    · cases h
    · split at h
      · cases h
      · rw [handleBodyKey] at h
        cases hbody : e.body with
        | plain f =>
          rw [hbody] at h
          exact absurd h (f.handleKey_ne_createService k serviceType)
        | expression f =>
          rw [hbody] at h
          exact absurd h (f.handleKey_ne_createService k serviceType)
        | choice l => rfl

theorem IsOn.handleKey {e : CellEditor} {store : RowStore} (h : e.IsOn names store) (k : Key) :
    (e.handleKey k).1.IsOn names store := by
  have hsame := e.sameRow_handleKey k
  rw [IsOn, hsame.rowId, hsame.property, hsame.previousValue, kind_handleKey]
  exact h

/-- An editor that opens on a secret is a field. -/
theorem isOn_onRow {descriptors : Descriptors} (h : Secrets names descriptors) {store : RowStore}
    {r : Row} (hr : r ∈ store.rows) (hvisible : r.hidden = false) (anchor : Rect) :
    (onRow r (descriptors.get? r.property) anchor).IsOn names store := by
  refine ⟨r, hr, rfl, rfl, fun hname => ⟨hvisible, rfl, ?_⟩⟩
  obtain ⟨d, hd, hsecret⟩ := h _ hname
  rw [hd, onRow, bodyFor_of_isSecret hsecret]
  cases d.supportsExpressions <;> simp [EditorBody.kind]

end CellEditor

theorem ServiceDialog.rowId_handleKey (d : ServiceDialog) (k : Key) :
    (d.handleKey k).1.rowId = d.rowId := by
  rcases d.handleKey_cases k with ⟨-, hk⟩ | ⟨-, -, typeName, hk⟩ | ⟨-, hcourse, -⟩
  · rw [hk]
  · rw [hk]
  · exact hcourse.rowId

namespace Sheet

/-- The values of certain properties, all of them secrets, are out of the way of the sheet. -/
structure Conceals (names : List String) (s : Sheet) : Prop where
  current : s.pane.Current (· ∈ names)
  secrets : Secrets names s.descriptors
  stored : ∀ name ∈ names, ∃ r ∈ s.store.rows, r.property = name
  asked : ∀ t name, s.pending.get? t = some (.addProperty name) → name ∉ names
  refreshed : ∀ t id service, s.pending.get? t = some (.refreshDescriptor id service) →
    ¬ s.store.Holds names id
  created : ∀ d, s.dialog = some (.createService d) → ¬ s.store.Holds names d.rowId
  edited : ∀ e, s.editor = some e → e.IsOn names s.store

variable {s : Sheet}

theorem Conceals.indexed (h : s.Conceals names) : s.store.Indexed := h.current.follows.indexed

theorem conceals_ofConfig (config : SheetConfig) : (ofConfig config).Conceals [] where
  current := current_ofConfig config
  secrets _ hname := nomatch hname
  stored _ hname := nomatch hname
  asked _ _ ht := nomatch ht
  refreshed _ _ _ ht := nomatch ht
  created _ hd := nomatch hd
  edited _ he := nomatch he

/-! ## The masked sheet -/

theorem current_mask (h : s.Conceals names) : (s.mask names).pane.Current (· ∈ names) := by
  have horder : s.view.order = (s.store.mask names).visible.map (·.id) := by
    rw [order_eq_of_current h.current, visible_mask, List.map_map]
    rfl
  refine ⟨⟨h.indexed.mask, h.current.follows.placed, h.current.follows.known, .inl horder⟩,
    h.current.followed, fun r' hr' hname => ?_, h.current.widths⟩
  obtain ⟨r, hr, rfl⟩ := List.mem_map.mp hr'
  have hcached := cached_of_current h.current hr hname
  rw [← RowMarkup.ofRow_mask h.secrets] at hcached
  exact .inr hcached

/-- What conceals secrets in a sheet conceals them in the masked sheet. -/
theorem Conceals.mask (h : s.Conceals names) : (s.mask names).Conceals names := by
  have hholds : ∀ id, (s.store.mask names).Holds names id → s.store.Holds names id := by
    rintro id ⟨r', hr', hid, hname⟩
    obtain ⟨r, hr, rfl⟩ := List.mem_map.mp hr'
    exact ⟨r, hr, hid, hname⟩
  refine ⟨current_mask h, h.secrets, fun name hname => ?_, h.asked, fun t id service ht => ?_,
    fun d hd => ?_, fun e' he' => ?_⟩
  · obtain ⟨r, hr, hsame⟩ := h.stored name hname
    exact ⟨r.mask names, List.mem_map_of_mem hr, hsame⟩
  · exact fun hheld => h.refreshed t id service ht (hholds _ hheld)
  · exact fun hheld => h.created d hd (hholds _ hheld)
  · obtain ⟨e, he, rfl⟩ := Option.map_eq_some_iff.mp he'
    obtain ⟨r, hr, hid, hname, hsecret⟩ := h.edited e he
    refine ⟨r.mask names, List.mem_map_of_mem hr, hid, hname, fun hmem => ?_⟩
    obtain ⟨hvisible, hvalue, hkind⟩ := hsecret hmem
    refine ⟨hvisible, ?_, hkind⟩
    -- both values are masked
    have hedited : e.property ∈ names := hname ▸ hmem
    have hr : (r.mask names).value = masked r.value := if_pos hmem
    have he : (e.mask names).previousValue = masked e.previousValue := if_pos hedited
    rw [hr, he, hvalue]

/-! ## Parts of a sheet -/

theorem Conceals.sync (h : s.Conceals names) : s.sync.Conceals names :=
  ⟨h.current.step (fun _ hfalse => hfalse) .follow, h.secrets, h.stored, h.asked, h.refreshed,
    h.created, h.edited⟩

theorem Conceals.selecting (h : s.Conceals names) (place : Nat) :
    ({ s with view := s.view.selecting place } : Sheet).Conceals names :=
  ⟨h.current.step (fun _ hfalse => hfalse) (.select place), h.secrets, h.stored, h.asked,
    h.refreshed, h.created, h.edited⟩

theorem Conceals.selectId (h : s.Conceals names) (id : Nat) : (s.selectId id).Conceals names := by
  rw [Sheet.selectId]
  rcases s.view.trySelect_cases id with hsame | ⟨place, hplace⟩
  · rw [hsame]
    exact h
  · rw [hplace]
    exact h.selecting place

theorem Conceals.resize (h : s.Conceals names) (area : Rect) : (s.resize area).Conceals names :=
  ⟨h.current.step (fun _ hfalse => hfalse) (.resize area), h.secrets, h.stored, h.asked,
    h.refreshed, h.created, h.edited⟩

theorem Conceals.cancelEdit (h : s.Conceals names) : s.cancelEdit.Conceals names :=
  ⟨h.current, h.secrets, h.stored, h.asked, h.refreshed, h.created, fun _ he => nomatch he⟩

/-- A dialog that creates a service has to be for another row. -/
theorem Conceals.showing (h : s.Conceals names) {dialog : Option Dialog}
    (hdialog : ∀ d, dialog = some (.createService d) → ¬ s.store.Holds names d.rowId) :
    ({ s with dialog } : Sheet).Conceals names :=
  ⟨h.current, h.secrets, h.stored, h.asked, h.refreshed, hdialog, h.edited⟩

theorem Conceals.showNotice (h : s.Conceals names) (n : Notice) :
    (s.showNotice n).Conceals names :=
  ⟨h.current, h.secrets, h.stored, h.asked, h.refreshed, h.created, h.edited⟩

/-- A request must neither replace the descriptor of a secret nor write its value. -/
theorem Conceals.ask (h : s.Conceals names) {p : Purpose} {request : Token → Request}
    (hadd : ∀ name, p = .addProperty name → name ∉ names)
    (hrefresh : ∀ id service, p = .refreshDescriptor id service → ¬ s.store.Holds names id) :
    (s.ask p request).Conceals names := by
  refine ⟨h.current, h.secrets, h.stored, fun t name ht => ?_, fun t id service ht => ?_,
    h.created, h.edited⟩
  · rw [Sheet.ask, SortedMap.get?_insert] at ht
    split at ht
    · exact hadd name (Option.some.inj ht)
    · exact h.asked t name ht
  · rw [Sheet.ask, SortedMap.get?_insert] at ht
    split at ht
    · exact hrefresh id service (Option.some.inj ht)
    · exact h.refreshed t id service ht

/-- Fewer requests are pending. -/
theorem Conceals.dropping (h : s.Conceals names) {pending : SortedMap Token Purpose}
    (hpending : ∀ t p, pending.get? t = some p → s.pending.get? t = some p) :
    ({ s with pending } : Sheet).Conceals names :=
  ⟨h.current, h.secrets, h.stored, fun t name ht => h.asked t name (hpending _ _ ht),
    fun t id service ht => h.refreshed t id service (hpending _ _ ht), h.created, h.edited⟩

theorem Conceals.closeCreation (h : s.Conceals names) : s.closeCreation.Conceals names := by
  have hdropped : ({ s with pending := s.pending.filter fun _ p => !p.servesCreation } :
      Sheet).Conceals names := by
    refine h.dropping fun t p hp => ?_
    rw [SortedMap.get?_filter, Option.filter_eq_some_iff] at hp
    exact hp.1
  refine hdropped.showing fun d hd => ?_
  split at hd
  · cases hd
  · exact h.created d hd

/-! ## Rows -/

/-- Setting fields of a row, if it is not that of an editor on a secret. -/
theorem Conceals.wrote (h : s.Conceals names) {id : Nat} {p : RowPatch} {store : RowStore}
    (hu : s.store.update id p = .ok store)
    (hother : ∀ e, s.editor = some e → e.rowId = id → e.property ∉ names) :
    ({ s with store } : Sheet).sync.Conceals names := by
  obtain ⟨hrows, -, -⟩ := h.indexed.update hu
  have hholds : ∀ id', store.Holds names id' → s.store.Holds names id' := by
    rintro id' ⟨r', hr', hid, hname⟩
    rw [hrows] at hr'
    obtain ⟨r, hr, rfl⟩ := List.mem_map.mp hr'
    rw [id_patchAt] at hid
    rw [property_patchAt] at hname
    exact ⟨r, hr, hid, hname⟩
  refine ⟨h.current.step (fun _ hfalse => hfalse) (.write hu), h.secrets, fun name hname => ?_,
    h.asked, fun t id' service ht => ?_, fun d hd => ?_, fun e he => ?_⟩
  · obtain ⟨r, hr, hsame⟩ := h.stored name hname
    refine ⟨patchAt id p r, ?_, (property_patchAt id p r).trans hsame⟩
    show _ ∈ store.rows
    rw [hrows]
    exact List.mem_map_of_mem hr
  · exact fun hheld => h.refreshed t id' service ht (hholds _ hheld)
  · exact fun hheld => h.created d hd (hholds _ hheld)
  · obtain ⟨r, hr, hid, hname, hsecret⟩ := h.edited e he
    refine ⟨patchAt id p r, ?_, (id_patchAt id p r).trans hid,
      (property_patchAt id p r).trans hname, fun hmem => ?_⟩
    · show _ ∈ store.rows
      rw [hrows]
      exact List.mem_map_of_mem hr
    · rw [property_patchAt] at hmem
      -- the row of an editor on a secret is not the one that changes
      have hne : r.id ≠ id := fun heq => hother e he (hid.symm.trans heq) (hname ▸ hmem)
      rw [patchAt, if_neg hne]
      exact hsecret hmem

/-- A hidden row has no editor if it is that of a secret. -/
theorem Conceals.wroteHidden (h : s.Conceals names) {r : Row} (hr : r ∈ s.store.rows)
    (hhidden : r.hidden) {p : RowPatch} {store : RowStore}
    (hu : s.store.update r.id p = .ok store) :
    ({ s with store } : Sheet).sync.Conceals names := by
  refine h.wrote hu fun e he hid hname => ?_
  obtain ⟨r', hr', hid', hname', hsecret⟩ := h.edited e he
  obtain rfl := h.indexed.eq_of_id_eq hr' hr (hid'.trans hid)
  have hvisible := (hsecret (hname' ▸ hname)).1
  exact Bool.eq_false_iff.mp hvisible hhidden

/-- A new row is not that of a secret, since those have their rows. -/
theorem Conceals.added (h : s.Conceals names) {new : NewRow} {store : RowStore} {id : Nat}
    (ha : s.store.add new = .ok (store, id)) : ({ s with store } : Sheet).sync.Conceals names := by
  obtain ⟨rfl, hnew, hrows, -, -⟩ := h.indexed.add ha
  have hholds : ∀ id', store.Holds names id' → s.store.Holds names id' := by
    rintro id' ⟨r, hr, hid, hname⟩
    rw [hrows, List.mem_append, List.mem_singleton] at hr
    rcases hr with hr | rfl
    · exact ⟨r, hr, hid, hname⟩
    · obtain ⟨r, hr, hsame⟩ := h.stored _ hname
      exact absurd hsame (hnew r hr)
  have hold : ∀ r ∈ s.store.rows, r ∈ store.rows := by
    intro r hr
    rw [hrows]
    exact List.mem_append_left _ hr
  refine ⟨h.current.step (fun _ hfalse => hfalse) (.append ha), h.secrets, fun name hname => ?_,
    h.asked, fun t id' service ht => ?_, fun d hd => ?_, fun e he => ?_⟩
  · obtain ⟨r, hr, hsame⟩ := h.stored name hname
    exact ⟨r, hold r hr, hsame⟩
  · exact fun hheld => h.refreshed t id' service ht (hholds _ hheld)
  · exact fun hheld => h.created d hd (hholds _ hheld)
  · obtain ⟨r, hr, hrest⟩ := h.edited e he
    exact ⟨r, hold r hr, hrest⟩

/-- Setting fields of a row that may be missing. -/
theorem Conceals.updateRow (h : s.Conceals names) {id : Nat}
    (hother : ∀ e, s.editor = some e → e.rowId = id → e.property ∉ names) (p : RowPatch) :
    (s.updateRow id p).sync.Conceals names := by
  rw [Sheet.updateRow]
  split
  next store hu => exact h.wrote hu hother
  · exact h.sync

/-! ## Editors -/

theorem Conceals.saveRow (h : s.Conceals names) : s.saveRow.Conceals names := by
  unfold Sheet.saveRow
  split
  · exact h
  next e _ =>
    show (if e.commit.dirty then
        s.cancelEdit.updateRow e.rowId { value := some e.commit.value }
      else s.cancelEdit).sync.Conceals names
    split
    · exact h.cancelEdit.updateRow (fun _ he => nomatch he) _
    · exact h.cancelEdit.sync

theorem Conceals.openEditor (h : s.Conceals names) (id : Nat) :
    (s.openEditor id).Conceals names := by
  have hsaved := h.saveRow
  unfold Sheet.openEditor
  dsimp only
  split
  · exact hsaved
  next r hr =>
    split
    · exact hsaved
    next hvisible =>
      obtain ⟨hmem, -⟩ := hsaved.indexed.findById?_eq_some_iff.mp hr
      refine ⟨hsaved.current, hsaved.secrets, hsaved.stored, hsaved.asked, hsaved.refreshed,
        hsaved.created, fun e he => ?_⟩
      obtain rfl := Option.some.inj he
      exact CellEditor.isOn_onRow hsaved.secrets hmem (Bool.eq_false_iff.mpr hvisible) _

theorem Conceals.activate (h : s.Conceals names) : s.activate.Conceals names := by
  unfold Sheet.activate
  split
  · exact h
  · split
    · split
      · exact h.showing (by simp)
      · exact h
    · exact h.openEditor _

theorem Conceals.deleteSelected (h : s.Conceals names) : s.deleteSelected.1.Conceals names := by
  unfold Sheet.deleteSelected
  split
  · exact h
  · split
    · exact h
    next id _ =>
      split
      · exact h
      · dsimp only
        -- an editor on the row is closed before the row is hidden
        by_cases hown : s.editor.map (·.rowId) = some id
        · rw [if_pos hown]
          split
          · exact h.cancelEdit
          next store hu => exact h.cancelEdit.wrote hu fun _ he => nomatch he
        · rw [if_neg hown]
          split
          · exact h
          next store hu =>
            refine h.wrote hu fun e he hid => absurd ?_ hown
            rw [he, Option.map_some, hid]

/-! ## What a sheet asks for -/

theorem Conceals.openNamePrompt (h : s.Conceals names) : s.openNamePrompt.1.Conceals names := by
  unfold Sheet.openNamePrompt
  split
  · exact h
  · exact h.saveRow.showing (by simp)

/-- A property is asked for only if it has no row. -/
theorem Conceals.addProperty (h : s.Conceals names) (name : String) :
    (s.addProperty name).Conceals names := by
  have hclosed : ({ s with dialog := none } : Sheet).Conceals names :=
    h.showing (by simp)
  unfold Sheet.addProperty
  dsimp only
  split
  · exact h.showNotice _
  · split
    next r hr =>
      split
      next hhidden =>
        split
        · exact hclosed
        next store hu =>
          have hfound := h.indexed.findByName?_eq_some_iff.mp hr
          exact ((hclosed.wroteHidden hfound.1 hhidden hu).selectId _).openEditor _
      · exact (hclosed.selectId _).showNotice _
    next hnone =>
      refine hclosed.ask (fun name' hname' hmem => ?_) (by simp)
      obtain rfl := Purpose.addProperty.inj hname'
      obtain ⟨r, hr, hsame⟩ := h.stored _ hmem
      exact (h.indexed.findByName?_eq_none_iff.mp hnone) r hr hsame

theorem Conceals.goToService (h : s.Conceals names) : s.goToService.1.Conceals names := by
  unfold Sheet.goToService
  split
  · exact h
  · split
    · split
      · exact h
      · dsimp only
        exact h.saveRow.ask (by simp) (by simp)
    · exact h

theorem Conceals.showTooltip (h : s.Conceals names) : s.showTooltip.1.Conceals names := by
  unfold Sheet.showTooltip
  split
  · exact h
  · split
    · exact h
    · exact h.showing (by simp)

/-! ## Keys -/

/-- Keys change the content of an editor only. -/
theorem Conceals.typing (h : s.Conceals names) {e : CellEditor} (he : s.editor = some e)
    (k : Key) : ({ s with editor := some (e.handleKey k).1 } : Sheet).Conceals names := by
  refine ⟨h.current, h.secrets, h.stored, h.asked, h.refreshed, h.created, fun e' he' => ?_⟩
  obtain rfl := Option.some.inj he'
  exact (h.edited e he).handleKey k

theorem Conceals.handleEditorKey (h : s.Conceals names) {e : CellEditor} (he : s.editor = some e)
    (k : Key) : (s.handleEditorKey e k).Conceals names := by
  have hon := (h.edited e he).handleKey k
  have htyped := h.typing he k
  unfold Sheet.handleEditorKey
  dsimp only
  split
  · exact htyped.saveRow
  · exact htyped.cancelEdit
  next serviceType hcreate =>
    have hasked : (({ s with editor := some (e.handleKey k).1 } : Sheet).cancelEdit.ask
        .serviceTypes (.listServiceTypes · serviceType)).Conceals names :=
      htyped.cancelEdit.ask (by simp) (by simp)
    refine hasked.showing fun d hd => ?_
    obtain rfl := Dialog.createService.inj (Option.some.inj hd)
    -- the editor is a list, so its row is not that of a secret
    rintro ⟨r, hr, hid, hname⟩
    obtain ⟨r', hr', hid', -, hsecret⟩ := hon
    obtain rfl := h.indexed.eq_of_id_eq hr hr' (hid.trans hid'.symm)
    have hkind := CellEditor.kind_of_createService hcreate
    exact (hsecret hname).2.2 ((e.kind_handleKey k).trans hkind)
  · exact htyped
  · exact htyped

theorem Conceals.handlePromptKey (h : s.Conceals names) (p : NamePrompt) (k : Key) :
    (s.handlePromptKey p k).Conceals names := by
  have htyped : ({ s with dialog := some (.namePrompt (p.handleKey k).1) } : Sheet).Conceals
      names := h.showing (by simp)
  unfold Sheet.handlePromptKey
  dsimp only
  split
  next name _ => exact htyped.addProperty name
  · exact h.showing (by simp)
  · exact htyped
  · exact htyped

theorem Conceals.handleCreationKey (h : s.Conceals names) {d : ServiceDialog}
    (hd : ¬ s.store.Holds names d.rowId) (k : Key) : (s.handleCreationKey d k).Conceals names := by
  have hshown : ∀ d' : ServiceDialog, d'.rowId = d.rowId →
      ({ s with dialog := some (.createService d') } : Sheet).Conceals names := by
    intro d' hrow
    refine h.showing fun d'' hd'' => ?_
    obtain rfl := Dialog.createService.inj (Option.some.inj hd'')
    rw [hrow]
    exact hd
  have hrow := d.rowId_handleKey k
  unfold Sheet.handleCreationKey
  dsimp only
  split
  next typeName _ =>
    exact (hshown (d.handleKey k).1.startCreating hrow).ask (p := .createService) (by simp) (by simp)
  · exact (hshown _ hrow).closeCreation
  · exact hshown _ hrow
  · exact hshown _ hrow

theorem Conceals.handleDialogKey (h : s.Conceals names) {d : Dialog} (hd : s.dialog = some d)
    (k : Key) : (s.handleDialogKey d k).Conceals names := by
  cases d with
  | namePrompt p => exact h.handlePromptKey p k
  | createService d => exact h.handleCreationKey (h.created d hd) k
  | detail d =>
    rw [Sheet.handleDialogKey]
    split
    · exact h.showing (by simp)
    · exact h
  | tooltip t => exact h.showing (by simp)

theorem Conceals.handleGridKey (h : s.Conceals names) (k : Key) :
    (s.handleGridKey k).1.Conceals names := by
  have hmove := s.gridMove_handleGridKey k
  generalize (s.handleGridKey k).1 = t at hmove ⊢
  cases hmove with
  | select view hview =>
    rcases hview with rfl | ⟨place, rfl⟩
    · exact h
    · exact h.selecting place
  | activate => exact h.activate
  | delete => exact h.deleteSelected
  | prompt => exact h.openNamePrompt
  | follow => exact h.goToService
  | tell => exact h.showTooltip

theorem Conceals.handleKey (h : s.Conceals names) (k : Key) :
    (s.handleKey k).1.Conceals names := by
  unfold Sheet.handleKey
  split
  · exact h
  · split
    · exact ⟨h.current, h.secrets, h.stored, h.asked, h.refreshed, h.created, h.edited⟩
    · split
      next d hd => exact h.handleDialogKey hd k
      · split
        next e he => exact h.handleEditorKey he k
        · exact h.handleGridKey k

/-! ## Responses -/

theorem secrets_insert {descriptors : Descriptors} (h : Secrets names descriptors) {name : String}
    (hname : name ∉ names) (d : Descriptor) : Secrets names (descriptors.insert name d) := by
  intro name' hmem
  have hne : name ≠ name' := fun heq => hname (heq ▸ hmem)
  rw [SortedMap.get?_insert, if_neg hne]
  exact h name' hmem

/-- A descriptor that is learned is not that of a secret. -/
theorem Conceals.learned (h : s.Conceals names) {name : String} (hname : name ∉ names)
    (d : Descriptor) :
    ({ s with descriptors := s.descriptors.insert name d } : Sheet).Conceals names := by
  have hstep : Pane.Step (· = name) s.pane
      ({ s with descriptors := s.descriptors.insert name d } : Sheet).pane :=
    .learn d fun _ _ => rfl
  have hother : ∀ name', name' = name → name' ∉ names := by
    rintro _ rfl
    exact hname
  exact ⟨h.current.step hother hstep, secrets_insert h.secrets hname d, h.stored, h.asked,
    h.refreshed, h.created, h.edited⟩

theorem Conceals.propertyResolved (h : s.Conceals names) {name : String} (hname : name ∉ names)
    (d : Descriptor) : (s.propertyResolved name d).Conceals names := by
  have hlearned := h.learned hname d
  unfold Sheet.propertyResolved
  dsimp only
  split
  · exact (hlearned.selectId _).showNotice _
  · split
    · exact hlearned
    next store id ha => exact ((hlearned.added ha).selectId id).openEditor id

theorem Conceals.typesListed (h : s.Conceals names) (types : List ServiceType) :
    (s.typesListed types).Conceals names := by
  unfold Sheet.typesListed
  split
  · exact h.closeCreation.showNotice _
  · split
    next d hd =>
      refine h.showing fun d' hd' => ?_
      obtain rfl := Dialog.createService.inj (Option.some.inj hd')
      exact h.created d hd
    · exact h

theorem Conceals.serviceCreated (h : s.Conceals names) (service : Service) :
    (s.serviceCreated service).Conceals names := by
  unfold Sheet.serviceCreated
  split
  next d hd =>
    have hrow := h.created d hd
    have hshown : ({ s with dialog := some (.createService (d.serviceCreated service.id)) } :
        Sheet).Conceals names := by
      refine h.showing fun d' hd' => ?_
      obtain rfl := Dialog.createService.inj (Option.some.inj hd')
      exact hrow
    refine hshown.ask (by simp) fun id serviceId hp => ?_
    obtain ⟨rfl, -⟩ := Purpose.refreshDescriptor.inj hp
    exact hrow
  · exact h

/-- The row of a new service is not that of a secret. -/
theorem Conceals.descriptorRefreshed (h : s.Conceals names) {rowId : Nat}
    (hrow : ¬ s.store.Holds names rowId) (serviceId : String) (d : Descriptor) :
    (s.descriptorRefreshed rowId serviceId d).Conceals names := by
  have hclosed := h.closeCreation
  unfold Sheet.descriptorRefreshed
  dsimp only
  split
  · exact hclosed
  next r hr =>
    obtain ⟨hmem, hid⟩ := h.indexed.findById?_eq_some_iff.mp hr
    have hname : r.property ∉ names := fun hname => hrow ⟨r, hmem, hid, hname⟩
    refine (hclosed.learned hname d).updateRow (fun e he heq hedited => ?_) _
    obtain ⟨r', hr', hid', hname', -⟩ := h.edited e he
    exact hrow ⟨r', hr', hid'.trans heq, hname' ▸ hedited⟩

theorem Conceals.settle (h : s.Conceals names) {p : Purpose}
    (hadd : ∀ name, p = .addProperty name → name ∉ names)
    (hrefresh : ∀ id service, p = .refreshDescriptor id service → ¬ s.store.Holds names id)
    (r : Response) : (s.settle p r).Conceals names := by
  unfold Sheet.settle
  split
  · exact h.propertyResolved (hadd _ rfl) _
  · exact h.showNotice _
  · exact h.typesListed _
  · exact h.closeCreation.showNotice _
  · exact h.serviceCreated _
  · exact h.closeCreation.showNotice _
  · exact h.descriptorRefreshed (hrefresh _ _ rfl) _ _
  · exact h.closeCreation.showNotice _
  next service =>
    cases service with
    | none => exact h
    | some service =>
      exact ⟨h.current, h.secrets, h.stored, h.asked, h.refreshed, h.created, h.edited⟩
  · exact h.showNotice _
  · exact h

theorem Conceals.answered (h : s.Conceals names) (t : Token) :
    ({ s with pending := s.pending.erase t } : Sheet).Conceals names := by
  refine h.dropping fun t' p hp => ?_
  rw [SortedMap.get?_erase] at hp
  split at hp
  · cases hp
  · exact hp

theorem Conceals.complete (h : s.Conceals names) (r : Response) :
    (s.complete r).Conceals names := by
  unfold Sheet.complete
  split
  · exact h
  next p hp =>
    refine (h.answered r.token).settle ?_ ?_ r
    · rintro name rfl
      exact h.asked _ name hp
    · rintro id service rfl
      exact h.refreshed _ id service hp

/-! ## Emptying and loading -/

/-- Without rows there are no secrets. -/
theorem Conceals.clear (h : s.Conceals names) : s.clear.Conceals [] where
  current := h.current.emptied
  secrets _ hname := nomatch hname
  stored _ hname := nomatch hname
  asked _ _ ht := nomatch ht
  refreshed _ _ _ ht := nomatch ht
  created _ hd := nomatch hd
  edited _ he := nomatch he

/-- A load starts from nothing, so that any of its properties that are secrets are concealed. -/
theorem Conceals.loaded (h : s.Conceals names) {values : List (String × Option String)}
    {descriptors : Descriptors} {store : RowStore}
    (hstore : s.clear.store.replaceAll (values.map fun v => loadedRow descriptors v.1 v.2) =
      .ok store)
    {others : List String} (hsecrets : Secrets others descriptors)
    (hothers : ∀ name ∈ others, name ∈ values.map (·.1)) (histories : Histories) :
    ({ s.clear with store, descriptors, histories } : Sheet).sync.Conceals others := by
  have hempty : s.clear.store.rows = [] := rows_clear s.store
  have hcleared : s.clear.pane.Current (· ∈ others) := h.current.emptied
  refine ⟨hcleared.step (fun _ hfalse => hfalse) (.fill descriptors hempty hstore), hsecrets,
    fun name hname => ?_, fun _ _ ht => (nomatch ht), fun _ _ _ ht => (nomatch ht),
    fun _ hd => (nomatch hd), fun _ he => (nomatch he)⟩
  obtain ⟨v, hv, rfl⟩ := List.mem_map.mp (hothers name hname)
  obtain ⟨hrows, -, -⟩ := indexed_replaceAll hstore
  have hmem : loadedRow descriptors v.1 v.2 ∈ values.map fun v => loadedRow descriptors v.1 v.2 :=
    List.mem_map_of_mem hv
  obtain ⟨id, hid⟩ := exists_mem_numbered s.clear.store.nextId hmem
  exact ⟨_, hrows ▸ hid, rfl⟩

/-! ## All operations -/

/-- A call that does not empty the sheet leaves secrets concealed. -/
theorem Conceals.apply (h : s.Conceals names) {op : Operation} (hop : op.empties = false) :
    (s.apply op).Conceals names := by
  cases op with
  | load values descriptors histories => cases hop
  | clear => cases hop
  | destroy => cases hop
  | saveRow => exact h.saveRow
  | cancelEdit => exact h.cancelEdit
  | resize area => exact h.resize area
  | select property =>
    rw [Sheet.apply, Sheet.select]
    split
    next view hview =>
      obtain ⟨r, -, hselect⟩ := Option.bind_eq_some_iff.mp hview
      obtain ⟨place, -, rfl⟩ := Option.map_eq_some_iff.mp hselect
      exact h.selecting place
    · exact h
  | activate => exact h.activate
  | deleteSelected => exact h.deleteSelected
  | goToService => exact h.goToService
  | showTooltip => exact h.showTooltip
  | openNamePrompt => exact h.openNamePrompt
  | addProperty name => exact h.addProperty name
  | handleKey k => exact h.handleKey k
  | complete r => exact h.complete r
  | setGroup | takeRequests | takeEvents =>
    exact ⟨h.current, h.secrets, h.stored, h.asked, h.refreshed, h.created, h.edited⟩

end Sheet

end PropertySheet
