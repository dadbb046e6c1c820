import PropertySheet.Proofs.RowStore.Indexed
import PropertySheet.Proofs.Sheet.Operation

/-!
# What operations do to rows

A call that does not empty the sheet changes rows in few ways: it sets values, hides a row of the
user, brings a hidden one back reset, or appends one. `Revised` lists them, and `revised_apply` says
that no call does anything else to the store.

`Succeeds` puts this in terms of single rows: every row goes on under its name, either with the
value at load time that it had or brought back without any, and every other row is a new one.
`succeeds_apply` says so of each call, and `indexed_run` that the indexes of the store agree with
its rows after any sequence of calls.
-/

namespace PropertySheet

/-- What becomes of a row with a call. Its value at load time stays, and it stays hidden if it was;
or it was hidden and comes back without a value at load time. -/
structure Row.Becomes (r r' : Row) : Prop where
  id : r'.id = r.id
  property : r'.property = r.property
  kind : r'.kind = r.kind
  course : r'.previousValue = r.previousValue ∧ (r.hidden → r'.hidden) ∨
    r.hidden ∧ r'.hidden = false ∧ r'.previousValue = none

theorem Row.becomes_self (r : Row) : r.Becomes r := ⟨rfl, rfl, rfl, .inl ⟨rfl, fun h => h⟩⟩

namespace RowStore

/-! ## One store after another -/

/-- The names of the rows of a store with the kinds of the properties, in their order. -/
def listing (s : RowStore) : List (String × PropertyKind) :=
  s.rows.map fun r => (r.property, r.kind)

/-- Rows go on from one store to the next. A row that does not is new, under a name that no row had,
and without a value at load time; it is the user's, and comes after all others. -/
structure Succeeds (s t : RowStore) : Prop where
  indexed : t.Indexed
  nextId_le : s.nextId ≤ t.nextId
  listed : ∃ added : List String,
    t.listing = s.listing ++ added.map fun name => (name, .userDefined)
  forth : ∀ r ∈ s.rows, ∃ r' ∈ t.rows, r.Becomes r'
  back : ∀ r' ∈ t.rows, (∃ r ∈ s.rows, r.Becomes r') ∨
    r'.previousValue = none ∧ ∀ r ∈ s.rows, r.property ≠ r'.property

variable {s t u : RowStore}

theorem Indexed.succeeds_self (h : s.Indexed) : s.Succeeds s where
  indexed := h
  nextId_le := Nat.le_refl _
  listed := ⟨[], (List.append_nil _).symm⟩
  forth r hr := ⟨r, hr, r.becomes_self⟩
  back r hr := .inl ⟨r, hr, r.becomes_self⟩

/-- Taking the notes changes no row. -/
theorem Succeeds.takeEvents (h : s.Succeeds t) : s.Succeeds t.takeEvents.1 :=
  ⟨h.indexed.takeEvents, h.nextId_le, h.listed, h.forth, h.back⟩

/-- Setting fields of one row, where that is among the things that may become of it. -/
theorem Indexed.succeeds_update (h : s.Indexed) {id : Nat} {p : RowPatch}
    (hu : s.update id p = .ok t) (hp : ∀ r ∈ s.rows, r.id = id → r.Becomes (r.patch p)) :
    s.Succeeds t := by
  obtain ⟨hrows, hnext, hidx⟩ := h.update hu
  have hbecomes : ∀ r ∈ s.rows, r.Becomes (patchAt id p r) := by
    intro r hr
    unfold patchAt
    split
    next hid => exact hp r hr hid
    · exact r.becomes_self
  have hlisting : t.listing = s.listing := by
    rw [listing, hrows, List.map_map]
    refine List.map_congr_left fun r hr => ?_
    have hr := hbecomes r hr
    exact Prod.ext hr.property hr.kind
  refine ⟨hidx, Nat.le_of_eq hnext.symm, ⟨[], by simp [hlisting]⟩, ?_, ?_⟩
  · intro r hr
    exact ⟨_, hrows ▸ List.mem_map_of_mem hr, hbecomes r hr⟩
  · intro r' hr'
    rw [hrows] at hr'
    obtain ⟨r, hr, rfl⟩ := List.mem_map.mp hr'
    exact .inl ⟨r, hr, hbecomes r hr⟩

/-- A value that is set afterwards makes no difference: only the values at load time and the
visibility of rows count. -/
theorem Succeeds.write (h : s.Succeeds t) {id : Nat} {v : Option String}
    (hu : t.update id { value := some v } = .ok u) : s.Succeeds u := by
  obtain ⟨hrows, hnext, hidx⟩ := h.indexed.update hu
  have hbecomes : ∀ r r' : Row, r.Becomes r' → r.Becomes (patchAt id { value := some v } r') := by
    intro r r' hr
    unfold patchAt
    split
    · exact ⟨hr.id, hr.property, hr.kind, hr.course⟩
    · exact hr
  have hlisting : u.listing = t.listing := by
    rw [listing, hrows, List.map_map]
    refine List.map_congr_left fun r _ => ?_
    have hr := hbecomes r r r.becomes_self
    exact Prod.ext hr.property hr.kind
  refine ⟨hidx, hnext ▸ h.nextId_le, hlisting ▸ h.listed, ?_, ?_⟩
  · intro r hr
    obtain ⟨r', hr', hrr'⟩ := h.forth r hr
    exact ⟨_, hrows ▸ List.mem_map_of_mem hr', hbecomes r r' hrr'⟩
  · intro r'' hr''
    rw [hrows] at hr''
    obtain ⟨r', hr', rfl⟩ := List.mem_map.mp hr''
    rcases h.back r' hr' with ⟨r, hr, hrr'⟩ | ⟨hnone, hnew⟩
    · exact .inl ⟨r, hr, hbecomes r r' hrr'⟩
    · right
      unfold patchAt
      split
      · exact ⟨hnone, hnew⟩
      · exact ⟨hnone, hnew⟩

/-- Appending a row without a value. -/
theorem Indexed.succeeds_add (h : s.Indexed) {name : String} {id : Nat}
    (ha : s.add (.loaded name name none .userDefined) = .ok (t, id)) : s.Succeeds t := by
  obtain ⟨_, hnew, hrows, hnext, hidx⟩ := h.add ha
  refine ⟨hidx, by omega, ⟨[name], by simp [listing, hrows, NewRow.loaded, NewRow.withId]⟩, ?_, ?_⟩
  · intro r hr
    exact ⟨r, by simp [hrows, hr], r.becomes_self⟩
  · intro r' hr'
    rw [hrows, List.mem_append, List.mem_singleton] at hr'
    rcases hr' with hr' | rfl
    · exact .inl ⟨r', hr', r'.becomes_self⟩
    · exact .inr ⟨rfl, hnew⟩

/-! ## What a call does to a store -/

/-- What a call makes of a store: it hides a row of the user, brings a hidden one back reset, or
appends one, if it does any of these, and sets values after that. The notes may be taken at any
time. -/
inductive Revised (s : RowStore) : RowStore → Prop
  | kept : Revised s s
  | hid {id : Nat} {r : Row} {t : RowStore} :
      s.findById? id = some r → r.kind = .userDefined →
      s.update id { hidden := some true } = .ok t → Revised s t
  | restored {name : String} {r : Row} {t : RowStore} :
      s.findByName? name = some r → r.hidden →
      s.update r.id { hidden := some false, value := some none, previousValue := some none } =
        .ok t → Revised s t
  | appended {name : String} {t : RowStore} {id : Nat} :
      s.add (.loaded name name none .userDefined) = .ok (t, id) → Revised s t
  | wrote {t u : RowStore} {id : Nat} {v : Option String} :
      Revised s t → t.update id { value := some v } = .ok u → Revised s u
  | noted {t : RowStore} : Revised s t → Revised s t.takeEvents.1

theorem Revised.succeeds (ht : s.Revised t) (h : s.Indexed) : s.Succeeds t := by
  induction ht with
  | kept => exact h.succeeds_self
  | hid _ _ hu => exact h.succeeds_update hu fun r _ _ => ⟨rfl, rfl, rfl, .inl ⟨rfl, fun _ => rfl⟩⟩
  | restored hfound hhidden hu =>
    refine h.succeeds_update hu fun r hr hid => ?_
    -- the row of this id is the one that was found by name
    rw [h.eq_of_id_eq hr (h.findByName?_eq_some_iff.mp hfound).1 hid]
    exact ⟨rfl, rfl, rfl, .inr ⟨hhidden, rfl, rfl⟩⟩
  | appended ha => exact h.succeeds_add ha
  | wrote _ hu ih => exact ih.write hu
  | noted _ ih => exact ih.takeEvents

theorem Revised.indexed (ht : s.Revised t) (h : s.Indexed) : t.Indexed := (ht.succeeds h).indexed

end RowStore

/-! ## Rows of a sheet -/

namespace Sheet

open RowStore

variable {b : RowStore} {s : Sheet}

@[simp]
theorem store_sync (s : Sheet) : s.sync.store = s.store.takeEvents.1 := rfl

/-- Setting fields patches the row of an id, and no other. -/
theorem rows_updateRow (hidx : s.store.Indexed) (id : Nat) (p : RowPatch) :
    (s.updateRow id p).rows = s.rows.map (patchAt id p) := by
  unfold updateRow
  split
  next store hu => exact (hidx.update hu).1
  next e hu =>
    -- it fails only where no row has the id
    refine (hidx.map_patchAt_of_none ?_ p).symm
    cases hr : s.store.findById? id with
    | none => rfl
    | some r =>
      obtain ⟨store, hstored⟩ := exists_update hr p
      cases hu.symm.trans hstored

theorem revised_updateRow (h : b.Revised s.store) (id : Nat) (v : Option String) :
    b.Revised (s.updateRow id { value := some v }).store := by
  unfold updateRow
  split
  next hu => exact h.wrote hu
  · exact h

theorem revised_saveRow (h : b.Revised s.store) : b.Revised s.saveRow.store := by
  unfold saveRow
  split
  · exact h
  next e _ =>
    rw [store_sync]
    refine .noted ?_
    split
    · exact revised_updateRow (s := s.cancelEdit) h _ _
    · exact h

theorem revised_openEditor (h : b.Revised s.store) (id : Nat) :
    b.Revised (s.openEditor id).store := by
  have hsaved := revised_saveRow h
  unfold openEditor
  dsimp only
  split
  · exact hsaved
  · split
    · exact hsaved
    · exact hsaved

theorem revised_activate (h : b.Revised s.store) : b.Revised s.activate.store := by
  unfold activate
  split
  · exact h
  · split
    · split
      · exact h
      · exact h
    · exact revised_openEditor h _

/-- Hiding a row, which the user has added. -/
theorem revised_deleteSelected (s : Sheet) : s.store.Revised s.deleteSelected.1.store := by
  unfold deleteSelected
  split
  · exact .kept
  · split
    · exact .kept
    next id _ =>
      split
      · exact .kept
      next hkind =>
        obtain ⟨r, hr, huser⟩ := Option.map_eq_some_iff.mp (Decidable.not_not.mp hkind)
        dsimp only
        have hstore : (if s.editor.map (·.rowId) = some id then s.cancelEdit else s).store =
            s.store := by
          split <;> rfl
        rw [hstore]
        split
        · rw [hstore]
          exact .kept
        next store hu => exact .noted (.hid hr huser hu)

theorem revised_openNamePrompt (h : b.Revised s.store) : b.Revised s.openNamePrompt.1.store := by
  unfold openNamePrompt
  split
  · exact h
  · exact revised_saveRow h

theorem revised_goToService (h : b.Revised s.store) : b.Revised s.goToService.1.store := by
  unfold goToService
  split
  · exact h
  · split
    · split
      · exact h
      · exact revised_saveRow h
    · exact h

theorem store_showTooltip (s : Sheet) : s.showTooltip.1.store = s.store := by
  unfold showTooltip
  split
  · rfl
  · split <;> rfl

/-- Bringing a hidden row back. -/
theorem revised_addProperty (s : Sheet) (name : String) :
    s.store.Revised (s.addProperty name).store := by
  unfold addProperty
  dsimp only
  split
  · exact .kept
  · split
    next r hr =>
      split
      next hhidden =>
        split
        · exact .kept
        next store hu => exact revised_openEditor (.noted (.restored hr hhidden hu)) _
      · exact .kept
    · exact .kept

/-! ## Keys -/

theorem revised_handleEditorKey (h : b.Revised s.store) (e : CellEditor) (k : Key) :
    b.Revised (s.handleEditorKey e k).store := by
  unfold handleEditorKey
  dsimp only
  split
  · exact revised_saveRow (s := { s with editor := some (e.handleKey k).1 }) h
  · exact h
  · exact h
  · exact h
  · exact h

theorem revised_handlePromptKey (s : Sheet) (p : NamePrompt) (k : Key) :
    s.store.Revised (s.handlePromptKey p k).store := by
  unfold handlePromptKey
  dsimp only
  split
  next name _ =>
    exact revised_addProperty { s with dialog := some (.namePrompt (p.handleKey k).1) } name
  · exact .kept
  · exact .kept
  · exact .kept

@[simp]
theorem store_handleCreationKey (s : Sheet) (d : ServiceDialog) (k : Key) :
    (s.handleCreationKey d k).store = s.store := by
  unfold handleCreationKey
  dsimp only
  split <;> rfl

theorem revised_handleDialogKey (s : Sheet) (d : Dialog) (k : Key) :
    s.store.Revised (s.handleDialogKey d k).store := by
  cases d with
  | namePrompt p => exact s.revised_handlePromptKey p k
  | createService d =>
    rw [handleDialogKey, store_handleCreationKey]
    exact .kept
  | detail d =>
    rw [handleDialogKey]
    split
    · exact .kept
    · exact .kept
  | tooltip t => exact .kept

theorem revised_handleGridKey (s : Sheet) (k : Key) :
    s.store.Revised (s.handleGridKey k).1.store := by
  have hmove := s.gridMove_handleGridKey k
  generalize (s.handleGridKey k).1 = t at hmove ⊢
  cases hmove with
  | select view => exact .kept
  | activate => exact revised_activate .kept
  | delete => exact s.revised_deleteSelected
  | prompt => exact revised_openNamePrompt .kept
  | follow => exact revised_goToService .kept
  | tell =>
    rw [store_showTooltip]
    exact .kept

theorem revised_handleKey (s : Sheet) (k : Key) : s.store.Revised (s.handleKey k).1.store := by
  unfold handleKey
  split
  · exact .kept
  · split
    · exact .kept
    · split
      next d _ => exact s.revised_handleDialogKey d k
      · split
        next e _ => exact revised_handleEditorKey .kept e k
        · exact s.revised_handleGridKey k

/-! ## Responses -/

theorem revised_propertyResolved (s : Sheet) (name : String) (d : Descriptor) :
    s.store.Revised (s.propertyResolved name d).store := by
  unfold propertyResolved
  dsimp only
  split
  · exact .kept
  · split
    · exact .kept
    next store id ha => exact revised_openEditor (.noted (.appended ha)) id

@[simp]
theorem store_typesListed (s : Sheet) (types : List ServiceType) :
    (s.typesListed types).store = s.store := by
  unfold typesListed
  split
  · rfl
  · split <;> rfl

@[simp]
theorem store_serviceCreated (s : Sheet) (service : Service) :
    (s.serviceCreated service).store = s.store := by
  unfold serviceCreated
  split <;> rfl

theorem revised_descriptorRefreshed (s : Sheet) (rowId : Nat) (serviceId : String)
    (d : Descriptor) : s.store.Revised (s.descriptorRefreshed rowId serviceId d).store := by
  unfold descriptorRefreshed
  dsimp only
  split
  · exact .kept
  next r _ =>
    rw [store_sync]
    exact .noted (revised_updateRow (s := { s.closeCreation with
      descriptors := s.closeCreation.descriptors.insert r.property d }) .kept _ _)

theorem revised_settle (s : Sheet) (p : Purpose) (r : Response) :
    s.store.Revised (s.settle p r).store := by
  unfold settle
  split
  · exact s.revised_propertyResolved _ _
  · exact .kept
  · rw [store_typesListed]
    exact .kept
  · exact .kept
  · rw [store_serviceCreated]
    exact .kept
  · exact .kept
  · exact s.revised_descriptorRefreshed _ _ _
  · exact .kept
  next service =>
    cases service with
    | none => exact .kept
    | some service => exact .kept
  · exact .kept
  · exact .kept

/-! ## All operations -/

/-- What each call does to the rows, unless it empties the sheet. -/
theorem revised_apply (s : Sheet) {op : Operation} (hop : op.empties = false) :
    s.store.Revised (s.apply op).store := by
  cases op with
  | load values descriptors histories => cases hop
  | clear => cases hop
  | destroy => cases hop
  | saveRow => exact revised_saveRow .kept
  | cancelEdit => exact .kept
  | resize area => exact .kept
  | setGroup groupId => exact .kept
  | select property =>
    rw [apply, select]
    split
    · exact .kept
    · exact .kept
  | activate => exact revised_activate .kept
  | deleteSelected => exact s.revised_deleteSelected
  | goToService => exact revised_goToService .kept
  | showTooltip =>
    rw [apply, store_showTooltip]
    exact .kept
  | openNamePrompt => exact revised_openNamePrompt .kept
  | addProperty name => exact s.revised_addProperty name
  | takeRequests => exact .kept
  | takeEvents => exact .kept
  | handleKey k => exact s.revised_handleKey k
  | complete r =>
    rw [apply, complete]
    split
    · exact .kept
    next p _ => exact revised_settle { s with pending := s.pending.erase r.token } p r

theorem succeeds_apply (h : s.store.Indexed) {op : Operation} (hop : op.empties = false) :
    s.store.Succeeds (s.apply op).store := (s.revised_apply hop).succeeds h

/-- A load leaves the emptied sheet, or the rows of its list. -/
theorem load_cases (s : Sheet) (values : List (String × Option String))
    (descriptors : Descriptors) (histories : Histories) :
    (∃ e, s.load values descriptors histories = (s.clear, .error e)) ∨
    (s.load values descriptors histories).2 = .ok () ∧
      (s.load values descriptors histories).1.store.Indexed ∧
      s.store.nextId ≤ (s.load values descriptors histories).1.store.nextId ∧
      (s.load values descriptors histories).1.store.rows =
        numbered s.store.nextId (values.map fun v => loadedRow descriptors v.1 v.2) := by
  unfold load
  dsimp only
  split
  next e _ => exact .inl ⟨e, rfl⟩
  next store hstore =>
    obtain ⟨hrows, hle, hidx⟩ := indexed_replaceAll hstore
    have hclear : s.clear.store.nextId = s.store.nextId := nextId_clear s.store
    rw [hclear] at hrows hle
    exact .inr ⟨rfl, hidx.takeEvents, hle, hrows⟩

/-- A call that empties the sheet leaves indexes that agree with the rows, and does not set the
counter of ids back. -/
theorem indexed_apply_of_empties (s : Sheet) {op : Operation} (hop : op.empties) :
    (s.apply op).store.Indexed ∧ s.store.nextId ≤ (s.apply op).store.nextId := by
  have hidx : s.clear.store.Indexed := (indexed_clear s.store).takeEvents
  have hle : s.store.nextId ≤ s.clear.store.nextId := Nat.le_of_eq (nextId_clear s.store).symm
  cases op with
  | load values descriptors histories =>
    rcases s.load_cases values descriptors histories with ⟨e, hload⟩ | ⟨_, hidx, hle, _⟩
    · rw [apply, hload]
      exact ⟨hidx, hle⟩
    · exact ⟨hidx, hle⟩
  | clear => exact ⟨hidx, hle⟩
  | destroy => exact ⟨hidx, hle⟩
  | _ => cases hop

theorem indexed_apply (h : s.store.Indexed) (op : Operation) : (s.apply op).store.Indexed := by
  cases hop : op.empties with
  | false => exact (succeeds_apply h hop).indexed
  | true => exact (s.indexed_apply_of_empties hop).1

/-- Ids of rows are never given out again. -/
theorem nextId_le_apply (h : s.store.Indexed) (op : Operation) :
    s.store.nextId ≤ (s.apply op).store.nextId := by
  cases hop : op.empties with
  | false => exact (succeeds_apply h hop).nextId_le
  | true => exact (s.indexed_apply_of_empties hop).2

theorem indexed_run (h : s.store.Indexed) (ops : List Operation) : (s.run ops).store.Indexed :=
  run_invariant (P := fun s => s.store.Indexed) (fun _ op h => indexed_apply h op) h ops

end Sheet

end PropertySheet
