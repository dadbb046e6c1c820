import PropertySheet.Proofs.Sheet.Adding
import PropertySheet.Proofs.Sheet.Failures
import PropertySheet.Proofs.Sheet.Transactions

/-!
# What a successful request changes

A response comes while the user does something else, so what it changes besides its own matter is of
interest. Most responses concern a dialog or the application alone (`SameTable`). The one that ends
the creation of a service writes the service into its row (`descriptorRefreshed_of_some`), and the
one that lets a property be added appends the row and opens an editor on it. Only the latter can
change a row that nobody asked about: an editor that is open is committed to make room
(`propertyResolved_of_none`).

`success_is_exact` says so for every state and every response of the right kind.
-/

namespace PropertySheet

open RowStore

namespace Sheet

variable {s u : Sheet}

/-! ## Responses that leave the table alone -/

/-- The rows, what is known of them, the grid and the editor are the same. The dialog, the notice
and what is waited for may differ. -/
def SameTable (s u : Sheet) : Prop :=
  u = { s with
    dialog := u.dialog, notice := u.notice, nextToken := u.nextToken, pending := u.pending,
    requests := u.requests, events := u.events }

theorem sameTable_typesListed (s : Sheet) (types : List ServiceType) :
    s.SameTable (s.typesListed types) := by
  unfold typesListed
  split
  · rfl
  · split
    · rfl
    · rfl

theorem sameTable_serviceCreated (s : Sheet) (service : Service) :
    s.SameTable (s.serviceCreated service) := by
  unfold serviceCreated
  split
  · rfl
  · rfl

theorem sameTable_serviceLocated (s : Sheet) (service : Option Service) :
    s.SameTable (s.serviceLocated service) := by
  cases service with
  | none => rfl
  | some service => rfl

/-! ## The response that ends the creation of a service -/

/-- A row that is gone takes no service. -/
theorem descriptorRefreshed_of_none {rowId : Nat} (hnone : s.store.findById? rowId = none)
    (id : String) (d : Descriptor) : s.SameTable (s.descriptorRefreshed rowId id d) := by
  have hfind : s.closeCreation.store.findById? rowId = none := hnone
  simp only [descriptorRefreshed, hfind]
  rfl

/-- The row takes the service, and its property the new descriptor. -/
theorem descriptorRefreshed_of_some (hidx : s.store.Indexed) {rowId : Nat} {row : Row}
    (hrow : s.store.findById? rowId = some row) (id : String) (d : Descriptor) :
    let u := s.descriptorRefreshed rowId id d
    u = { s with
      descriptors := s.descriptors.insert row.property d, store := u.store, view := u.view,
      dialog := u.dialog, pending := u.pending } ∧
    u.rows = s.rows.map fun r => if r.id = rowId then { r with value := some id } else r := by
  intro u
  have hfind : s.closeCreation.store.findById? rowId = some row := hrow
  have hu : u = (updateRow
      { s.closeCreation with descriptors := s.descriptors.insert row.property d }
      rowId { value := some (some id) }).sync := by
    simp only [u, descriptorRefreshed, hfind]
    rfl
  clear_value u
  refine ⟨?_, ?_⟩
  · rw [hu]
    unfold updateRow
    split
    · rfl
    · rfl
  · rw [hu]
    exact rows_updateRow (s := { s.closeCreation with
      descriptors := s.descriptors.insert row.property d }) hidx rowId _

/-! ## The response that lets a property be added -/

/-- The row of a property that the user has just added. -/
def addedRow (s : Sheet) (name : String) : Row :=
  { id := s.store.nextId, property := name, displayName := name, value := none,
    previousValue := none, kind := .userDefined, hidden := false }

/-- A property that has a row by now gets its descriptor, and the row is as it was. -/
theorem propertyResolved_frame_of_some {name : String} {r : Row} (hr : s.findRow? name = some r)
    (d : Descriptor) :
    let u := s.propertyResolved name d
    u = { s with
      descriptors := s.descriptors.insert name d, view := u.view, notice := u.notice,
      pending := u.pending, events := u.events } := by
  have hfind : ({ s with descriptors := s.descriptors.insert name d } : Sheet).findRow? name =
      some r := hr
  simp only [propertyResolved, hfind]
  rfl

/-- An editor opens on a visible row, once the one that was open is committed. -/
theorem openEditor_of_visible {id : Nat} {r : Row} (hr : s.saveRow.store.findById? id = some r)
    (hvisible : r.hidden = false) :
    ∃ anchor, s.openEditor id =
      { s.saveRow with editor := some (.onRow r (s.descriptors.get? r.property) anchor) } := by
  have hdescriptors : s.saveRow.descriptors = s.descriptors := by rw [saveRow_frame]
  simp only [openEditor, hr, hvisible, Bool.false_eq_true, if_false, hdescriptors]
  exact ⟨_, rfl⟩

/-- A property that has no row gets one, and an editor opens on it. What was open is committed, and
no other row changes. -/
theorem propertyResolved_of_none (hidx : s.store.Indexed) (hedits : s.EditsRow) {name : String}
    (hnone : s.findRow? name = none) (d : Descriptor) :
    let u := s.propertyResolved name d
    u = { s with
      descriptors := s.descriptors.insert name d, store := u.store, view := u.view,
      editor := u.editor, pending := u.pending } ∧
    u.rows = s.rows.map s.committed ++ [s.addedRow name] ∧
    ∃ anchor, u.editor = some (.onRow (s.addedRow name) (some d) anchor) := by
  intro u
  obtain ⟨store, ha⟩ := exists_add (r := .loaded name name none .userDefined) hnone
  obtain ⟨-, -, hrows, -, hidx'⟩ := hidx.add ha
  -- the sheet with the row, right before the editor opens
  let v := (sync { s with descriptors := s.descriptors.insert name d, store }).selectId
    s.store.nextId
  have hu : u = v.openEditor s.store.nextId := by
    have hfind : ({ s with descriptors := s.descriptors.insert name d } : Sheet).findRow? name =
        none := hnone
    simp only [u, propertyResolved, hfind, ha]
    rfl
  have hv : v.store.Indexed := hidx'.takeEvents
  have hvrows : v.rows = s.rows ++ [s.addedRow name] := hrows
  have hcommitted : v.committed = s.committed := rfl
  -- the editor that was open is on a row of before, so the commit leaves the new row alone
  have hnew : s.committed (s.addedRow name) = s.addedRow name := by
    cases he : s.editor with
    | none => simp [committed, he]
    | some e =>
      obtain ⟨r, hr, hid, -⟩ := (propertyOf?_eq_some_iff hidx).mp (hedits e he)
      have hfresh : s.store.nextId ≠ e.rowId := by
        have := hidx.fresh r hr
        omega
      rw [committed_of_editor he, if_neg fun h => hfresh h.1]
  have hsaved : v.saveRow.rows = s.rows.map s.committed ++ [s.addedRow name] := by
    rw [rows_saveRow hv, hvrows, hcommitted, List.map_append, List.map_singleton, hnew]
  have hfound : v.saveRow.store.findById? s.store.nextId = some (s.addedRow name) := by
    refine ((revised_saveRow .kept).indexed hv).findById?_eq_some_iff.mpr ⟨?_, rfl⟩
    show _ ∈ v.saveRow.rows
    simp [hsaved]
  obtain ⟨anchor, hopened⟩ := openEditor_of_visible hfound rfl
  have hknown : v.descriptors.get? (s.addedRow name).property = some d := by
    show (s.descriptors.insert name d).get? name = some d
    rw [SortedMap.get?_insert, if_pos rfl]
  rw [hknown] at hopened
  have hframe := v.saveRow_frame
  refine ⟨?_, ?_, anchor, ?_⟩
  · rw [hu, hopened, hframe]
    rfl
  · rw [hu, hopened]
    exact hsaved
  · rw [hu, hopened]

/-! ## All successful responses -/

/-- A successful response that a request for a descriptor calls for brings one. -/
theorem eq_descriptor_of_success {r : Response} {p : Purpose} (hfits : p.expects r)
    (hok : r.failure? = none)
    (hp : (∃ rowId id, p = .refreshDescriptor rowId id) ∨ ∃ name, p = .addProperty name) :
    ∃ t d, r = .descriptor t (.ok d) := by
  cases r with
  | descriptor t result =>
    cases result with
    | ok d => exact ⟨t, d, rfl⟩
    | error e => cases hok
  | serviceTypes t result | serviceCreated t result | serviceLocated t result =>
    obtain ⟨rowId, id, rfl⟩ | ⟨name, rfl⟩ := hp
    · cases hfits
    · cases hfits

/-- Every other successful response leaves the table alone. -/
theorem sameTable_complete {r : Response} {p : Purpose} (hp : s.pending.get? r.token = some p)
    (hfits : p.expects r) (hok : r.failure? = none)
    (hother : p = .serviceTypes ∨ p = .createService ∨ p = .goToService) :
    s.SameTable (s.complete r) := by
  rw [complete, hp]
  rcases hother with rfl | rfl | rfl
  · cases r with
    | serviceTypes t result =>
      cases result with
      | ok types => exact sameTable_typesListed { s with pending := s.pending.erase t } types
      | error e => cases hok
    | _ => cases hfits
  · cases r with
    | serviceCreated t result =>
      cases result with
      | ok service => exact sameTable_serviceCreated { s with pending := s.pending.erase t } service
      | error e => cases hok
    | _ => cases hfits
  · cases r with
    | serviceLocated t result =>
      cases result with
      | ok service => exact sameTable_serviceLocated { s with pending := s.pending.erase t } service
      | error e => cases hok
    | _ => cases hfits

/-- A commit leaves a row alone, or it sets the value of the row that a changed editor is on. -/
theorem committed_cases (s : Sheet) (r : Row) :
    s.committed r = r ∨ ∃ e, s.editor = some e ∧ r.id = e.rowId ∧ e.commit.dirty ∧
      s.committed r = { r with value := e.commit.value } := by
  cases he : s.editor with
  | none => exact .inl (by rw [committed, he])
  | some e =>
    rw [committed_of_editor he]
    split
    next h => exact .inr ⟨e, rfl, h.1, h.2, rfl⟩
    · exact .inl rfl

/-- In every state that calls and responses lead to, for every response that a pending request calls
for and that is no failure. A list of types, a new service and a located service leave the rows, the
descriptors, the grid and the editor as they are. The descriptor that ends the creation of a service
comes to the property of the row, and the service becomes the value of the row; if the row is gone,
neither happens. The descriptor that lets a property be added comes to the property. If that has a
row, no row changes. If not, a visible row without a value is appended as the user's own, and an
editor opens on it; the one that was open is committed, which changes its row at most, and no other
row and no other field. -/
theorem success_is_exact (config : SheetConfig) (ops : List Operation) {r : Response} {p : Purpose}
    (hp : ((ofConfig config).run ops).pending.get? r.token = some p) (hfits : p.expects r)
    (hok : r.failure? = none) :
    let s := (ofConfig config).run ops
    let u := s.complete r
    (p = .serviceTypes ∨ p = .createService ∨ p = .goToService → s.SameTable u) ∧
    (∀ rowId id, p = .refreshDescriptor rowId id → ∃ t d, r = .descriptor t (.ok d) ∧
      (s.store.findById? rowId = none → s.SameTable u) ∧
      ∀ row, s.store.findById? rowId = some row →
        u = { s with
          descriptors := s.descriptors.insert row.property d, store := u.store, view := u.view,
          dialog := u.dialog, pending := u.pending } ∧
        u.rows = s.rows.map fun r => if r.id = rowId then { r with value := some id } else r) ∧
    (∀ name, p = .addProperty name → ∃ t d, r = .descriptor t (.ok d) ∧
      (∀ row, s.findRow? name = some row →
        u = { s with
          descriptors := s.descriptors.insert name d, view := u.view, notice := u.notice,
          pending := u.pending, events := u.events }) ∧
      (s.findRow? name = none →
        u = { s with
          descriptors := s.descriptors.insert name d, store := u.store, view := u.view,
          editor := u.editor, pending := u.pending } ∧
        u.rows = s.rows.map s.committed ++ [s.addedRow name] ∧
        ∃ anchor, u.editor = some (.onRow (s.addedRow name) (some d) anchor))) ∧
    ∀ row, s.committed row = row ∨ ∃ e, s.editor = some e ∧ row.id = e.rowId ∧ e.commit.dirty ∧
      s.committed row = { row with value := e.commit.value } := by
  intro s u
  have hidx : s.store.Indexed := indexed_run (s := ofConfig config) RowStore.indexed_empty ops
  refine ⟨fun hother => sameTable_complete hp hfits hok hother, ?_, ?_, s.committed_cases⟩
  · rintro rowId id rfl
    obtain ⟨t, d, rfl⟩ := eq_descriptor_of_success hfits hok (.inl ⟨rowId, id, rfl⟩)
    have hu : u =
        ({ s with pending := s.pending.erase t } : Sheet).descriptorRefreshed rowId id d :=
      complete_of_refreshDescriptor hp d
    rw [hu]
    refine ⟨t, d, rfl, fun hnone => ?_, fun row hrow => ?_⟩
    · exact descriptorRefreshed_of_none (s := { s with pending := s.pending.erase t }) hnone id d
    · exact descriptorRefreshed_of_some (s := { s with pending := s.pending.erase t }) hidx hrow
        id d
  · rintro name rfl
    obtain ⟨t, d, rfl⟩ := eq_descriptor_of_success hfits hok (.inr ⟨name, rfl⟩)
    have hu : u = ({ s with pending := s.pending.erase t } : Sheet).propertyResolved name d :=
      complete_of_addProperty hp d
    have hedits : ({ s with pending := s.pending.erase t } : Sheet).EditsRow :=
      editsRow_run config ops
    rw [hu]
    refine ⟨t, d, rfl, fun row hrow => ?_, fun hnone => ?_⟩
    · exact propertyResolved_frame_of_some (s := { s with pending := s.pending.erase t }) hrow d
    · exact propertyResolved_of_none (s := { s with pending := s.pending.erase t }) hidx hedits
        hnone d

/-- A property is asked for, and the value of another one is edited before the response. -/
def editingMeanwhileRun : List Operation := [
  .load [("Name", some "old")] (.ofList [("Name", { name := "Name" })]) .empty,
  .addProperty "x",
  .handleKey { code := .enter },
  .handleKey { code := .char 'u', control := true },
  .handleKey { code := .char 'n' }]

/-- The row comes, and the value that was being typed is stored. -/
theorem success_is_exact_editingMeanwhileRun :
    let s := (ofConfig {}).run editingMeanwhileRun
    let u := s.complete (.descriptor 0 (.ok { name := "x" }))
    s.pending.get? 0 = some (.addProperty "x") ∧ s.findRow? "x" = none ∧
    u.rows = s.rows.map s.committed ++ [s.addedRow "x"] ∧
    (∃ anchor, u.editor = some (.onRow (s.addedRow "x") (some { name := "x" }) anchor)) ∧
    s.rows.map (·.value) = [some "old"] ∧ u.rows.map (·.value) = [some "n", none] := by
  intro s u
  have hp : s.pending.get? 0 = some (.addProperty "x") := by decide +kernel
  have hnone : s.findRow? "x" = none := by decide +kernel
  obtain ⟨-, -, hadds, -⟩ := success_is_exact {} editingMeanwhileRun
    (r := .descriptor 0 (.ok { name := "x" })) hp rfl rfl
  obtain ⟨t, d, hr, -, hadded⟩ := hadds "x" rfl
  obtain ⟨rfl, hd⟩ := Response.descriptor.inj hr
  obtain rfl := Except.ok.inj hd
  obtain ⟨-, hrows, hopened⟩ := hadded hnone
  exact ⟨hp, hnone, hrows, hopened, by decide +kernel, by decide +kernel⟩

end Sheet

end PropertySheet
