import Mathlib.Logic.Relation
import PropertySheet.Proofs.GridView.Following
import PropertySheet.Proofs.Sheet.Rows

/-!
# What operations do to the grid of a sheet

The grid is drawn from the rows, the view and the descriptors, together a `Pane`. Every call takes
the pane through few kinds of steps: it moves the selection, takes a new area, lets the view follow
the rows, or changes rows or descriptors. `Pane.Step` lists them, and `course_apply` says that each
call is a sequence of such steps.

Most steps that change rows or descriptors let the view follow them at once. The exception is a step
that learns the descriptor of a property without formatting anything. That is no loss while the
property has no row. `Pane.Step` takes as a parameter for which properties it may happen in spite of
a row, and `retold?` says when a call does it.
-/

namespace PropertySheet

open RowStore

/-- The part of a sheet that its grid is drawn from. -/
structure Pane where
  store : RowStore
  view : GridView
  descriptors : Descriptors
  options : MarkupOptions

namespace Pane

/-- Let the view follow the rows. -/
def sync (p : Pane) : Pane :=
  { p with
    store := (p.view.sync p.store p.descriptors p.options).2
    view := (p.view.sync p.store p.descriptors p.options).1 }

/-- One step of a pane. The properties of `retold` may get a new descriptor while they have a row,
without that row being formatted. -/
inductive Step (retold : String → Prop) (p : Pane) : Pane → Prop
  | select (place : Nat) : Step retold p { p with view := p.view.selecting place }
  | resize (area : Rect) :
      Step retold p { p with view := p.view.resize area p.store p.descriptors p.options }
  | follow : Step retold p p.sync
  | write {id : Nat} {patch : RowPatch} {store : RowStore} :
      p.store.update id patch = .ok store → Step retold p ({ p with store } : Pane).sync
  | append {new : NewRow} {store : RowStore} {id : Nat} :
      p.store.add new = .ok (store, id) → Step retold p ({ p with store } : Pane).sync
  | learn {name : String} (d : Descriptor) :
      (∀ r, p.store.findByName? name = some r → retold name) →
      Step retold p { p with descriptors := p.descriptors.insert name d }
  | assign {r : Row} {patch : RowPatch} {store : RowStore} (d : Descriptor) :
      r ∈ p.store.rows → p.store.update r.id patch = .ok store →
      Step retold p
        ({ p with store, descriptors := p.descriptors.insert r.property d } : Pane).sync
  | empty :
      Step retold p
        { p with
          store := p.store.clear.takeEvents.1
          view := p.view.reset
          descriptors := .empty }
  | fill {rows : List NewRow} {store : RowStore} (descriptors : Descriptors) :
      p.store.rows = [] → p.store.replaceAll rows = .ok store →
      Step retold p ({ p with store, descriptors } : Pane).sync

/-- Any number of steps. -/
abbrev Course (retold : String → Prop) : Pane → Pane → Prop :=
  Relation.ReflTransGen (Step retold)

end Pane

namespace Sheet

/-- The part of the sheet that its grid is drawn from. -/
def pane (s : Sheet) : Pane := ⟨s.store, s.view, s.descriptors, s.markupOptions⟩

open Pane

variable {retold : String → Prop} {p : Pane} {s : Sheet}

/-! ## Rows, selection and editors -/

theorem course_sync (h : Course retold p s.pane) : Course retold p s.sync.pane :=
  h.tail .follow

theorem course_selectId (h : Course retold p s.pane) (id : Nat) :
    Course retold p (s.selectId id).pane := by
  rw [selectId]
  rcases s.view.trySelect_cases id with hsame | ⟨place, hplace⟩
  · rw [hsame]
    exact h
  · rw [hplace]
    exact h.tail (.select place)

/-- Setting fields of a row and letting the grid follow; without the row only the latter. -/
theorem course_updateRow (h : Course retold p s.pane) (id : Nat) (patch : RowPatch) :
    Course retold p (s.updateRow id patch).sync.pane := by
  rw [updateRow]
  split
  next store hu => exact h.tail (.write hu)
  · exact course_sync h

theorem course_saveRow (h : Course retold p s.pane) : Course retold p s.saveRow.pane := by
  unfold saveRow
  split
  · exact h
  next e _ =>
    have hclosed : Course retold p s.cancelEdit.pane := h
    show Course retold p (if e.commit.dirty then
      s.cancelEdit.updateRow e.rowId { value := some e.commit.value } else s.cancelEdit).sync.pane
    split
    · exact course_updateRow hclosed _ _
    · exact course_sync hclosed

theorem course_openEditor (h : Course retold p s.pane) (id : Nat) :
    Course retold p (s.openEditor id).pane := by
  have hsaved := course_saveRow h
  unfold openEditor
  dsimp only
  split
  · exact hsaved
  · split
    · exact hsaved
    · exact hsaved

theorem course_activate (h : Course retold p s.pane) : Course retold p s.activate.pane := by
  unfold activate
  split
  · exact h
  · split
    · split
      · exact h
      · exact h
    · exact course_openEditor h _

theorem course_deleteSelected (h : Course retold p s.pane) :
    Course retold p s.deleteSelected.1.pane := by
  unfold deleteSelected
  split
  · exact h
  · split
    · exact h
    next id _ =>
      split
      · exact h
      · dsimp only
        have hpane : (if s.editor.map (·.rowId) = some id then s.cancelEdit else s).pane =
            s.pane := by
          split <;> rfl
        generalize (if s.editor.map (·.rowId) = some id then s.cancelEdit else s) = t at hpane ⊢
        rw [← hpane] at h
        split
        · exact h
        next store hu => exact h.tail (.write hu)

/-! ## What a sheet asks for -/

theorem course_openNamePrompt (h : Course retold p s.pane) :
    Course retold p s.openNamePrompt.1.pane := by
  unfold openNamePrompt
  split
  · exact h
  · exact course_saveRow h

theorem course_addProperty (h : Course retold p s.pane) (name : String) :
    Course retold p (s.addProperty name).pane := by
  unfold addProperty
  dsimp only
  split
  · exact h
  · split
    next r _ =>
      split
      · split
        · exact h
        next store hu =>
          have hwritten : Course retold p ({ s with dialog := none, store } : Sheet).sync.pane :=
            h.tail (.write hu)
          exact course_openEditor (course_selectId hwritten r.id) r.id
      · exact course_selectId (s := { s with dialog := none }) h r.id
    · exact h

theorem course_goToService (h : Course retold p s.pane) :
    Course retold p s.goToService.1.pane := by
  unfold goToService
  split
  · exact h
  · split
    · split
      · exact h
      · exact course_saveRow h
    · exact h

theorem course_showTooltip (h : Course retold p s.pane) :
    Course retold p s.showTooltip.1.pane := by
  unfold showTooltip
  split
  · exact h
  · split
    · exact h
    · exact h

/-! ## Keys -/

theorem course_handleEditorKey (h : Course retold p s.pane) (e : CellEditor) (k : Key) :
    Course retold p (s.handleEditorKey e k).pane := by
  unfold handleEditorKey
  dsimp only
  split
  · exact course_saveRow (s := { s with editor := some (e.handleKey k).1 }) h
  · exact h
  · exact h
  · exact h
  · exact h

theorem course_handlePromptKey (h : Course retold p s.pane) (prompt : NamePrompt) (k : Key) :
    Course retold p (s.handlePromptKey prompt k).pane := by
  unfold handlePromptKey
  dsimp only
  split
  next name _ =>
    exact course_addProperty
      (s := { s with dialog := some (.namePrompt (prompt.handleKey k).1) }) h name
  · exact h
  · exact h
  · exact h

theorem pane_handleCreationKey (s : Sheet) (d : ServiceDialog) (k : Key) :
    (s.handleCreationKey d k).pane = s.pane := by
  unfold handleCreationKey
  dsimp only
  split <;> rfl

theorem course_handleDialogKey (h : Course retold p s.pane) (d : Dialog) (k : Key) :
    Course retold p (s.handleDialogKey d k).pane := by
  cases d with
  | namePrompt prompt => exact course_handlePromptKey h prompt k
  | createService d =>
    rw [handleDialogKey, pane_handleCreationKey]
    exact h
  | detail d =>
    rw [handleDialogKey]
    split
    · exact h
    · exact h
  | tooltip t => exact h

theorem course_handleGridKey (h : Course retold p s.pane) (k : Key) :
    Course retold p (s.handleGridKey k).1.pane := by
  have hmove := s.gridMove_handleGridKey k
  generalize (s.handleGridKey k).1 = t at hmove ⊢
  cases hmove with
  | select view hview =>
    rcases hview with rfl | ⟨place, rfl⟩
    · exact h
    · exact h.tail (.select place)
  | activate => exact course_activate h
  | delete => exact course_deleteSelected h
  | prompt => exact course_openNamePrompt h
  | follow => exact course_goToService h
  | tell => exact course_showTooltip h

theorem course_handleKey (h : Course retold p s.pane) (k : Key) :
    Course retold p (s.handleKey k).1.pane := by
  unfold handleKey
  split
  · exact h
  · split
    · exact h
    · split
      next d _ => exact course_handleDialogKey h d k
      · split
        next e _ => exact course_handleEditorKey h e k
        · exact course_handleGridKey h k

/-! ## Responses -/

/-- The descriptor of an added property is learned before its row is there, unless a row has the
name by now. -/
theorem course_propertyResolved (h : Course retold p s.pane) {name : String}
    (hretold : ∀ r, s.findRow? name = some r → retold name) (d : Descriptor) :
    Course retold p (s.propertyResolved name d).pane := by
  have hlearned : Course retold p
      ({ s with descriptors := s.descriptors.insert name d } : Sheet).pane :=
    h.tail (.learn d hretold)
  unfold propertyResolved
  dsimp only
  split
  next r _ => exact course_selectId hlearned r.id
  · split
    · exact hlearned
    next store id ha =>
      refine course_openEditor (course_selectId ?_ id) id
      exact hlearned.tail (.append ha)

theorem pane_typesListed (s : Sheet) (types : List ServiceType) :
    (s.typesListed types).pane = s.pane := by
  unfold typesListed
  split
  · rfl
  · split <;> rfl

theorem pane_serviceCreated (s : Sheet) (service : Service) :
    (s.serviceCreated service).pane = s.pane := by
  unfold serviceCreated
  split <;> rfl

/-- The row of a new service takes its value along with its descriptor. -/
theorem course_descriptorRefreshed (h : Course retold p s.pane) (hidx : s.store.Indexed)
    (rowId : Nat) (serviceId : String) (d : Descriptor) :
    Course retold p (s.descriptorRefreshed rowId serviceId d).pane := by
  unfold descriptorRefreshed
  dsimp only
  split
  · exact h
  next r hr =>
    have hr : s.store.findById? rowId = some r := hr
    obtain ⟨store, hu⟩ := exists_update hr { value := some (some serviceId) }
    obtain ⟨hmem, rfl⟩ := hidx.findById?_eq_some_iff.mp hr
    have hupdated : ({ s.closeCreation with
        descriptors := s.closeCreation.descriptors.insert r.property d } : Sheet).updateRow r.id
          { value := some (some serviceId) } =
        { s.closeCreation with
          store, descriptors := s.closeCreation.descriptors.insert r.property d } := by
      have hu : s.closeCreation.store.update r.id { value := some (some serviceId) } =
        .ok store := hu
      simp only [updateRow, hu]
    rw [hupdated]
    exact h.tail (.assign d hmem hu)

theorem course_settle (h : Course retold p s.pane) (hidx : s.store.Indexed) {purpose : Purpose}
    {response : Response}
    (hretold : ∀ name t d r, purpose = .addProperty name → response = .descriptor t (.ok d) →
      s.findRow? name = some r → retold name) :
    Course retold p (s.settle purpose response).pane := by
  unfold settle
  split
  next name t d => exact course_propertyResolved h (fun r => hretold name t d r rfl rfl) d
  · exact h
  · rw [pane_typesListed]
    exact h
  · exact h
  · rw [pane_serviceCreated]
    exact h
  · exact h
  · exact course_descriptorRefreshed h hidx _ _ _
  · exact h
  next service =>
    cases service with
    | none => exact h
    | some service => exact h
  · exact h
  · exact h

/-! ## All operations -/

theorem course_clear (h : Course retold p s.pane) : Course retold p s.clear.pane :=
  h.tail .empty

theorem course_load (h : Course retold p s.pane) (values : List (String × Option String))
    (descriptors : Descriptors) (histories : Histories) :
    Course retold p (s.load values descriptors histories).1.pane := by
  have hcleared := course_clear h
  unfold load
  dsimp only
  split
  · exact hcleared
  next store hstore =>
    have hempty : s.clear.pane.store.rows = [] := rows_clear s.store
    refine (hcleared.tail (.fill descriptors hempty hstore)).tail ?_
    exact .select 0

/-- The property whose descriptor a call replaces although it has a row, without formatting the row:
two requests to add it were pending, and this is the response to the later one. -/
def retold? (s : Sheet) : Operation → Option String
  | .complete (.descriptor t (.ok _)) =>
    match s.pending.get? t with
    | some (.addProperty name) => if (s.findRow? name).isSome then some name else none
    | _ => none
  | _ => none

/-- A call is a sequence of steps of the pane. -/
theorem course_apply (hidx : s.store.Indexed) (op : Operation) :
    Course (fun name => s.retold? op = some name) s.pane (s.apply op).pane := by
  have hself : Course (fun name => s.retold? op = some name) s.pane s.pane := .refl
  cases op with
  | load values descriptors histories => exact course_load hself _ _ _
  | clear => exact course_clear hself
  | destroy => exact course_clear hself
  | saveRow => exact course_saveRow hself
  | cancelEdit => exact hself
  | resize area => exact hself.tail (.resize area)
  | setGroup groupId => exact hself
  | select property =>
    rw [apply, select]
    split
    next view hview =>
      obtain ⟨r, -, hselect⟩ := Option.bind_eq_some_iff.mp hview
      obtain ⟨place, -, rfl⟩ := Option.map_eq_some_iff.mp hselect
      exact hself.tail (.select place)
    · exact hself
  | activate => exact course_activate hself
  | deleteSelected => exact course_deleteSelected hself
  | goToService => exact course_goToService hself
  | showTooltip => exact course_showTooltip hself
  | openNamePrompt => exact course_openNamePrompt hself
  | addProperty name => exact course_addProperty hself name
  | takeRequests => exact hself
  | takeEvents => exact hself
  | handleKey k => exact course_handleKey hself k
  | complete response =>
    rw [apply, complete]
    split
    · exact hself
    next purpose hpurpose =>
      refine course_settle
        (s := { s with pending := s.pending.erase response.token }) hself hidx ?_
      rintro name t d r rfl rfl hr
      have hr : s.findRow? name = some r := hr
      have hpurpose : s.pending.get? t = some (.addProperty name) := hpurpose
      simp only [retold?, hpurpose, hr, Option.isSome_some, if_true]

end Sheet

end PropertySheet
