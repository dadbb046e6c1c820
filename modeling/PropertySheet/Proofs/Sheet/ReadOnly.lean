import PropertySheet.Proofs.Changes
import PropertySheet.Proofs.Sheet.Departure
import PropertySheet.Proofs.Sheet.Rows
import PropertySheet.Proofs.Sheet.Tokens

/-!
# A read-only sheet does not change

Where a key would edit, a read-only sheet shows something instead. So it never has an editor, a
dialog that edits, or a pending request whose response is written to a row (`Sealed`). `Views` says
what a call may still do to such a sheet: the rows stay, and at most the way to a service is asked
for.

A load leaves every sheet sealed, and each interaction with a read-only one keeps it so. Hence
`unchanged_of_readOnly`: whatever the user does and whatever responses come, the rows are those of
the load. Adding a property past the prompt is no interaction. It asks for a descriptor on a
read-only sheet too.
-/

namespace PropertySheet

/-- Whether a dialog leads to an edit. -/
def Dialog.edits : Dialog → Bool
  | .namePrompt _ | .createService _ => true
  | .detail _ | .tooltip _ => false

/-- A request for the way to a service, with nothing to say about changes. -/
def Request.IsVisit (q : Request) : Prop := ∃ t id, q = .goToService t id none

/-- The calls that neither empty a sheet nor add a property past the prompt. -/
def Operation.isInteraction : Operation → Bool
  | .addProperty _ => false
  | op => !op.empties

namespace Sheet

variable {s t u : Sheet}

/-- Nothing is being edited, nothing that is pending will be written, and no row has a change. -/
structure Sealed (s : Sheet) : Prop where
  editor : s.editor = none
  dialog : ∀ d, s.dialog = some d → d.edits = false
  pending : ∀ t p, s.pending.get? t = some p → p = .goToService
  clean : ∀ r ∈ s.rows, Changes.ofRow r = none

theorem Sealed.get?_changes (h : s.Sealed) (hidx : s.store.Indexed) (name : String) :
    s.changes.get? name = none := by
  by_cases hname : ∃ r ∈ s.rows, r.property = name
  · obtain ⟨r, hr, rfl⟩ := hname
    exact (Changes.get?_ofRows_of_mem hidx.properties_nodup hr).trans (h.clean r hr)
  · refine Changes.get?_ofRows_of_forall_ne fun r hr hproperty => ?_
    exact hname ⟨r, hr, hproperty⟩

/-! ## New, emptied and loaded sheets -/

theorem sealed_ofConfig (config : SheetConfig) : (ofConfig config).Sealed where
  editor := rfl
  dialog := fun _ hd => nomatch hd
  pending := fun _ _ hp => nomatch hp
  clean := fun _ hr => nomatch hr

theorem sealed_clear (s : Sheet) : s.clear.Sealed where
  editor := rfl
  dialog := fun _ hd => nomatch hd
  pending := fun _ _ hp => nomatch hp
  clean := fun r hr => by
    have hnone : s.clear.rows = [] := RowStore.rows_clear s.store
    rw [hnone] at hr
    cases hr

/-- What a load closes and drops, also one that fails. -/
structure Closes (s t : Sheet) : Prop where
  config : t.config = s.config
  editor : t.editor = none
  dialog : t.dialog = none
  pending : t.pending = .empty
  requests : t.requests = []

theorem load_closes (s : Sheet) (values : List (String × Option String))
    (descriptors : Descriptors) (histories : Histories) :
    s.Closes (s.load values descriptors histories).1 := by
  unfold load
  dsimp only
  split
  · exact ⟨rfl, rfl, rfl, rfl, rfl⟩
  · exact ⟨rfl, rfl, rfl, rfl, rfl⟩

/-- A load leaves every row with the value that was loaded. -/
theorem sealed_load (s : Sheet) (values : List (String × Option String))
    (descriptors : Descriptors) (histories : Histories) :
    (s.load values descriptors histories).1.Sealed := by
  have hclosed := s.load_closes values descriptors histories
  refine ⟨hclosed.editor, fun d hd => ?_, fun t p hp => ?_, ?_⟩
  · rw [hclosed.dialog] at hd
    cases hd
  · rw [hclosed.pending] at hp
    cases hp
  · rcases s.load_cases values descriptors histories with ⟨e, hload⟩ | ⟨_, _, _, hrows⟩
    · rw [hload]
      exact s.sealed_clear.clean
    · intro r hr
      rw [rows, hrows] at hr
      obtain ⟨n, hn, id, rfl⟩ := RowStore.mem_numbered hr
      obtain ⟨v, _, rfl⟩ := List.mem_map.mp hn
      simp [Changes.ofRow, loadedRow, NewRow.loaded, NewRow.withId, Row.isDirty]

/-! ## What a call does to a read-only sheet -/

/-- A call that only looks. The rows stay and nothing comes open that edits; what is asked for is
the way to a service. -/
structure Views (s t : Sheet) : Prop where
  config : t.config = s.config
  rows : t.rows = s.rows
  sealed : t.Sealed
  requests : ∀ q ∈ t.requests, q ∈ s.requests ∨ q.IsVisit

theorem Sealed.views_self (h : s.Sealed) : s.Views s := ⟨rfl, rfl, h, fun _ hq => .inl hq⟩

theorem Views.trans (hst : s.Views t) (htu : t.Views u) : s.Views u where
  config := htu.config.trans hst.config
  rows := htu.rows.trans hst.rows
  sealed := htu.sealed
  requests q hq := by
    rcases htu.requests q hq with hq | hvisit
    · exact hst.requests q hq
    · exact .inr hvisit

/-- A dialog that does not edit comes up, or none. -/
theorem Sealed.views_showing (h : s.Sealed) {dialog : Option Dialog}
    (hdialog : ∀ d, dialog = some d → d.edits = false) : s.Views { s with dialog } :=
  { h.views_self with sealed := { h with dialog := hdialog } }

theorem Sealed.views_showTooltip (h : s.Sealed) : s.Views s.showTooltip.1 := by
  unfold Sheet.showTooltip
  split
  · exact h.views_self
  · split
    · exact h.views_self
    · refine h.views_showing fun d hd => ?_
      cases hd
      rfl

theorem Sealed.views_activate (h : s.Sealed) (hread : s.config.readOnly) : s.Views s.activate := by
  unfold Sheet.activate
  split
  · exact h.views_self
  · split
    · split
      · refine h.views_showing fun d hd => ?_
        cases hd
        rfl
      · exact h.views_self
    next hedits => exact absurd hread hedits

theorem deleteSelected_of_readOnly (hread : s.config.readOnly) : s.deleteSelected = (s, false) := by
  rw [deleteSelected, if_pos hread]

theorem openNamePrompt_of_readOnly (hread : s.config.readOnly) : s.openNamePrompt = (s, false) := by
  rw [openNamePrompt, hread, Bool.true_or, if_pos rfl]

theorem Sealed.saveRow_eq (h : s.Sealed) : s.saveRow = s := by
  rw [saveRow, h.editor]

theorem Sealed.views_goToService (h : s.Sealed) (hread : s.config.readOnly) :
    s.Views s.goToService.1 := by
  unfold Sheet.goToService
  split
  · exact h.views_self
  · split
    · split
      · exact h.views_self
      next id _ =>
        dsimp only
        rw [h.saveRow_eq, if_pos hread]
        refine ⟨rfl, rfl, { h with pending := fun t p hp => ?_ }, fun q hq => ?_⟩
        · rw [ask, SortedMap.get?_insert] at hp
          split at hp
          · cases hp
            rfl
          · exact h.pending t p hp
        · rcases List.mem_append.mp hq with hq | hq
          · exact .inl hq
          · exact .inr ⟨s.nextToken, id, List.mem_singleton.mp hq⟩
    · exact h.views_self

/-! ### Keys -/

theorem Sealed.views_handleDialogKey (h : s.Sealed) {d : Dialog} (hd : d.edits = false) (k : Key) :
    s.Views (s.handleDialogKey d k) := by
  have hclosed : s.Views { s with dialog := none } := h.views_showing (by simp)
  cases d with
  | namePrompt p => cases hd
  | createService d => cases hd
  | detail d =>
    rw [Sheet.handleDialogKey]
    split
    · exact hclosed
    · exact h.views_self
  | tooltip t => exact hclosed

theorem Sealed.views_handleGridKey (h : s.Sealed) (hread : s.config.readOnly) (k : Key) :
    s.Views (s.handleGridKey k).1 := by
  have hmove := s.gridMove_handleGridKey k
  generalize (s.handleGridKey k).1 = t at hmove ⊢
  cases hmove with
  | select view => exact { h.views_self with sealed := { h with } }
  | activate => exact h.views_activate hread
  | delete =>
    rw [deleteSelected_of_readOnly hread]
    exact h.views_self
  | prompt =>
    rw [openNamePrompt_of_readOnly hread]
    exact h.views_self
  | follow => exact h.views_goToService hread
  | tell => exact h.views_showTooltip

theorem Sealed.views_handleKey (h : s.Sealed) (hread : s.config.readOnly) (k : Key) :
    s.Views (s.handleKey k).1 := by
  unfold Sheet.handleKey
  split
  · exact h.views_self
  · split
    · exact { h.views_self with sealed := { h with } }
    · split
      next d hd => exact h.views_handleDialogKey (h.dialog d hd) k
      · split
        next e he =>
          rw [h.editor] at he
          cases he
        · exact h.views_handleGridKey hread k

/-! ### Responses -/

/-- Nothing but the way to a service is pending, and that is told to the application only. -/
theorem Sealed.views_complete (h : s.Sealed) (r : Response) : s.Views (s.complete r) := by
  unfold Sheet.complete
  split
  · exact h.views_self
  next p hp =>
    have hsealed : ({ s with pending := s.pending.erase r.token } : Sheet).Sealed := by
      refine { h with pending := fun t p' hp' => ?_ }
      rw [SortedMap.get?_erase] at hp'
      split at hp'
      · cases hp'
      · exact h.pending t p' hp'
    have hanswered : s.Views { s with pending := s.pending.erase r.token } :=
      { h.views_self with sealed := hsealed }
    obtain rfl := h.pending _ p hp
    cases r with
    | descriptor token result => exact hanswered
    | serviceTypes token result => exact hanswered
    | serviceCreated token result => exact hanswered
    | serviceLocated token result =>
      cases result with
      | error e => exact { hanswered with sealed := { hsealed with } }
      | ok service =>
        cases service with
        | none => exact hanswered
        | some service => exact { hanswered with sealed := { hsealed with } }

/-! ### All interactions -/

theorem Sealed.views_apply (h : s.Sealed) (hread : s.config.readOnly) {op : Operation}
    (hop : op.isInteraction) : s.Views (s.apply op) := by
  cases op with
  | load values descriptors histories => cases hop
  | clear => cases hop
  | destroy => cases hop
  | addProperty name => cases hop
  | saveRow =>
    rw [apply, h.saveRow_eq]
    exact h.views_self
  | cancelEdit => exact { h.views_self with sealed := { h with editor := rfl } }
  | resize area => exact { h.views_self with sealed := { h with } }
  | setGroup groupId => exact { h.views_self with sealed := { h with } }
  | select property =>
    rw [apply, select]
    split
    · exact { h.views_self with sealed := { h with } }
    · exact h.views_self
  | activate => exact h.views_activate hread
  | deleteSelected =>
    rw [apply, deleteSelected_of_readOnly hread]
    exact h.views_self
  | goToService => exact h.views_goToService hread
  | showTooltip => exact h.views_showTooltip
  | openNamePrompt =>
    rw [apply, openNamePrompt_of_readOnly hread]
    exact h.views_self
  | takeRequests =>
    refine { h.views_self with sealed := { h with }, requests := ?_ }
    exact fun _ hq => absurd hq List.not_mem_nil
  | takeEvents => exact { h.views_self with sealed := { h with } }
  | handleKey k => exact h.views_handleKey hread k
  | complete r => exact h.views_complete r

theorem Sealed.views_run (h : s.Sealed) (hread : s.config.readOnly) {ops : List Operation}
    (hops : ∀ op ∈ ops, op.isInteraction) : s.Views (s.run ops) := by
  induction ops generalizing s with
  | nil => exact h.views_self
  | cons op ops ih =>
    obtain ⟨hop, hops⟩ := List.forall_mem_cons.mp hops
    have hviews := h.views_apply hread hop
    exact hviews.trans (ih hviews.sealed (hviews.config ▸ hread) hops)

/-- A read-only sheet whose queue holds nothing else asks for ways to services only. -/
theorem Sealed.isVisit_of_mem_made (h : s.Sealed) (hread : s.config.readOnly)
    (hqueue : ∀ q ∈ s.requests, q.IsVisit) {ops : List Operation}
    (hops : ∀ op ∈ ops, op.isInteraction) : ∀ q ∈ s.made ops, q.IsVisit := by
  induction ops generalizing s with
  | nil => exact fun _ hq => absurd hq List.not_mem_nil
  | cons op ops ih =>
    obtain ⟨hop, hops⟩ := List.forall_mem_cons.mp hops
    have hviews := h.views_apply hread hop
    have hafter : ∀ q ∈ (s.apply op).requests, q.IsVisit := by
      intro q hq
      rcases hviews.requests q hq with hq | hvisit
      · exact hqueue q hq
      · exact hvisit
    intro q hq
    rcases List.mem_append.mp hq with hq | hq
    · -- what the call asks for is at the end of the queue
      exact hafter q (List.mem_of_mem_drop hq)
    · exact ih hviews.sealed (hviews.config ▸ hread) hafter hops q hq

/-! ## From one load to the next -/

/-- Whatever has happened to a read-only sheet before a load, and whatever the user does and
whatever responses come after it: the rows stay those of the load, no editor opens, there is nothing
to save, and every request asks for the way to a service without mentioning changes. -/
theorem unchanged_of_readOnly (s : Sheet) (hread : s.config.readOnly)
    (values : List (String × Option String)) (descriptors : Descriptors) (histories : Histories)
    {ops : List Operation} (hops : ∀ op ∈ ops, op.isInteraction) :
    let loaded := (s.load values descriptors histories).1
    let t := loaded.run ops
    t.rows = loaded.rows ∧ t.editor = none ∧ t.changes = .empty ∧
    ∀ q ∈ loaded.made ops, ∃ token id, q = .goToService token id none := by
  intro loaded t
  have hclosed := s.load_closes values descriptors histories
  have hsealed : loaded.Sealed := s.sealed_load values descriptors histories
  have hread : loaded.config.readOnly := by rwa [hclosed.config]
  have hviews : loaded.Views t := hsealed.views_run hread hops
  have hempties : (Operation.load values descriptors histories).empties := rfl
  have hidx : t.store.Indexed := indexed_run (s.indexed_apply_of_empties hempties).1 ops
  refine ⟨hviews.rows, hviews.sealed.editor, ?_, ?_⟩
  · exact SortedMap.ext_get? fun name => hviews.sealed.get?_changes hidx name
  · refine hsealed.isVisit_of_mem_made hread (fun q hq => ?_) hops
    rw [hclosed.requests] at hq
    cases hq

/-- A service and another value. -/
def cacheValues : List (String × Option String) := [("Cache", some "svc-1"), ("extra", some "x")]

/-- The value of "Cache" names a service. -/
def cacheDescriptors : Descriptors :=
  SortedMap.ofList
    [("Cache", { name := "Cache", serviceType := some "org.Cache",
                 allowableValues := some [{ value := "svc-1" }] })]

/-- Keys that would edit, add and delete, a key that follows the service, and responses to that and
to a request of before the load. -/
def viewingRun : List Operation :=
  [.handleKey { code := .enter }, .handleKey { code := .esc }, .handleKey { code := .char 'd' },
    .handleKey { code := .char 'a' }, .handleKey { code := .char 'g' }, .takeRequests,
    .complete (.descriptor 0 (.ok { name := "early" })),
    .complete (.serviceLocated 1 (.error .missingFile)), .deleteSelected, .activate, .saveRow]

/-- A property was asked for before the load; its descriptor comes after it. -/
theorem unchanged_of_readOnly_viewingRun :
    let config : SheetConfig :=
      { readOnly := true, dialogContainer := some "main", supportsNavigation := true }
    let s := (ofConfig config).addProperty "early"
    let loaded := (s.load cacheValues cacheDescriptors .empty).1
    let t := loaded.run viewingRun
    s.config.readOnly ∧ (∀ op ∈ viewingRun, op.isInteraction) ∧
    s.requests = [.resolveDescriptor 0 "early"] ∧
    t.rows.map (·.value) = [some "svc-1", some "x"] ∧
    loaded.made viewingRun = [.goToService 1 "svc-1" none] ∧
    t.rows = loaded.rows ∧ t.editor = none ∧ t.changes = .empty ∧
    ∀ q ∈ loaded.made viewingRun, ∃ token id, q = .goToService token id none := by
  intro config s loaded t
  have hread : s.config.readOnly := by decide +kernel
  have hops : ∀ op ∈ viewingRun, op.isInteraction := by
    rw [viewingRun]
    simp [Operation.isInteraction, Operation.empties]
  exact ⟨hread, hops, by decide +kernel, by decide +kernel, by decide +kernel,
    unchanged_of_readOnly s hread cacheValues cacheDescriptors .empty hops⟩

/-! ## All of these -/

/-- The indexes of the rows agree with them, and a read-only sheet has nothing to save. -/
structure Orderly (s : Sheet) : Prop where
  indexed : s.store.Indexed
  locked : s.config.readOnly → s.Sealed

theorem orderly_ofConfig (config : SheetConfig) : (ofConfig config).Orderly :=
  ⟨RowStore.indexed_empty, fun _ => sealed_ofConfig config⟩

theorem Orderly.handleKey (h : s.Orderly) (k : Key) : (s.handleKey k).1.Orderly := by
  refine ⟨indexed_apply h.indexed (.handleKey k), fun hread => ?_⟩
  rw [(s.leaves_handleKey k).config] at hread
  exact ((h.locked hread).views_handleKey hread k).sealed

theorem Orderly.complete (h : s.Orderly) (r : Response) : (s.complete r).Orderly := by
  refine ⟨indexed_apply h.indexed (.complete r), fun hread => ?_⟩
  rw [s.config_complete r] at hread
  exact ((h.locked hread).views_complete r).sealed

theorem Orderly.load (h : s.Orderly) (values : List (String × Option String))
    (descriptors : Descriptors) (histories : Histories) :
    (s.load values descriptors histories).1.Orderly :=
  ⟨indexed_apply h.indexed (.load values descriptors histories), fun _ => s.sealed_load _ _ _⟩

/-- A sheet that holds a change is not read-only. -/
theorem Orderly.unsaved_eq (h : s.Orderly) {name : String} {value : Option String}
    (hheld : s.changes.get? name = some value) : s.unsaved = some s.changes := by
  unfold unsaved
  split
  next hread =>
    rw [(h.locked hread).get?_changes h.indexed] at hheld
    cases hheld
  · rfl

end Sheet

end PropertySheet
