import PropertySheet.Component
import PropertySheet.Proofs.Sheet.Operation

/-!
# What a sheet says when the user leaves

The user leaves for a service in two steps. The sheet asks where the service is, and says what is
unsaved; when the answer has come it tells the application to go there. `Leaves` says of every key
that it does at most the former, and that what the sheet says is unsaved are all its changes. Only
the answer itself does the latter (`stays_complete`).
-/

namespace PropertySheet

/-- The component to load when the user leaves for a service. -/
def SheetEvent.destination? : SheetEvent → Option ComponentRef
  | .navigate id _ => some ⟨.controllerService, id⟩
  | .notice _ => none

/-- What a request to go to a service says about unsaved changes. -/
def Request.unsaved? : Request → Option (Option Changes)
  | .goToService _ _ unsaved => some unsaved
  | _ => none

namespace Sheet

/-- What the queued requests to go to services say about unsaved changes. -/
def departures (s : Sheet) : List (Option Changes) := s.requests.filterMap (·.unsaved?)

/-- Where the queued events lead. -/
def destinations (s : Sheet) : List ComponentRef := s.events.filterMap (·.destination?)

/-- What the sheet says about unsaved changes. A read-only sheet has nothing to say. -/
def unsaved (s : Sheet) : Option Changes := if s.config.readOnly then none else some s.changes

/-- The user does not leave. -/
structure Stays (s t : Sheet) : Prop where
  config : t.config = s.config
  groupId : t.groupId = s.groupId
  departures : t.departures = s.departures
  destinations : t.destinations = s.destinations

/-- The user does not leave yet: the sheet asks for a service at most, and says what is unsaved. -/
structure Leaves (s t : Sheet) : Prop where
  config : t.config = s.config
  groupId : t.groupId = s.groupId
  departures : t.departures = s.departures ∨ t.departures = s.departures ++ [t.unsaved]
  destinations : t.destinations = s.destinations

variable {b s : Sheet}

theorem stays_self (s : Sheet) : s.Stays s := ⟨rfl, rfl, rfl, rfl⟩

theorem Stays.leaves (h : b.Stays s) : b.Leaves s :=
  ⟨h.config, h.groupId, .inl h.departures, h.destinations⟩

/-! ## Queues -/

theorem Stays.showNotice (h : b.Stays s) (n : Notice) : b.Stays (s.showNotice n) := by
  have hnotice : (s.showNotice n).destinations = s.destinations := by
    simp [Sheet.destinations, Sheet.showNotice, emit, SheetEvent.destination?]
  exact { h with destinations := hnotice.trans h.destinations }

theorem Stays.ask (h : b.Stays s) (p : Purpose) {q : Token → Request}
    (hq : ∀ t, (q t).unsaved? = none) : b.Stays (s.ask p q) := by
  have hasked : (s.ask p q).departures = s.departures := by
    simp [Sheet.departures, Sheet.ask, hq]
  exact { h with departures := hasked.trans h.departures }

theorem Stays.startCreation (h : b.Stays s) (rowId : Nat) (property serviceType : String) :
    b.Stays (s.startCreation rowId property serviceType) := by
  have hasked := h.ask .serviceTypes (q := (.listServiceTypes · serviceType)) fun _ => rfl
  exact { hasked with }

/-! ## Editing -/

theorem Stays.updateRow (h : b.Stays s) (id : Nat) (p : RowPatch) : b.Stays (s.updateRow id p) := by
  unfold Sheet.updateRow
  split
  · exact { h with }
  · exact h

theorem Stays.saveRow (h : b.Stays s) : b.Stays s.saveRow := by
  unfold Sheet.saveRow
  split
  · exact h
  next e _ =>
    have hclosed : b.Stays s.cancelEdit := { h with }
    dsimp only
    split
    · exact { hclosed.updateRow e.rowId { value := some e.commit.value } with }
    · exact { hclosed with }

theorem Stays.openEditor (h : b.Stays s) (id : Nat) : b.Stays (s.openEditor id) := by
  have hsaved := h.saveRow
  unfold Sheet.openEditor
  dsimp only
  split
  · exact hsaved
  · split
    · exact hsaved
    · exact { hsaved with }

theorem Stays.activate (h : b.Stays s) : b.Stays s.activate := by
  unfold Sheet.activate
  split
  · exact h
  · split
    · split
      · exact { h with }
      · exact h
    · exact h.openEditor _

theorem Stays.deleteSelected (h : b.Stays s) : b.Stays s.deleteSelected.1 := by
  unfold Sheet.deleteSelected
  split
  · exact h
  · split
    · exact h
    next id _ =>
      split
      · exact h
      · have hclosed : b.Stays (if s.editor.map (·.rowId) = some id then s.cancelEdit else s) := by
          split
          · exact { h with }
          · exact h
        dsimp only
        split
        · exact hclosed
        · exact { hclosed with }

theorem Stays.openNamePrompt (h : b.Stays s) : b.Stays s.openNamePrompt.1 := by
  unfold Sheet.openNamePrompt
  split
  · exact h
  · exact { h.saveRow with }

theorem Stays.addProperty (h : b.Stays s) (name : String) : b.Stays (s.addProperty name) := by
  have hclosed : b.Stays { s with dialog := none } := { h with }
  unfold Sheet.addProperty
  dsimp only
  split
  · exact h.showNotice _
  · split
    next r _ =>
      split
      · split
        · exact hclosed
        next store _ =>
          have hsynced : b.Stays ((sync { s with dialog := none, store }).selectId r.id) :=
            { hclosed with }
          exact hsynced.openEditor r.id
      · have hselected : b.Stays (({ s with dialog := none } : Sheet).selectId r.id) :=
          { hclosed with }
        exact hselected.showNotice _
    · exact hclosed.ask _ fun _ => rfl

theorem Stays.closeCreation (h : b.Stays s) : b.Stays s.closeCreation := { h with }

theorem Stays.showTooltip (h : b.Stays s) : b.Stays s.showTooltip.1 := by
  unfold Sheet.showTooltip
  split
  · exact h
  · split
    · exact h
    · exact { h with }

/-! ## Keys -/

/-- The sheet asks for a service after it has committed the open editor. -/
theorem leaves_goToService (s : Sheet) : s.Leaves s.goToService.1 := by
  unfold goToService
  split
  · exact s.stays_self.leaves
  · split
    · split
      · exact s.stays_self.leaves
      next id _ =>
        have hsaved : s.Stays s.saveRow := s.stays_self.saveRow
        refine ⟨hsaved.config, hsaved.groupId, .inr ?_, hsaved.destinations⟩
        rw [← hsaved.departures]
        exact List.filterMap_append
    · exact s.stays_self.leaves

theorem Stays.handleEditorKey (h : b.Stays s) (e : CellEditor) (k : Key) :
    b.Stays (s.handleEditorKey e k) := by
  unfold Sheet.handleEditorKey
  dsimp only
  split
  · have hopen : b.Stays { s with editor := some (e.handleKey k).1 } := { h with }
    exact hopen.saveRow
  · exact { h with }
  · have hclosed : b.Stays s.cancelEdit := { h with }
    exact hclosed.startCreation _ _ _
  · exact { h with }
  · exact { h with }

theorem Stays.handlePromptKey (h : b.Stays s) (p : NamePrompt) (k : Key) :
    b.Stays (s.handlePromptKey p k) := by
  have hopen : b.Stays { s with dialog := some (.namePrompt (p.handleKey k).1) } := { h with }
  unfold Sheet.handlePromptKey
  dsimp only
  split
  · exact hopen.addProperty _
  · exact { h with }
  · exact hopen
  · exact hopen

theorem Stays.handleCreationKey (h : b.Stays s) (d : ServiceDialog) (k : Key) :
    b.Stays (s.handleCreationKey d k) := by
  unfold Sheet.handleCreationKey
  dsimp only
  split
  next typeName _ =>
    have hopen : b.Stays { s with dialog := some (.createService (d.handleKey k).1.startCreating) } :=
      { h with }
    exact hopen.ask _ fun _ => rfl
  · exact { h with }
  · exact { h with }
  · exact { h with }

theorem Stays.handleDialogKey (h : b.Stays s) (d : Dialog) (k : Key) :
    b.Stays (s.handleDialogKey d k) := by
  cases d with
  | namePrompt p => exact h.handlePromptKey p k
  | createService d => exact h.handleCreationKey d k
  | detail d =>
    rw [Sheet.handleDialogKey]
    split
    · exact { h with }
    · exact h
  | tooltip t => exact { h with }

theorem leaves_handleGridKey (s : Sheet) (k : Key) : s.Leaves (s.handleGridKey k).1 := by
  have hmove := s.gridMove_handleGridKey k
  generalize (s.handleGridKey k).1 = t at hmove ⊢
  cases hmove with
  | select view => exact ⟨rfl, rfl, .inl rfl, rfl⟩
  | activate => exact s.stays_self.activate.leaves
  | delete => exact s.stays_self.deleteSelected.leaves
  | prompt => exact s.stays_self.openNamePrompt.leaves
  | follow => exact s.leaves_goToService
  | tell => exact s.stays_self.showTooltip.leaves

theorem leaves_handleKey (s : Sheet) (k : Key) : s.Leaves (s.handleKey k).1 := by
  unfold handleKey
  split
  · exact s.stays_self.leaves
  · split
    · exact ⟨rfl, rfl, .inl rfl, rfl⟩
    · split
      next d _ => exact (s.stays_self.handleDialogKey d k).leaves
      · split
        next e _ => exact (s.stays_self.handleEditorKey e k).leaves
        · exact s.leaves_handleGridKey k

/-! ## Responses -/

theorem Stays.creationFailed (h : b.Stays s) (e : Failure) : b.Stays (s.creationFailed e) :=
  h.closeCreation.showNotice _

theorem Stays.propertyResolved (h : b.Stays s) (name : String) (d : Descriptor) :
    b.Stays (s.propertyResolved name d) := by
  have hknown : b.Stays { s with descriptors := s.descriptors.insert name d } := { h with }
  unfold Sheet.propertyResolved
  dsimp only
  split
  next r _ =>
    have hselected : b.Stays
        (({ s with descriptors := s.descriptors.insert name d } : Sheet).selectId r.id) :=
      { hknown with }
    exact hselected.showNotice _
  · split
    · exact hknown
    next store id _ =>
      have hadded : b.Stays ((sync { s with
          descriptors := s.descriptors.insert name d, store }).selectId id) := { hknown with }
      exact hadded.openEditor id

theorem Stays.typesListed (h : b.Stays s) (types : List ServiceType) :
    b.Stays (s.typesListed types) := by
  unfold Sheet.typesListed
  split
  · exact h.closeCreation.showNotice _
  · split
    · exact { h with }
    · exact h

theorem Stays.serviceCreated (h : b.Stays s) (service : Service) :
    b.Stays (s.serviceCreated service) := by
  unfold Sheet.serviceCreated
  split
  next d _ =>
    have hopen : b.Stays { s with
        dialog := some (.createService (d.serviceCreated service.id)) } := { h with }
    exact hopen.ask _ fun _ => rfl
  · exact h

theorem Stays.descriptorRefreshed (h : b.Stays s) (rowId : Nat) (serviceId : String)
    (d : Descriptor) : b.Stays (s.descriptorRefreshed rowId serviceId d) := by
  unfold Sheet.descriptorRefreshed
  dsimp only
  split
  · exact h.closeCreation
  next r _ =>
    have hknown : b.Stays { s.closeCreation with
        descriptors := s.closeCreation.descriptors.insert r.property d } := { h with }
    exact { hknown.updateRow rowId { value := some (some serviceId) } with }

/-- Only the answer with a service lets the user leave. -/
theorem stays_complete (s : Sheet) {r : Response}
    (hr : ∀ t service, r ≠ .serviceLocated t (.ok (some service))) : s.Stays (s.complete r) := by
  unfold complete
  split
  · exact s.stays_self
  · have hanswered : s.Stays { s with pending := s.pending.erase r.token } :=
      ⟨rfl, rfl, rfl, rfl⟩
    unfold settle
    split
    · exact hanswered.propertyResolved _ _
    · exact hanswered.showNotice _
    · exact hanswered.typesListed _
    · exact hanswered.creationFailed _
    · exact hanswered.serviceCreated _
    · exact hanswered.creationFailed _
    · exact hanswered.descriptorRefreshed _ _ _
    · exact hanswered.creationFailed _
    next t service _ =>
      cases service with
      | none => exact hanswered
      | some service => exact absurd rfl (hr t service)
    · exact hanswered.showNotice _
    · exact hanswered

/-- No response changes how the sheet is set up. -/
theorem config_groupId_complete (s : Sheet) (r : Response) :
    (s.complete r).config = s.config ∧ (s.complete r).groupId = s.groupId := by
  by_cases hr : ∃ t service, r = .serviceLocated t (.ok (some service))
  · obtain ⟨t, service, rfl⟩ := hr
    unfold complete
    split
    · exact ⟨rfl, rfl⟩
    next p _ => cases p <;> exact ⟨rfl, rfl⟩
  · have hstays := s.stays_complete fun t service heq => hr ⟨t, service, heq⟩
    exact ⟨hstays.config, hstays.groupId⟩

theorem config_complete (s : Sheet) (r : Response) : (s.complete r).config = s.config :=
  (s.config_groupId_complete r).1

theorem groupId_complete (s : Sheet) (r : Response) : (s.complete r).groupId = s.groupId :=
  (s.config_groupId_complete r).2

end Sheet

end PropertySheet
