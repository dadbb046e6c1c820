import PropertySheet.Proofs.Sheet.Operation

/-!
# What operations do to requests

Of a sheet, `traffic` keeps what its requests depend on: the dialog that creates a service, if it is
that one which is open, the purposes of the pending requests, the next token and the queue. Rows,
grid, editor, notices and events have no part in it.

`exchange_apply` says once what each operation can do to the traffic; everything else about requests
follows from it and from the lookups of the few functions below. An operation asks for at most one
thing. It forgets requests in three ways only: it empties the sheet, it takes the response to one of
them, or it closes the dialog that creates a service and forgets those that serve it.
-/

namespace PropertySheet

/-- What the requests of a sheet depend on. -/
structure Traffic where
  /-- The dialog that creates a service, if it is open. -/
  creation : Option ServiceDialog
  pending : SortedMap Token Purpose
  nextToken : Token
  requests : List Request

namespace Sheet

/-- The dialog that creates a service, if it is open. -/
def creation? (s : Sheet) : Option ServiceDialog :=
  match s.dialog with
  | some (.createService d) => some d
  | _ => none

def traffic (s : Sheet) : Traffic :=
  { creation := s.creation?, pending := s.pending, nextToken := s.nextToken,
    requests := s.requests }

end Sheet

/-- The kind of request that is made for a purpose. Both adding a property and refreshing one ask
for a descriptor: of the property to add, or of the one that the row has by `names`. -/
def Purpose.CallsFor (names : Nat → Option String) : Purpose → Request → Prop
  | .addProperty name, .resolveDescriptor _ property => property = name
  | .serviceTypes, .listServiceTypes _ _ => True
  | .createService, .createService _ _ _ => True
  | .refreshDescriptor rowId _, .resolveDescriptor _ property => names rowId = some property
  | .goToService, .goToService _ _ _ => True
  | _, _ => False

/-! ## Changes of the traffic -/

namespace Traffic

/-- Everything is dropped; tokens go on counting. -/
def emptied (x : Traffic) : Traffic :=
  { x with creation := none, pending := .empty, requests := [] }

/-- The queue is handed over. -/
def taken (x : Traffic) : Traffic := { x with requests := [] }

/-- The dialog is another one. -/
def showing (x : Traffic) (c : Option ServiceDialog) : Traffic := { x with creation := c }

/-- A request is made under the next token. -/
def ask (x : Traffic) (p : Purpose) (q : Request) : Traffic :=
  { x with
    nextToken := x.nextToken + 1
    pending := x.pending.insert x.nextToken p
    requests := x.requests ++ [q] }

/-- A pending request has its response. -/
def answer (x : Traffic) (t : Token) : Traffic := { x with pending := x.pending.erase t }

/-- The creation of a service is left, and its requests are forgotten. -/
def close (x : Traffic) : Traffic :=
  { x with creation := none, pending := x.pending.filter fun _ p => !p.servesCreation }

@[simp]
theorem showing_eq_self {x : Traffic} {c : Option ServiceDialog} (h : x.creation = c) :
    x.showing c = x := by
  cases x
  simp_all [showing]

theorem get?_pending_close {x : Traffic} {t : Token} {p : Purpose} :
    x.close.pending.get? t = some p ↔ x.pending.get? t = some p ∧ p.servesCreation = false := by
  rw [close, SortedMap.get?_filter, Option.filter_eq_some_iff]
  simp

theorem get?_pending_answer {x : Traffic} {t t' : Token} {p : Purpose} :
    (x.answer t').pending.get? t = some p ↔ t' ≠ t ∧ x.pending.get? t = some p := by
  rw [answer, SortedMap.get?_erase]
  split
  next h => simp [h]
  next h => simp [h]

/-- A step of a dialog that only moves the highlight. -/
structure SameCourse (d d' : ServiceDialog) : Prop where
  rowId : d'.rowId = d.rowId
  property : d'.property = d.property
  serviceType : d'.serviceType = d.serviceType
  stage : d'.stage = d.stage
  types : d'.types = d.types
  created : d'.created = d.created

/-- What a call does to the traffic that neither empties the sheet nor hands over requests nor takes
a response nor begins or leaves the creation of a service. -/
inductive Step : Traffic → Traffic → Prop
  | idle (x : Traffic) : Step x x
  /-- The user adds a property or follows a service. -/
  | ask (x : Traffic) (p : Purpose) (q : Request) :
      p.servesCreation = false → q.token = x.nextToken → (∀ names, p.CallsFor names q) →
      Step x (x.ask p q)
  | move (x : Traffic) (d d' : ServiceDialog) :
      x.creation = some d → SameCourse d d' → Step x (x.showing d')
  /-- A type of service is chosen. -/
  | create (x : Traffic) (d : ServiceDialog) (scope : Scope) (typeName : String) :
      x.creation = some d → d.stage = .choosing →
      Step x ((x.showing d.startCreating).ask .createService
        (.createService x.nextToken scope typeName))

variable {x y : Traffic}

/-- The creation of a service goes on with the same row. -/
theorem Step.creation_row (h : Step x y) {d' : ServiceDialog} (hd' : y.creation = some d') :
    ∃ d, x.creation = some d ∧ d'.rowId = d.rowId ∧ d'.property = d.property := by
  cases h with
  | idle => exact ⟨d', hd', rfl, rfl⟩
  | ask p q _ _ _ => exact ⟨d', hd', rfl, rfl⟩
  | move d _ hd hcourse =>
    obtain rfl := Option.some.inj hd'
    exact ⟨d, hd, hcourse.rowId, hcourse.property⟩
  | create d _ _ hd _ =>
    obtain rfl := Option.some.inj hd'
    exact ⟨d, hd, rfl, rfl⟩

/-- What a call does that may put up another dialog over the creation of a service, or none. -/
def Replaced (x y : Traffic) : Prop := ∃ x', (x' = x ∨ x' = x.showing none) ∧ Step x' y

/-- A call that may put up another dialog takes a step, unless it does so over the creation of a
service. -/
theorem Replaced.step_of_keeps (h : Replaced x y)
    (hkeeps : x.creation.isSome → y.creation.isSome) : Step x y := by
  obtain ⟨x', rfl | rfl, hstep⟩ := h
  · exact hstep
  · cases hx : x.creation with
    | none => rwa [showing_eq_self hx] at hstep
    | some d =>
      obtain ⟨d', hd'⟩ := Option.isSome_iff_exists.mp (hkeeps (by rw [hx]; rfl))
      obtain ⟨_, hnone, _⟩ := hstep.creation_row hd'
      cases hnone

theorem Replaced.step (h : Replaced x y) (hx : x.creation = none) : Step x y := by
  refine h.step_of_keeps fun hsome => ?_
  rw [hx] at hsome
  cases hsome

end Traffic

/-- Whether a response to a pending request ends the creation of a service: by a failure, for want
of types, or because the row can take the new service. -/
def Purpose.ends : Purpose → Response → Bool
  | .serviceTypes, .serviceTypes _ (.ok types) => types.isEmpty
  | .serviceTypes, .serviceTypes _ (.error _) => true
  | .createService, .serviceCreated _ (.error _) => true
  | .refreshDescriptor _ _, .descriptor _ _ => true
  | _, _ => false

namespace Traffic

/-- What a response does to the traffic once its request is no longer pending. -/
inductive Settled (p : Purpose) (r : Response) (x : Traffic) : Traffic → Prop
  | idle : p.servesCreation = false ∨ x.creation = none ∨ p.expects r = false →
      p.ends r = false → Settled p r x x
  | offered (d : ServiceDialog) (t : Token) (types : List ServiceType) :
      p = .serviceTypes → r = .serviceTypes t (.ok types) → x.creation = some d → types ≠ [] →
      p.ends r = false → Settled p r x (x.showing (d.typesLoaded types))
  | created (d : ServiceDialog) (t : Token) (service : Service) :
      p = .createService → r = .serviceCreated t (.ok service) → x.creation = some d →
      p.ends r = false →
      Settled p r x ((x.showing (d.serviceCreated service.id)).ask
        (.refreshDescriptor d.rowId service.id) (.resolveDescriptor x.nextToken d.property))
  | closed : p.ends r = true → Settled p r x x.close

end Traffic

namespace Sheet

/-- The creation of a service ends with this operation: by Esc, or by the response to one of its
requests. -/
def ClosesCreation (s : Sheet) : Operation → Prop
  | .handleKey k =>
    s.destroyed = false ∧ s.notice = none ∧ s.creation?.isSome ∧ k.code = .esc
  | .complete r => ∃ p, s.pending.get? r.token = some p ∧ p.ends r
  | _ => False

/-- What an operation does to the traffic of a sheet. -/
inductive Exchange (s : Sheet) : Operation → Traffic → Prop
  | emptied {op : Operation} : op.empties → Exchange s op s.traffic.emptied
  | taken : Exchange s .takeRequests s.traffic.taken
  | stale {r : Response} : s.pending.get? r.token = none → Exchange s (.complete r) s.traffic
  | answered {r : Response} {p : Purpose} {y : Traffic} :
      s.pending.get? r.token = some p → Traffic.Settled p r (s.traffic.answer r.token) y →
      Exchange s (.complete r) y
  | left {k : Key} : s.ClosesCreation (.handleKey k) → Exchange s (.handleKey k) s.traffic.close
  /-- A key in the editor closes it and begins the creation of a service for its row. -/
  | started {k : Key} {e : CellEditor} {d : ServiceDialog} :
      s.creation? = none → s.editor = some e → d.rowId = (e.handleKey k).1.rowId →
      d.property = (e.handleKey k).1.property →
      (s.handleKey k).1.editor = none → (s.handleKey k).1.store = s.store →
      d.stage = .loadingTypes →
      Exchange s (.handleKey k) ((s.traffic.showing d).ask .serviceTypes
        (.listServiceTypes s.nextToken d.serviceType))
  | called {op : Operation} {y : Traffic} :
      op.handlesDialog = false → op.isPlain → ¬ s.ClosesCreation op → Traffic.Step s.traffic y →
      Exchange s op y
  /-- A call that puts up or takes down a dialog may do so over the creation of a service. -/
  | replaced {op : Operation} {y : Traffic} :
      op.handlesDialog → Traffic.Replaced s.traffic y → Exchange s op y

/-! ## Calls that leave requests alone -/

@[simp]
theorem traffic_sync (s : Sheet) : s.sync.traffic = s.traffic := rfl

@[simp]
theorem traffic_selectId (s : Sheet) (id : Nat) : (s.selectId id).traffic = s.traffic := rfl

@[simp]
theorem traffic_showNotice (s : Sheet) (n : Notice) : (s.showNotice n).traffic = s.traffic := rfl

@[simp]
theorem traffic_ask (s : Sheet) (p : Purpose) (q : Token → Request) :
    (s.ask p q).traffic = s.traffic.ask p (q s.nextToken) := rfl

@[simp]
theorem traffic_updateRow (s : Sheet) (id : Nat) (p : RowPatch) :
    (s.updateRow id p).traffic = s.traffic := by
  unfold updateRow
  split <;> rfl

@[simp]
theorem traffic_cancelEdit (s : Sheet) : s.cancelEdit.traffic = s.traffic := rfl

@[simp]
theorem traffic_saveRow (s : Sheet) : s.saveRow.traffic = s.traffic := by
  unfold saveRow
  split
  · rfl
  next e he =>
    rw [traffic_sync]
    split
    · rw [traffic_updateRow, traffic_cancelEdit]
    · rfl

@[simp]
theorem traffic_openEditor (s : Sheet) (id : Nat) : (s.openEditor id).traffic = s.traffic := by
  unfold openEditor
  dsimp only
  split
  · exact s.traffic_saveRow
  · split
    · exact s.traffic_saveRow
    · exact s.traffic_saveRow

@[simp]
theorem traffic_select (s : Sheet) (property : String) :
    (s.select property).1.traffic = s.traffic := by
  unfold select
  split <;> rfl

@[simp]
theorem traffic_deleteSelected (s : Sheet) : s.deleteSelected.1.traffic = s.traffic := by
  rw [deleteSelected]
  have hcancel : ∀ id, (if s.editor.map (·.rowId) = some id then s.cancelEdit else s).traffic =
      s.traffic := by
    intro id
    split <;> rfl
  split
  · rfl
  · split
    · rfl
    · split
      · rfl
      · dsimp only
        split
        · exact hcancel _
        · exact hcancel _

theorem traffic_closeCreation (s : Sheet) : s.closeCreation.traffic = s.traffic.close := by
  have hcreation : s.closeCreation.creation? = none := by
    rw [closeCreation, creation?]
    split
    next d hd =>
      dsimp only at hd
      split at hd
      · cases hd
      next hother => exact absurd hd (hother d)
    · rfl
  rw [traffic, hcreation]
  rfl

/-! ## Calls that may replace the dialog -/

theorem replaced_activate (s : Sheet) : Traffic.Replaced s.traffic s.activate.traffic := by
  unfold activate
  split
  · exact ⟨_, .inl rfl, .idle _⟩
  · split
    · split
      · exact ⟨_, .inr rfl, .idle _⟩
      · exact ⟨_, .inl rfl, .idle _⟩
    · rw [traffic_openEditor]
      exact ⟨_, .inl rfl, .idle _⟩

theorem replaced_showTooltip (s : Sheet) :
    Traffic.Replaced s.traffic s.showTooltip.1.traffic := by
  unfold showTooltip
  split
  · exact ⟨_, .inl rfl, .idle _⟩
  · split
    · exact ⟨_, .inl rfl, .idle _⟩
    · exact ⟨_, .inr rfl, .idle _⟩

theorem replaced_openNamePrompt (s : Sheet) :
    Traffic.Replaced s.traffic s.openNamePrompt.1.traffic := by
  unfold openNamePrompt
  split
  · exact ⟨_, .inl rfl, .idle _⟩
  · refine ⟨_, .inr rfl, ?_⟩
    have hsaved : ({ s.saveRow with dialog := some (.namePrompt .empty) } : Sheet).traffic =
        s.saveRow.traffic.showing none := rfl
    rw [hsaved, traffic_saveRow]
    exact .idle _

theorem replaced_addProperty (s : Sheet) (name : String) :
    Traffic.Replaced s.traffic (s.addProperty name).traffic := by
  unfold addProperty
  dsimp only
  split
  · exact ⟨_, .inl rfl, .idle _⟩
  · refine ⟨_, .inr rfl, ?_⟩
    split
    · split
      · split
        · exact .idle _
        · rw [traffic_openEditor, traffic_selectId, traffic_sync]
          exact .idle _
      · exact .idle _
    · exact .ask _ _ _ rfl rfl fun _ => rfl

/-! ## Following a service -/

theorem step_goToService (s : Sheet) : Traffic.Step s.traffic s.goToService.1.traffic := by
  unfold goToService
  split
  · exact .idle _
  · split
    · split
      · exact .idle _
      · dsimp only
        rw [traffic_ask, traffic_saveRow]
        exact .ask _ _ _ rfl (congrArg Traffic.nextToken s.traffic_saveRow) fun _ => trivial
    · exact .idle _

/-! ## Keys -/

/-- A key for the editor takes a step, or begins the creation of a service. -/
theorem handleEditorKey_traffic (s : Sheet) (e : CellEditor) (k : Key) :
    Traffic.Step s.traffic (s.handleEditorKey e k).traffic ∨
    ∃ serviceType, s.handleEditorKey e k = s.cancelEdit.startCreation
      (e.handleKey k).1.rowId (e.handleKey k).1.property serviceType := by
  unfold handleEditorKey
  dsimp only
  split
  · rw [traffic_saveRow]
    exact .inl (.idle _)
  · exact .inl (.idle _)
  next serviceType _ => exact .inr ⟨serviceType, rfl⟩
  · exact .inl (.idle _)
  · exact .inl (.idle _)

theorem step_handlePromptKey (s : Sheet) (p : NamePrompt) (k : Key)
    (h : s.dialog = some (.namePrompt p)) :
    Traffic.Step s.traffic (s.handlePromptKey p k).traffic := by
  have hnone : s.traffic.creation = none := by
    rw [traffic, creation?, h]
  have hshown : ∀ d : Dialog, (∀ c, d ≠ .createService c) →
      ({ s with dialog := some d } : Sheet).traffic = s.traffic := by
    intro d hd
    have : ({ s with dialog := some d } : Sheet).traffic = s.traffic.showing none := by
      cases d with
      | createService c => exact absurd rfl (hd c)
      | _ => rfl
    rw [this, Traffic.showing_eq_self hnone]
  unfold handlePromptKey
  dsimp only
  split
  next name _ =>
    have := replaced_addProperty { s with dialog := some (.namePrompt (p.handleKey k).1) } name
    rw [hshown _ (by simp)] at this
    exact this.step hnone
  · have hclosed : ({ s with dialog := none } : Sheet).traffic = s.traffic.showing none := rfl
    rw [Traffic.showing_eq_self hnone] at hclosed
    rw [hclosed]
    exact .idle _
  · rw [hshown _ (by simp)]
    exact .idle _
  · rw [hshown _ (by simp)]
    exact .idle _

end Sheet

/-- A key moves the highlight of a dialog at most, and chooses only among types on offer. -/
theorem ServiceDialog.handleKey_cases (d : ServiceDialog) (k : Key) :
    (k.code = .esc ∧ d.handleKey k = (d, .cancel)) ∨
    (k.code ≠ .esc ∧ d.stage = .choosing ∧ ∃ typeName, d.handleKey k = (d, .create typeName)) ∨
    (k.code ≠ .esc ∧ Traffic.SameCourse d (d.handleKey k).1 ∧
      ((d.handleKey k).2 = .changed ∨ (d.handleKey k).2 = .none)) := by
  unfold handleKey
  split
  next hesc => exact .inl ⟨hesc, rfl⟩
  next hesc =>
    split
    · exact .inr (.inr ⟨hesc, ⟨rfl, rfl, rfl, rfl, rfl, rfl⟩, .inr rfl⟩)
    next hstage =>
      have hchoosing : d.stage = .choosing :=
        Decidable.byContradiction fun hne => hstage (.inl hne)
      split
      · exact .inr (.inr ⟨hesc, ⟨rfl, rfl, rfl, rfl, rfl, rfl⟩, .inl rfl⟩)
      · exact .inr (.inr ⟨hesc, ⟨rfl, rfl, rfl, rfl, rfl, rfl⟩, .inl rfl⟩)
      · split
        next t _ => exact .inr (.inl ⟨hesc, hchoosing, t.name, rfl⟩)
        · exact .inr (.inr ⟨hesc, ⟨rfl, rfl, rfl, rfl, rfl, rfl⟩, .inr rfl⟩)
      · exact .inr (.inr ⟨hesc, ⟨rfl, rfl, rfl, rfl, rfl, rfl⟩, .inr rfl⟩)

namespace Sheet

/-- Esc leaves the creation of a service; any other key takes a step in it. -/
theorem handleCreationKey_traffic (s : Sheet) (d : ServiceDialog) (k : Key)
    (h : s.dialog = some (.createService d)) :
    (k.code = .esc ∧ (s.handleCreationKey d k).traffic = s.traffic.close) ∨
    (k.code ≠ .esc ∧ Traffic.Step s.traffic (s.handleCreationKey d k).traffic) := by
  have hsome : s.traffic.creation = some d := by
    rw [traffic, creation?, h]
  unfold handleCreationKey
  dsimp only
  rcases d.handleKey_cases k with ⟨hesc, hk⟩ | ⟨hesc, hstage, typeName, hk⟩ | ⟨hesc, hcourse, hk⟩
  · left
    rw [hk]
    exact ⟨hesc, traffic_closeCreation _⟩
  · right
    rw [hk]
    exact ⟨hesc, .create _ _ _ _ hsome hstage⟩
  · right
    refine ⟨hesc, ?_⟩
    rcases hk with hk | hk
    · rw [hk]
      exact .move _ _ _ hsome hcourse
    · rw [hk]
      exact .move _ _ _ hsome hcourse

theorem step_handleGridKey (s : Sheet) (k : Key) (h : s.creation? = none) :
    Traffic.Step s.traffic (s.handleGridKey k).1.traffic := by
  have hmove := s.gridMove_handleGridKey k
  generalize (s.handleGridKey k).1 = t at hmove ⊢
  cases hmove with
  | select view => exact .idle _
  | activate => exact s.replaced_activate.step h
  | delete =>
    rw [traffic_deleteSelected]
    exact .idle _
  | prompt => exact s.replaced_openNamePrompt.step h
  | follow => exact s.step_goToService
  | tell => exact s.replaced_showTooltip.step h

/-- A key leaves the creation of a service, or takes a step. -/
theorem exchange_handleKey (s : Sheet) (k : Key) :
    Exchange s (.handleKey k) (s.handleKey k).1.traffic := by
  -- every key but the one that leaves the creation takes a step
  have hstep : (s.destroyed = false → s.notice = none → s.creation?.isSome → k.code ≠ .esc) →
      Traffic.Step s.traffic (s.handleKey k).1.traffic →
      Exchange s (.handleKey k) (s.handleKey k).1.traffic := by
    intro hstays hstep
    refine .called rfl rfl ?_ hstep
    rintro ⟨hdestroyed, hnotice, hcreation, hesc⟩
    exact hstays hdestroyed hnotice hcreation hesc
  cases hdestroyed : s.destroyed with
  | true =>
    apply hstep
    · simp [hdestroyed]
    · simp only [handleKey, hdestroyed, if_true]
      exact .idle _
  | false =>
    cases hnotice : s.notice with
    | some n =>
      apply hstep
      · simp [hnotice]
      · simp only [handleKey, hdestroyed, hnotice]
        exact .idle _
    | none =>
      cases hdialog : s.dialog with
      | none =>
        -- no dialog: the key is for the editor or the grid
        have hnone : s.creation? = none := by rw [creation?, hdialog]
        cases heditor : s.editor with
        | none =>
          apply hstep
          · simp [hnone]
          · simp only [handleKey, hdestroyed, hnotice, hdialog, heditor]
            exact s.step_handleGridKey k hnone
        | some e =>
          have hkey : (s.handleKey k).1 = s.handleEditorKey e k := by
            simp [handleKey, hdestroyed, hnotice, hdialog, heditor]
          rcases s.handleEditorKey_traffic e k with hstep' | ⟨serviceType, hstart⟩
          · apply hstep
            · simp [hnone]
            · rwa [hkey]
          · have hstart := hkey.trans hstart
            have hstarted := Exchange.started (s := s) (k := k) (e := e)
              (d := { rowId := (e.handleKey k).1.rowId, property := (e.handleKey k).1.property,
                      serviceType }) hnone heditor rfl rfl
              (by rw [hstart]; rfl) (by rw [hstart]; rfl) rfl
            rw [hstart]
            exact hstarted
      | some d =>
        have hkey : (s.handleKey k).1 = s.handleDialogKey d k := by
          simp [handleKey, hdestroyed, hnotice, hdialog]
        cases d with
        | createService d =>
          have hsome : s.creation? = some d := by rw [creation?, hdialog]
          rcases s.handleCreationKey_traffic d k hdialog with ⟨hesc, hclose⟩ | ⟨hesc, hstep'⟩
          · rw [hkey, handleDialogKey, hclose]
            exact .left ⟨hdestroyed, hnotice, by simp [hsome], hesc⟩
          · apply hstep
            · exact fun _ _ _ => hesc
            · rw [hkey, handleDialogKey]
              exact hstep'
        | namePrompt p =>
          apply hstep
          · simp [creation?, hdialog]
          · rw [hkey, handleDialogKey]
            exact s.step_handlePromptKey p k hdialog
        | detail d =>
          have hnone : s.creation? = none := by rw [creation?, hdialog]
          apply hstep
          · simp [hnone]
          · rw [hkey, handleDialogKey]
            split
            · exact Traffic.Replaced.step ⟨_, .inr rfl, .idle _⟩ hnone
            · exact .idle _
        | tooltip t =>
          have hnone : s.creation? = none := by rw [creation?, hdialog]
          apply hstep
          · simp [hnone]
          · rw [hkey, handleDialogKey]
            exact Traffic.Replaced.step ⟨_, .inr rfl, .idle _⟩ hnone

/-! ## Responses -/

theorem dialog_eq_of_creation? {s : Sheet} {d : ServiceDialog} (h : s.creation? = some d) :
    s.dialog = some (.createService d) := by
  rw [creation?] at h
  split at h
  next d' hd =>
    rw [hd, Option.some.inj h]
  · cases h

@[simp]
theorem traffic_propertyResolved (s : Sheet) (name : String) (d : Descriptor) :
    (s.propertyResolved name d).traffic = s.traffic := by
  unfold propertyResolved
  dsimp only
  split
  · rfl
  · split
    · rfl
    · rw [traffic_openEditor, traffic_selectId, traffic_sync]
      rfl

@[simp]
theorem traffic_creationFailed (s : Sheet) (e : Failure) :
    (s.creationFailed e).traffic = s.traffic.close :=
  s.traffic_closeCreation

theorem traffic_descriptorRefreshed (s : Sheet) (rowId : Nat) (serviceId : String)
    (d : Descriptor) : (s.descriptorRefreshed rowId serviceId d).traffic = s.traffic.close := by
  unfold descriptorRefreshed
  dsimp only
  split
  · exact s.traffic_closeCreation
  · rw [traffic_sync, traffic_updateRow]
    exact s.traffic_closeCreation

@[simp]
theorem traffic_serviceLocated (s : Sheet) (service : Option Service) :
    (s.serviceLocated service).traffic = s.traffic := by
  cases service <;> rfl

theorem settled_typesListed (s : Sheet) (t : Token) (types : List ServiceType) :
    Traffic.Settled .serviceTypes (.serviceTypes t (.ok types)) s.traffic
      (s.typesListed types).traffic := by
  unfold typesListed
  split
  next hempty =>
    rw [traffic_showNotice, traffic_closeCreation]
    exact .closed hempty
  next hempty =>
    have hends : Purpose.serviceTypes.ends (.serviceTypes t (.ok types)) = false := by
      simpa [Purpose.ends] using hempty
    split
    next d hd =>
      refine .offered d t types rfl rfl (by rw [traffic, creation?, hd]) ?_ hends
      simpa using hempty
    next hother =>
      refine .idle (.inr (.inl ?_)) hends
      rw [traffic, creation?]
      split
      next d hd => exact absurd hd (hother d)
      · rfl

theorem settled_serviceCreated (s : Sheet) (t : Token) (service : Service) :
    Traffic.Settled .createService (.serviceCreated t (.ok service)) s.traffic
      (s.serviceCreated service).traffic := by
  unfold serviceCreated
  split
  next d hd =>
    exact .created d t service rfl rfl (by rw [traffic, creation?, hd]) rfl
  next hother =>
    refine .idle (.inr (.inl ?_)) rfl
    rw [traffic, creation?]
    split
    next d hd => exact absurd hd (hother d)
    · rfl

/-- A response of the wrong kind is dropped. -/
theorem settle_eq_self {p : Purpose} {r : Response} (h : p.expects r = false) (s : Sheet) :
    s.settle p r = s := by
  unfold settle
  split <;> first | rfl | cases h

/-- What a response does, by the purpose of its request. -/
theorem settled_settle (s : Sheet) (p : Purpose) (r : Response) :
    Traffic.Settled p r s.traffic (s.settle p r).traffic := by
  cases hexpects : p.expects r with
  | false =>
    -- the wrong kind of response: the request is used up all the same
    rw [settle_eq_self hexpects]
    refine .idle (.inr (.inr hexpects)) ?_
    cases p <;> cases r <;> first | rfl | cases hexpects
  | true =>
    cases p with
    | addProperty name =>
      cases r with
      | descriptor t result =>
        cases result with
        | ok d =>
          rw [settle, traffic_propertyResolved]
          exact .idle (.inl rfl) rfl
        | error e => exact .idle (.inl rfl) rfl
      | _ => cases hexpects
    | serviceTypes =>
      cases r with
      | serviceTypes t result =>
        cases result with
        | ok types => exact s.settled_typesListed t types
        | error e =>
          rw [settle, traffic_creationFailed]
          exact .closed rfl
      | _ => cases hexpects
    | createService =>
      cases r with
      | serviceCreated t result =>
        cases result with
        | ok service => exact s.settled_serviceCreated t service
        | error e =>
          rw [settle, traffic_creationFailed]
          exact .closed rfl
      | _ => cases hexpects
    | refreshDescriptor rowId serviceId =>
      cases r with
      | descriptor t result =>
        cases result with
        | ok d =>
          rw [settle, traffic_descriptorRefreshed]
          exact .closed rfl
        | error e =>
          rw [settle, traffic_creationFailed]
          exact .closed rfl
      | _ => cases hexpects
    | goToService =>
      cases r with
      | serviceLocated t result =>
        cases result with
        | ok service =>
          rw [settle, traffic_serviceLocated]
          exact .idle (.inl rfl) rfl
        | error e => exact .idle (.inl rfl) rfl
      | _ => cases hexpects

theorem exchange_complete (s : Sheet) (r : Response) :
    Exchange s (.complete r) (s.complete r).traffic := by
  unfold complete
  split
  next hnone => exact .stale hnone
  next p hp =>
    exact .answered hp (settled_settle { s with pending := s.pending.erase r.token } p r)

/-! ## All operations -/

/-- What each operation can do to the traffic of a sheet. -/
theorem exchange_apply (s : Sheet) (op : Operation) : Exchange s op (s.apply op).traffic := by
  have hidle : ∀ op : Operation, op.handlesDialog = false → op.isPlain → ¬ s.ClosesCreation op →
      (s.apply op).traffic = s.traffic → Exchange s op (s.apply op).traffic := by
    intro op hdialog hplain hcloses heq
    rw [heq]
    exact .called hdialog hplain hcloses (.idle _)
  cases op with
  | load values descriptors histories =>
    -- a load that fails has emptied the sheet before
    have hload : (s.load values descriptors histories).1.traffic = s.traffic.emptied := by
      unfold load
      dsimp only
      split
      · rfl
      · rfl
    rw [apply, hload]
    exact .emptied rfl
  | clear => exact .emptied rfl
  | destroy => exact .emptied rfl
  | saveRow => exact hidle _ rfl rfl id s.traffic_saveRow
  | cancelEdit => exact hidle _ rfl rfl id rfl
  | resize area => exact hidle _ rfl rfl id rfl
  | setGroup groupId => exact hidle _ rfl rfl id rfl
  | select property => exact hidle _ rfl rfl id (s.traffic_select property)
  | activate => exact .replaced rfl s.replaced_activate
  | deleteSelected => exact hidle _ rfl rfl id s.traffic_deleteSelected
  | goToService => exact .called rfl rfl id s.step_goToService
  | showTooltip => exact .replaced rfl s.replaced_showTooltip
  | openNamePrompt => exact .replaced rfl s.replaced_openNamePrompt
  | addProperty name => exact .replaced rfl (s.replaced_addProperty name)
  | takeRequests => exact .taken
  | takeEvents => exact hidle _ rfl rfl id rfl
  | handleKey k => exact s.exchange_handleKey k
  | complete r => exact s.exchange_complete r

/-! ## Dialogs over the creation of a service -/

/-- A call does not put another dialog over the creation of a service. Keys and responses never
do. -/
def KeepsCreation (s : Sheet) (op : Operation) : Prop :=
  op.handlesDialog → s.creation?.isSome → (s.apply op).creation?.isSome

instance (s : Sheet) (op : Operation) : Decidable (s.KeepsCreation op) :=
  inferInstanceAs (Decidable (op.handlesDialog = true → s.creation?.isSome = true →
    (s.apply op).creation?.isSome = true))

end Sheet

end PropertySheet
