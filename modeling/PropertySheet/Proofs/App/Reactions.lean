import PropertySheet.App.Draw
import PropertySheet.Proofs.Sheet.Departure
import PropertySheet.Proofs.Sheet.Loading

/-!
# Reactions of the application

What a key, an event and the flush after them do to the application, each said once. Apart from the
status line a reaction consists of what becomes of the sheet and of the tasks and events it adds.
-/

namespace PropertySheet

namespace App

/-! ## Keys -/

/-- All that a key can do: it is for the sheet alone, or for the application as well. -/
inductive AfterKey (a : App) (k : Key) : App → Prop
  | interrupt : AfterKey a k (a.emit .quit)
  | sheet (status : String) : AfterKey a k { a with sheet := (a.sheet.handleKey k).1, status }
  | leave : AfterKey a k ({ a with sheet := (a.sheet.handleKey k).1 : App }.emit .quit)
  | save (s : Snapshot) : a.snapshot = some s → (a.sheet.handleKey k).1.config.readOnly = false →
      AfterKey a k ({ a with sheet := (a.sheet.handleKey k).1, status := "Saving" : App }.addTask
        (.save s (a.sheet.handleKey k).1.changes))
  | reload (s : Snapshot) : a.snapshot = some s → k.code = .char 'r' →
      (a.sheet.handleKey k).2 = false →
      AfterKey a k ({ a with sheet := (a.sheet.handleKey k).1 : App }.load s.component)

theorem afterKey_handleKey (a : App) (k : Key) : AfterKey a k (a.handleKey k) := by
  unfold handleKey
  split
  · exact .interrupt
  · dsimp only
    split
    · exact .sheet a.status
    next htaken =>
      unfold handleOwnKey
      split
      · unfold save
        split
        · exact .sheet a.status
        next hedits =>
          split
          · exact .sheet a.status
          next s hs =>
            split
            · exact .save s hs (Bool.eq_false_iff.mpr hedits)
            · exact .sheet _
      next hcode =>
        unfold reload
        split
        · exact .sheet a.status
        next s hs => exact .reload s hs hcode (Bool.eq_false_iff.mpr htaken)
      · exact .leave
      · exact .leave
      · exact .sheet a.status

/-- A key leaves the sheet alone, or is handed to it. -/
theorem sheet_handleKey (a : App) (k : Key) :
    (a.handleKey k).sheet = a.sheet ∨ (a.handleKey k).sheet = (a.sheet.handleKey k).1 := by
  have hafter := a.afterKey_handleKey k
  generalize a.handleKey k = b at hafter ⊢
  cases hafter with
  | interrupt => exact .inl rfl
  | sheet status => exact .inr rfl
  | leave => exact .inr rfl
  | save s _ _ => exact .inr rfl
  | reload s _ _ _ => exact .inr rfl

/-! ## The flush -/

theorem foldl_followSheet (a : App) (events : List SheetEvent) :
    ∃ status, events.foldl followSheet a = { a with
      status, tasks := a.tasks ++ (events.filterMap (·.destination?)).map .load } := by
  induction events generalizing a with
  | nil => exact ⟨a.status, by simp⟩
  | cons e events ih =>
    obtain ⟨status, hrest⟩ := ih (a.followSheet e)
    refine ⟨status, ?_⟩
    rw [List.foldl_cons, hrest]
    cases e with
    | notice n => rfl
    | navigate id groupId => simp [followSheet, load, addTask, SheetEvent.destination?]

/-- The flush leaves nothing in the queues of the sheet. -/
theorem flush_eq (a : App) : ∃ status, a.flush = { a with
    sheet := a.sheet.takeRequests.1.takeEvents.1
    status
    tasks := a.tasks ++ a.sheet.requests.map (.respond a.component) ++
      (a.sheet.events.filterMap (·.destination?)).map .load } :=
  foldl_followSheet _ _

/-! ## Showing a component -/

/-- The sheet that shows a component instead of what it showed before. -/
def shown (u : Sheet) (s : Snapshot) (histories : Histories) : Sheet :=
  (u.load s.properties s.descriptors histories).1.setGroup s.parentGroupId

/-- A component whose properties have distinct names is shown. -/
theorem display_eq (a : App) {s : Snapshot} (hs : (s.properties.map (·.1)).Nodup)
    (histories : Histories) : ∃ status, a.display s histories = { a with
      component := s.component, sheet := shown a.sheet s histories, status, snapshot := some s } := by
  obtain ⟨hok, _⟩ := a.sheet.load_of_nodup hs s.descriptors histories
  rw [display, shown]
  generalize a.sheet.load s.properties s.descriptors histories = result at hok
  obtain ⟨sheet, result⟩ := result
  obtain rfl : result = .ok () := hok
  exact ⟨_, rfl⟩

/-- Showing a component has to do with the sheet alone. -/
theorem display_frame (a : App) (s : Snapshot) (histories : Histories) :
    (a.display s histories).settings = a.settings ∧ (a.display s histories).tasks = a.tasks ∧
      (a.display s histories).events = a.events := by
  unfold display
  dsimp only
  split
  · exact ⟨rfl, rfl, rfl⟩
  · exact ⟨rfl, rfl, rfl⟩

/-! ## Tasks -/

/-- The tasks that a key adds: a save of the changes, or a load of what is shown. -/
theorem tasks_handleKey {a : App} {k : Key} {t : Task} (ht : t ∈ (a.handleKey k).tasks) :
    t ∈ a.tasks ∨
    (∃ s, a.snapshot = some s ∧ (a.sheet.handleKey k).1.config.readOnly = false ∧
      (a.handleKey k).sheet = (a.sheet.handleKey k).1 ∧
      t = .save s (a.handleKey k).sheet.changes) ∨
    (∃ s, a.snapshot = some s ∧ t = .load s.component ∧ k.code = .char 'r' ∧
      (a.sheet.handleKey k).2 = false) := by
  have hafter := a.afterKey_handleKey k
  generalize a.handleKey k = b at hafter ht ⊢
  cases hafter with
  | interrupt => exact .inl ht
  | sheet status => exact .inl ht
  | leave => exact .inl ht
  | save s hs hedits =>
    rcases List.mem_append.mp ht with ht | ht
    · exact .inl ht
    · exact .inr (.inl ⟨s, hs, hedits, rfl, List.mem_singleton.mp ht⟩)
  | reload s hs hcode htaken =>
    rcases List.mem_append.mp ht with ht | ht
    · exact .inl ht
    · exact .inr (.inr ⟨s, hs, List.mem_singleton.mp ht, hcode, htaken⟩)

/-- The task that an event adds: what has been saved is loaded. -/
theorem tasks_handleEvent {a : App} {e : AppEvent} {t : Task} (ht : t ∈ (a.handleEvent e).tasks) :
    t ∈ a.tasks ∨ ∃ s, e = .saved (.ok s) ∧ t = .load s.component := by
  cases e with
  | responded r => exact .inl ht
  | loaded result =>
    cases result with
    | error e => exact .inl ht
    | ok shown =>
      have ht : t ∈ (a.display shown.1 shown.2).tasks := ht
      rw [(a.display_frame shown.1 shown.2).2.1] at ht
      exact .inl ht
  | saved result =>
    cases result with
    | error e => exact .inl ht
    | ok s =>
      rcases List.mem_append.mp ht with ht | ht
      · exact .inl ht
      · exact .inr ⟨s, rfl, List.mem_singleton.mp ht⟩
  | quit => exact .inl ht

/-- The tasks that the flush adds: an answer to each request of the sheet, and a load for each wish
to go to a service. -/
theorem tasks_flush {a : App} {t : Task} (ht : t ∈ a.flush.tasks) :
    t ∈ a.tasks ∨ (∃ q ∈ a.sheet.requests, t = .respond a.component q) ∨
    ∃ e ∈ a.sheet.events, ∃ c, e.destination? = some c ∧ t = .load c := by
  obtain ⟨status, hflush⟩ := a.flush_eq
  rw [hflush] at ht
  rcases List.mem_append.mp ht with ht | ht
  · rcases List.mem_append.mp ht with ht | ht
    · exact .inl ht
    · obtain ⟨q, hq, rfl⟩ := List.mem_map.mp ht
      exact .inr (.inl ⟨q, hq, rfl⟩)
  · obtain ⟨c, hc, rfl⟩ := List.mem_map.mp ht
    obtain ⟨e, he, hdestination⟩ := List.mem_filterMap.mp hc
    exact .inr (.inr ⟨e, he, c, hdestination, rfl⟩)

/-- Of the reactions only that to a key saves: the changes that are held then, of what is shown. -/
theorem save_of_handleKey {a : App} {k : Key} {s : Snapshot} {changes : Changes}
    (h : .save s changes ∈ (a.handleKey k).tasks) : .save s changes ∈ a.tasks ∨
      a.snapshot = some s ∧ changes = (a.handleKey k).sheet.changes := by
  rcases tasks_handleKey h with hold | ⟨s', hs', _, _, heq⟩ | ⟨s', _, heq, _, _⟩
  · exact .inl hold
  · cases heq
    exact .inr ⟨hs', rfl⟩
  · cases heq

theorem save_of_handleEvent {a : App} {e : AppEvent} {s : Snapshot} {changes : Changes}
    (h : .save s changes ∈ (a.handleEvent e).tasks) : .save s changes ∈ a.tasks := by
  rcases tasks_handleEvent h with hold | ⟨s', _, heq⟩
  · exact hold
  · cases heq

theorem save_of_flush {a : App} {s : Snapshot} {changes : Changes}
    (h : .save s changes ∈ a.flush.tasks) : .save s changes ∈ a.tasks := by
  rcases tasks_flush h with hold | ⟨q, _, heq⟩ | ⟨e, _, c, _, heq⟩
  · exact hold
  · cases heq
  · cases heq

/-! ## Drawing -/

/-- Drawing changes nothing but the view of the sheet. -/
theorem fit_eq (a : App) (area : Rect) :
    ∃ area' : Rect, a.fit area = { a with sheet := a.sheet.resize area' } ∨ a.fit area = a := by
  unfold fit
  split
  · exact ⟨area, .inr rfl⟩
  · exact ⟨sheetArea area, .inl rfl⟩

/-! ## Events -/

/-- A key adds no event but the wish to leave. -/
theorem events_handleKey (a : App) (k : Key) :
    (a.handleKey k).events = a.events ∨ (a.handleKey k).events = a.events ++ [.quit] := by
  have hafter := a.afterKey_handleKey k
  generalize a.handleKey k = b at hafter ⊢
  cases hafter with
  | interrupt => exact .inr rfl
  | sheet status => exact .inl rfl
  | leave => exact .inr rfl
  | save s _ _ => exact .inl rfl
  | reload s _ _ _ => exact .inl rfl

/-- An event adds no event, and changes no setting. -/
theorem handleEvent_frame (a : App) (e : AppEvent) :
    (a.handleEvent e).settings = a.settings ∧ (a.handleEvent e).events = a.events := by
  cases e with
  | responded r => exact ⟨rfl, rfl⟩
  | loaded result =>
    cases result with
    | error e => exact ⟨rfl, rfl⟩
    | ok shown =>
      obtain ⟨hsettings, _, hevents⟩ := a.display_frame shown.1 shown.2
      exact ⟨hsettings, hevents⟩
  | saved result =>
    cases result with
    | error e => exact ⟨rfl, rfl⟩
    | ok s => exact ⟨rfl, rfl⟩
  | quit => exact ⟨rfl, rfl⟩

@[simp]
theorem events_handleEvent (a : App) (e : AppEvent) : (a.handleEvent e).events = a.events :=
  (a.handleEvent_frame e).2

@[simp]
theorem events_flush (a : App) : a.flush.events = a.events := by
  obtain ⟨status, hflush⟩ := a.flush_eq
  rw [hflush]

/-! ## Settings -/

@[simp]
theorem settings_handleKey (a : App) (k : Key) : (a.handleKey k).settings = a.settings := by
  have hafter := a.afterKey_handleKey k
  generalize a.handleKey k = b at hafter ⊢
  cases hafter with
  | interrupt => rfl
  | sheet status => rfl
  | leave => rfl
  | save s _ _ => rfl
  | reload s _ _ _ => rfl

@[simp]
theorem settings_handleEvent (a : App) (e : AppEvent) : (a.handleEvent e).settings = a.settings :=
  (a.handleEvent_frame e).1

@[simp]
theorem settings_flush (a : App) : a.flush.settings = a.settings := by
  obtain ⟨status, hflush⟩ := a.flush_eq
  rw [hflush]

@[simp]
theorem settings_fit (a : App) (area : Rect) : (a.fit area).settings = a.settings := by
  unfold fit
  split
  · rfl
  · rfl

end App

end PropertySheet
