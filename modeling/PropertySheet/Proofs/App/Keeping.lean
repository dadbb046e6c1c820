import PropertySheet.Proofs.App.Loading
import PropertySheet.Proofs.Sheet.ReadOnly

/-!
# What becomes of an unsaved change

A reload replaces the rows, and with them the changes that they hold. Besides the user, who asks for
one with a key, it is the end of a save and the way to a service that bring one, and meanwhile the
user goes on editing. A change is safe as long as everything that is under way carries it
(`Carried`): a save with the change in its body, or a request to leave that names it as unsaved.
Then it is held until its row is edited again or the backend has accepted it (`keeps_change`).

A change that is made after a save has begun is not carried by it, and the reload that follows the
save drops it (`not_keeps_change_deletingLateRun`).
-/

namespace PropertySheet

/-! ## Tasks that carry a change -/

/-- A request that saves a change, and is accepted. -/
structure RoundTrip.Saves (trip : RoundTrip) (name : String) (value : Option String) : Prop where
  method : trip.query.method = .put
  body : trip.query.body.bind (savedValue? · name) = some (.ofText? value)
  accepted : ∃ a, trip.answer = some a ∧ a.isSuccess

/-- A task loses no change of a component: it loads nothing, or deals with the change before. -/
def Task.Carries (component : ComponentRef) (name : String) (value : Option String) : Task → Prop
  | .load _ => False
  | .save s changes => s.component = component ∧ changes.get? name = some value
  | .respond c q => ∀ unsaved, q.unsaved? = some unsaved →
      c = component ∧ unsaved.bind (·.get? name) = some value

/-- The events that load something, or have the application load something. -/
def AppEvent.Leads : AppEvent → Prop
  | .loaded (.ok _) | .saved (.ok _) | .responded (.serviceLocated _ (.ok (some _))) => True
  | _ => False

theorem RoundTrip.Saves.of_update {u : Url} {s : Snapshot} {changes : Changes} {clientId : String}
    {name : String} {value : Option String} {a : Answer} (h : changes.get? name = some value)
    (ha : a.isSuccess) :
    RoundTrip.Saves ⟨Client.updateQuery u s changes clientId, some a⟩ name value where
  method := rfl
  body := by
    show savedValue? (s.updateBody changes clientId) name = some (.ofText? value)
    rw [Snapshot.savedValue?_updateBody, h]
    rfl
  accepted := ⟨a, rfl, ha⟩

/-- A task that carries a change and ends in an event that leads to a load has saved the change. -/
theorem Task.exists_saves {t : Task} {c : Client Talk} {policy : UnsavedPolicy}
    {said : List RoundTrip} {e : AppEvent} (hpromise : t.Promise c policy said e)
    (hpolicy : policy ≠ .discard) {component : ComponentRef} {name : String} {value : Option String}
    (hcarries : t.Carries component name value) (he : e.Leads) :
    ∃ (k : Nat) (trip : RoundTrip), said[k]? = some trip ∧ trip.Saves name value := by
  cases t with
  | load component' => exact hcarries.elim
  | save s changes =>
    obtain ⟨result, rfl, hsaved⟩ := hpromise
    cases result with
    | error e => exact he.elim
    | ok s' =>
      obtain ⟨u, a, _, hfirst, hentity⟩ := hsaved s' rfl
      exact ⟨0, _, hfirst, .of_update hcarries.2 (Answer.isSuccess_of_entity? hentity)⟩
  | respond c' q =>
    obtain ⟨r, rfl, htoken, hlocated⟩ := hpromise
    -- the user leaves, and had to deal with the change before
    obtain ⟨service, rfl⟩ : ∃ service, r = .serviceLocated q.token (.ok (some service)) := by
      unfold AppEvent.Leads at he
      split at he
      next h => cases h
      next h => cases h
      next t service h =>
        cases h
        exact ⟨service, congrArg (Response.serviceLocated · _) htoken⟩
      · exact he.elim
    obtain ⟨id, unsaved, hq, hleft⟩ := hlocated service rfl
    obtain ⟨_, hchange⟩ := hcarries unsaved (by rw [hq]; rfl)
    obtain ⟨changes, rfl, hget⟩ := Option.bind_eq_some_iff.mp hchange
    obtain ⟨before, last, rfl, hagreed⟩ := hleft changes rfl
    obtain ⟨k, u, s, a, hk, ha⟩ :=
      hagreed.exists_saved (Changes.isEmpty_eq_false_of_get? hget) hpolicy
    refine ⟨k, ⟨Client.updateQuery u s changes c.clientId, some a⟩, ?_, .of_update hget ha⟩
    rw [List.getElem?_append_left (List.getElem?_eq_some_iff.mp hk).1]
    exact hk

/-- The number of a task that begins. -/
def Note.began? : Note → Option Nat
  | .began n _ => some n
  | _ => none

theorem Note.eq_of_handled? {x : Note} {n : Nat} (h : x.handled? = some n) :
    ∃ e, x = .handled (some n) e := by
  cases x with
  | began n t => cases h
  | heard n t k trip => cases h
  | handled n e =>
    cases h
    exact ⟨e, rfl⟩

/-- The body of a request sets a property. -/
def Note.sets (name : String) : Note → Bool
  | .heard _ _ _ trip => (trip.query.body.bind (savedValue? · name)).isSome
  | _ => false

/-! ## Reactions -/

namespace App

variable {a b : App} {name : String} {value : Option String}

/-- A row whose change was held has another one, or none, while nothing is loaded. -/
structure Edits (a b : App) (name : String) (value : Option String) : Prop where
  keeps : a.Keeps b
  held : a.sheet.changes.get? name = some value
  row : ∃ r ∈ b.sheet.rows, r.property = name ∧ Changes.ofRow r ≠ some value

/-- While nothing is loaded a change goes on being held unless its row is edited. -/
theorem Keeps.held_or_edits (h : a.Keeps b) (hidx : a.sheet.store.Indexed)
    (hheld : a.sheet.changes.get? name = some value) :
    b.sheet.changes.get? name = some value ∨ a.Edits b name value := by
  by_cases hb : b.sheet.changes.get? name = some value
  · exact .inl hb
  refine .inr ⟨h, hheld, ?_⟩
  obtain ⟨ops, hops, hsheet⟩ := h.sheet
  obtain ⟨added, hlisting⟩ := World.listing_run hidx hops
  rw [← hsheet] at hlisting
  have hrow : ∃ r ∈ a.sheet.rows, r.property = name := by
    by_contra hnone
    have hget : a.sheet.changes.get? name = none :=
      Changes.get?_ofRows_of_forall_ne fun r hr hproperty => hnone ⟨r, hr, hproperty⟩
    rw [hheld] at hget
    cases hget
  obtain ⟨r, hr, rfl⟩ := hrow
  have hlisted : (r.property, r.kind) ∈ b.sheet.store.listing := by
    rw [hlisting]
    exact List.mem_append_left _ (List.mem_map_of_mem hr)
  obtain ⟨r', hr', heq⟩ := List.mem_map.mp hlisted
  have hproperty : r'.property = r.property := congrArg Prod.fst heq
  refine ⟨r', hr', hproperty, fun hsame => hb ?_⟩
  have hidx' : b.sheet.store.Indexed := hsheet ▸ Sheet.indexed_run hidx ops
  rw [← hproperty]
  exact (Changes.get?_ofRows_of_mem hidx'.properties_nodup hr').trans hsame

theorem leaves_handleKey (a : App) (k : Key) : a.sheet.Leaves (a.handleKey k).sheet := by
  rcases a.sheet_handleKey k with hsame | hhanded
  · rw [hsame]
    exact a.sheet.stays_self.leaves
  · rw [hhanded]
    exact a.sheet.leaves_handleKey k

theorem orderly_handleKey (h : a.sheet.Orderly) (k : Key) : (a.handleKey k).sheet.Orderly := by
  rcases a.sheet_handleKey k with hsame | hhanded
  · rw [hsame]
    exact h
  · rw [hhanded]
    exact h.handleKey k

theorem orderly_handleEvent (h : a.sheet.Orderly) (e : AppEvent) :
    (a.handleEvent e).sheet.Orderly := by
  cases e with
  | responded r => exact h.complete r
  | loaded result =>
    cases result with
    | error e => exact h
    | ok shown =>
      have hloaded := h.load shown.1.properties shown.1.descriptors shown.2
      show (a.display shown.1 shown.2).sheet.Orderly
      unfold display
      dsimp only
      split
      · exact hloaded
      · exact ⟨hloaded.indexed, fun hread => { hloaded.locked hread with }⟩
  | saved result =>
    cases result with
    | error e => exact h
    | ok s => exact h
  | quit => exact ⟨h.indexed, fun hread => { h.locked hread with editor := rfl }⟩

theorem orderly_flush (h : a.sheet.Orderly) : a.flush.sheet.Orderly := by
  obtain ⟨status, hflush⟩ := a.flush_eq
  rw [hflush]
  exact ⟨h.indexed, fun hread => { h.locked hread with }⟩

@[simp]
theorem changes_flush (a : App) : a.flush.sheet.changes = a.sheet.changes := by
  obtain ⟨status, hflush⟩ := a.flush_eq
  rw [hflush]
  rfl

/-- An event that loads nothing and leads to no load keeps the user where they are. -/
theorem stays_handleEvent (a : App) {e : AppEvent} (he : ¬ e.Leads) :
    a.sheet.Stays (a.handleEvent e).sheet := by
  cases e with
  | responded r =>
    refine a.sheet.stays_complete fun t service heq => ?_
    subst heq
    exact he trivial
  | loaded result =>
    cases result with
    | error e => exact a.sheet.stays_self
    | ok shown => exact absurd trivial he
  | saved result =>
    cases result with
    | error e => exact a.sheet.stays_self
    | ok s => exact a.sheet.stays_self
  | quit => exact ⟨rfl, rfl, rfl, rfl⟩

/-- The tasks that the flush adds carry every change that is held then, if the sheet has only asked
to leave since its queues were empty. -/
theorem carries_of_flush (horderly : a.sheet.Orderly)
    (hheld : a.sheet.changes.get? name = some value)
    (hdepartures : ∀ unsaved ∈ a.sheet.departures, unsaved = a.sheet.unsaved)
    (hdestinations : a.sheet.destinations = []) {t : Task} (ht : t ∈ a.flush.tasks) :
    t ∈ a.tasks ∨ t.Carries a.component name value := by
  rcases tasks_flush ht with ht | ⟨q, hq, rfl⟩ | ⟨e, he, c, hc, rfl⟩
  · exact .inl ht
  · refine .inr fun unsaved hunsaved => ⟨rfl, ?_⟩
    rw [hdepartures unsaved (List.mem_filterMap.mpr ⟨q, hq, hunsaved⟩), horderly.unsaved_eq hheld]
    exact hheld
  · have hmem : c ∈ a.sheet.destinations := List.mem_filterMap.mpr ⟨e, he, hc⟩
    rw [hdestinations] at hmem
    cases hmem

end App

namespace World

variable {w w' : World} {name : String} {value : Option String}

/-! ## Tasks under way -/

/-- A task has begun, and its event has not been handled. -/
def UnderWay (w : World) (n : Nat) (t : Task) : Prop :=
  .began n t ∈ w.log ∧ ∀ e, .handled (some n) e ∉ w.log

/-- A change is held by the sheet. -/
def Holds (w : World) (name : String) (value : Option String) : Prop :=
  w.app.sheet.changes.get? name = some value

/-- Everything that is under way carries a change. -/
def Carried (w : World) (name : String) (value : Option String) : Prop :=
  ∀ n t, w.UnderWay n t → t.Carries w.app.component name value

/-- A task that carries a change, and had not ended then, has saved it since. -/
def Saved (w w' : World) (name : String) (value : Option String) : Prop :=
  ∃ n t k trip, .heard n t k trip ∈ w'.log ∧ (∀ e, .handled (some n) e ∉ w.log) ∧
    t.Carries w.app.component name value ∧ trip.Saves name value

/-- One of the moves edits the row of a change. -/
def Edited (w : World) (moves : List Move) (name : String) (value : Option String) : Prop :=
  ∃ before m after v v', moves = before ++ m :: after ∧ w.run? before = some v ∧
    v.step? m = some v' ∧ v.app.Edits v'.app name value

/-- The user asks for a reload: the key is not for the sheet. -/
def Reloads (w : World) : Move → Prop
  | .press k => k.code = .char 'r' ∧ (w.app.sheet.handleKey k).2 = false
  | _ => False

/-- None of the moves asks for a reload. -/
def Spares : World → List Move → Prop
  | _, [] => True
  | w, m :: moves => ¬ w.Reloads m ∧ ∀ w', w.step? m = some w' → w'.Spares moves

/-- All that is known of a world of a run. -/
structure Sound (w : World) : Prop where
  coherent : w.Coherent
  numbered : w.Numbered
  shows : w.app.ShowsLast w.loadsShown
  orderly : w.app.sheet.Orderly

/-- A note of something else than the start of a task. -/
theorem Carried.note (hw : w.Carried name value) (hcomponent : w'.app.component = w.app.component)
    {x : Note} (hlog : w'.log = w.log ++ [x]) (hx : x.began? = none) : w'.Carried name value := by
  intro n t ⟨hbegan, hhandled⟩
  rw [hlog] at hbegan hhandled
  rw [hcomponent]
  rcases List.mem_append.mp hbegan with hold | hnew
  · exact hw n t ⟨hold, fun e he => hhandled e (List.mem_append_left _ he)⟩
  · rw [← List.mem_singleton.mp hnew] at hx
    cases hx

/-- A reaction whose tasks carry a change. -/
theorem Carried.react (hw : w.Carried name value) {a : App} (hcomponent : a.component = w.app.component)
    (ha : ∀ t ∈ a.tasks, t.Carries a.component name value) : (w.react a).Carried name value := by
  intro n t ⟨hbegan, hhandled⟩
  have hext : ∀ x ∈ w.log, x ∈ (w.react a).log := by
    rw [World.react, foldl_launch]
    exact fun x hx => List.mem_append_left _ hx
  rw [app_react]
  rcases began_react hbegan with hold | hnew
  · show t.Carries a.component name value
    rw [hcomponent]
    exact hw n t ⟨hold, fun e he => hhandled e (hext _ he)⟩
  · exact ha t hnew

/-- A reaction holds what the application held before it was flushed. -/
theorem holds_react {a : App} :
    (w.react a.flush).Holds name value ↔ a.sheet.changes.get? name = some value := by
  rw [Holds, app_react]
  show a.flush.sheet.changes.get? name = some value ↔ _
  rw [App.changes_flush]

/-- Between moves the sheet has not asked to leave, and leads nowhere. -/
theorem Coherent.departures_eq (hw : w.Coherent) : w.app.sheet.departures = [] := by
  rw [Sheet.departures, hw.requests]
  rfl

theorem Coherent.destinations_eq (hw : w.Coherent) : w.app.sheet.destinations = [] := by
  rw [Sheet.destinations, hw.sheetEvents]
  rfl

/-- A key that does not reload begins only tasks that carry what is held then. -/
theorem Sound.carried_press (hw : w.Sound) {k : Key} (hreload : ¬ w.Reloads (.press k))
    (hcarried : w.Carried name value)
    (hheld : (w.app.handleKey k).sheet.changes.get? name = some value) :
    (w.react (w.app.handleKey k).flush).Carried name value := by
  have hkeeps := w.app.keeps_handleKey k
  have hflush := (w.app.handleKey k).keeps_flush
  have hleaves := w.app.leaves_handleKey k
  have hdepartures : ∀ unsaved ∈ (w.app.handleKey k).sheet.departures,
      unsaved = (w.app.handleKey k).sheet.unsaved := by
    intro unsaved hunsaved
    have hone := hleaves.departures
    rw [hw.coherent.departures_eq, List.nil_append] at hone
    rcases hone with hnone | hasked
    · rw [hnone] at hunsaved
      cases hunsaved
    · rw [hasked] at hunsaved
      exact List.mem_singleton.mp hunsaved
  have hdestinations := hleaves.destinations.trans hw.coherent.destinations_eq
  refine hcarried.react (hflush.component.trans hkeeps.component) fun t ht => ?_
  rw [hflush.component]
  rcases App.carries_of_flush (App.orderly_handleKey hw.orderly k) hheld hdepartures hdestinations
    ht with ht | hcarries
  · rcases App.tasks_handleKey ht with ht | ⟨s, hs, _, _, rfl⟩ | ⟨s, _, _, hcode, htaken⟩
    · rw [hw.coherent.tasks] at ht
      cases ht
    · obtain ⟨_, _, _, hshowing⟩ := hw.shows.showing hs
      exact ⟨hshowing.component.symm.trans hkeeps.component.symm, hheld⟩
    · exact absurd ⟨hcode, htaken⟩ hreload
  · exact hcarries

/-- The reaction to an event that leads to no load begins only tasks that carry what is held. -/
theorem Sound.carried_consume (hw : w.Sound) {n : Option Nat} {e : AppEvent}
    {rest : List (Option Nat × AppEvent)} (he : ¬ e.Leads)
    (hkeeps : w.app.Keeps (w.app.handleEvent e)) (hcarried : w.Carried name value)
    (hheld : (w.app.handleEvent e).sheet.changes.get? name = some value) :
    (w.consume n e rest).Carried name value := by
  have hnoted : Carried { w with inbox := rest, log := w.log ++ [.handled n e] } name value :=
    hcarried.note rfl rfl rfl
  have hflush := (w.app.handleEvent e).keeps_flush
  have hstays := w.app.stays_handleEvent he
  have hdepartures := hstays.departures.trans hw.coherent.departures_eq
  have hdestinations := hstays.destinations.trans hw.coherent.destinations_eq
  refine hnoted.react (hflush.component.trans hkeeps.component) fun t ht => ?_
  rw [hflush.component]
  have hnone : ∀ unsaved ∈ (w.app.handleEvent e).sheet.departures,
      unsaved = (w.app.handleEvent e).sheet.unsaved := by
    intro unsaved hunsaved
    rw [hdepartures] at hunsaved
    cases hunsaved
  rcases App.carries_of_flush (App.orderly_handleEvent hw.orderly e) hheld hnone hdestinations ht
    with ht | hcarries
  · rcases App.tasks_handleEvent ht with ht | ⟨s, rfl, _⟩
    · rw [hw.coherent.tasks] at ht
      cases ht
    · exact absurd trivial he
  · exact hcarries

/-! ## One move -/

/-- An event that leads to a load has come from a task that has saved every change that everything
under way carries. -/
theorem Sound.saved_of_leads (hw : w.Sound) (hpolicy : w.app.settings.unsavedChanges ≠ .discard)
    (hcarried : w.Carried name value) {n : Option Nat} {e : AppEvent} (hmem : (n, e) ∈ w.inbox)
    (he : e.Leads) : w.Saved w name value := by
  have hexplained := hw.coherent.inbox n e hmem
  cases n with
  | none =>
    obtain rfl : e = .quit := hexplained
    exact he.elim
  | some n =>
    obtain ⟨t, said, hbegan, hheard, hpromise⟩ := hexplained
    have hunhandled := hw.numbered.unhandled hmem
    have hcarries := hcarried n t ⟨hbegan, hunhandled⟩
    obtain ⟨k, trip, hk, hsaves⟩ := Task.exists_saves hpromise hpolicy hcarries he
    exact ⟨n, t, k, trip, hheard k trip hk, hunhandled, hcarries, hsaves⟩

/-- A change that is held is held after a move that loads nothing, or its row is edited. -/
theorem Sound.cases_of_keeps (hw : w.Sound) (hheld : w.Holds name value)
    (hkeeps : w.app.Keeps w'.app) (hcarried : w'.Holds name value → w'.Carried name value) :
    (w'.Holds name value ∧ w'.Carried name value ∧ w'.app.component = w.app.component) ∨
      w.app.Edits w'.app name value ∨ w.Saved w name value := by
  rcases hkeeps.held_or_edits hw.orderly.indexed hheld with hheld' | hedits
  · exact .inl ⟨hheld', hcarried hheld', hkeeps.component⟩
  · exact .inr (.inl hedits)

/-- A change that everything under way carries is held and carried after a move as well, or the move
edits its row, or it has been saved. -/
theorem Sound.step_cases (hw : w.Sound) (hpolicy : w.app.settings.unsavedChanges ≠ .discard)
    (hheld : w.Holds name value) (hcarried : w.Carried name value) {m : Move}
    (hreload : ¬ w.Reloads m) (hstep : w.Steps m w') :
    (w'.Holds name value ∧ w'.Carried name value ∧ w'.app.component = w.app.component) ∨
      w.app.Edits w'.app name value ∨ w.Saved w name value := by
  cases hstep with
  | press k =>
    refine hw.cases_of_keeps hheld ((w.app.keeps_handleKey k).trans (w.keeps_react _)) fun h => ?_
    exact hw.carried_press hreload hcarried (holds_react.mp h)
  | draw area =>
    have hkeeps := w.app.keeps_fit area
    refine hw.cases_of_keeps hheld hkeeps fun _ n t ht => ?_
    show t.Carries (w.app.fit area).component name value
    rw [hkeeps.component]
    exact hcarried n t ht
  | @handle n e rest hinbox =>
    by_cases he : e.Leads
    · exact .inr (.inr (hw.saved_of_leads hpolicy hcarried (hinbox ▸ List.mem_cons_self) he))
    rcases w.app.handleEvent_cases e with ⟨s, histories, rfl⟩ | ⟨_, hevent⟩
    · exact absurd trivial he
    refine hw.cases_of_keeps hheld (hevent.trans (keeps_react _ _)) fun h => ?_
    exact hw.carried_consume he hevent hcarried (holds_react.mp h)
  | hear r hf htalk => exact .inl ⟨hheld, hcarried.note rfl rfl rfl, rfl⟩
  | finish hf htalk => exact .inl ⟨hheld, hcarried, rfl⟩

/-! ## Every run -/

theorem Sound.step (hw : w.Sound) {m : Move} (hstep : w.Steps m w') : w'.Sound := by
  refine ⟨hw.coherent.step hstep, hw.numbered.step hstep,
    showsLast_step hw.coherent hw.shows hstep, ?_⟩
  cases hstep with
  | press k =>
    rw [app_react]
    exact App.orderly_flush (App.orderly_handleKey hw.orderly k)
  | draw area =>
    obtain ⟨area', hfit | hfit⟩ := w.app.fit_eq area
    · show (w.app.fit area).sheet.Orderly
      rw [hfit]
      exact ⟨hw.orderly.indexed, fun hread => { hw.orderly.locked hread with }⟩
    · show (w.app.fit area).sheet.Orderly
      rw [hfit]
      exact hw.orderly
  | @handle n e rest hinbox =>
    rw [consume, app_react]
    exact App.orderly_flush (App.orderly_handleEvent hw.orderly e)
  | hear r hf htalk => exact hw.orderly
  | finish hf htalk => exact hw.orderly

theorem sound_start (settings : Settings) (clientId : String) :
    (start settings clientId).Sound := by
  refine ⟨coherent_start settings clientId, numbered_start settings clientId,
    showsLast_start settings clientId, ?_⟩
  rw [start, app_react]
  exact App.orderly_flush (a := App.ofSettings settings) (Sheet.orderly_ofConfig _)

theorem sound_run {settings : Settings} {clientId : String} {moves : List Move}
    (hrun : (start settings clientId).run? moves = some w) : w.Sound :=
  run?_invariant (fun _ _ _ hv hstep => hv.step hstep) (sound_start settings clientId) hrun

theorem settings_run {settings : Settings} {clientId : String} {moves : List Move}
    (hrun : (start settings clientId).run? moves = some w) : w.app.settings = settings := by
  refine (extends_of_run? hrun).settings.trans ?_
  rw [start, app_react]
  exact App.settings_flush _

/-- The change is held at the end, its row has been edited, or it has been saved. -/
theorem Sound.run_cases (hw : w.Sound) (hpolicy : w.app.settings.unsavedChanges ≠ .discard)
    (hheld : w.Holds name value) (hcarried : w.Carried name value) {moves : List Move}
    (hspares : w.Spares moves) (hrun : w.run? moves = some w') :
    w'.Holds name value ∨ w.Edited moves name value ∨ w.Saved w' name value := by
  induction moves generalizing w with
  | nil =>
    cases hrun
    exact .inl hheld
  | cons m moves ih =>
    obtain ⟨v, hv, hrest⟩ := Option.bind_eq_some_iff.mp hrun
    have hstep := steps_of_step? hv
    have hext := extends_of_steps hstep
    rcases hw.step_cases hpolicy hheld hcarried hspares.1 hstep with
      ⟨hheld', hcarried', hcomponent⟩ | hedits | ⟨n, t, k, trip, hheard, hunder⟩
    · rw [← hext.settings] at hpolicy
      rcases ih (hw.step hstep) hpolicy hheld' hcarried' (hspares.2 v hv) hrest with
        hend | hedited | ⟨n, t, k, trip, hheard, hunhandled, hcarries, hsaves⟩
      · exact .inl hend
      · obtain ⟨before, m', after, u, u', rfl, hu, hu', hedits⟩ := hedited
        refine .inr (.inl ⟨m :: before, m', after, u, u', rfl, ?_, hu', hedits⟩)
        rw [run?_cons, hv]
        exact hu
      · rw [hcomponent] at hcarries
        exact .inr (.inr ⟨n, t, k, trip, hheard, fun e he => hunhandled e (hext.log _ he), hcarries,
          hsaves⟩)
    · exact .inr (.inl ⟨[], m, moves, w, v, rfl, rfl, hv, hedits⟩)
    · have hlater := hext.trans (extends_of_run? hrest)
      exact .inr (.inr ⟨n, t, k, trip, hlater.log _ hheard, hunder⟩)

/-! ## Runs of the small component -/

theorem spares_of_forall {moves : List Move}
    (h : ∀ k, .press k ∈ moves → k.code ≠ .char 'r') : w.Spares moves := by
  induction moves generalizing w with
  | nil => exact trivial
  | cons m moves ih =>
    refine ⟨?_, fun w' _ => ih fun k hk => h k (List.mem_cons_of_mem _ hk)⟩
    cases m with
    | press k => exact fun hreloads => h k List.mem_cons_self hreloads.1
    | draw area => exact id
    | handle => exact id
    | hear place answer => exact id
    | finish place => exact id

/-- The numbers of the tasks that have begun and whose events have not been handled. -/
def unsettled (w : World) : List Nat :=
  (w.log.filterMap (·.began?)).filter (· ∉ w.log.filterMap (·.handled?))

/-- Where every task has ended, every change is carried. -/
theorem carried_of_unsettled (h : w.unsettled = []) (name : String) (value : Option String) :
    w.Carried name value := by
  intro n t ⟨hbegan, hhandled⟩
  have hmem : n ∈ w.unsettled := by
    refine List.mem_filter.mpr ⟨List.mem_filterMap.mpr ⟨_, hbegan, rfl⟩, ?_⟩
    rw [decide_eq_true_iff]
    intro hpast
    obtain ⟨x, hx, hn⟩ := List.mem_filterMap.mp hpast
    obtain ⟨e, rfl⟩ := Note.eq_of_handled? hn
    exact hhandled e hx
  rw [h] at hmem
  cases hmem

/-- What there is to see of the changes of a world. -/
structure KeepingSummary where
  changes : List (String × Option String)
  unsettled : List Nat
  /-- The properties among `a` and `b` that a request has set. -/
  sent : List String
deriving DecidableEq

def keepingSummary (w : World) : KeepingSummary where
  changes := w.app.sheet.changes.toList
  unsettled := w.unsettled
  sent := ["a", "b"].filter fun name => w.log.any (·.sets name)

/-- The user deletes a property. -/
def deletingRun : List Move := loading 0 4 ++ [.press { code := .char 'd' }]

/-- The user saves, and what has been saved is loaded. -/
def savingRun : List Move :=
  [.press { code := .char 's' }, .hear 0 (taskAnswer 5), .finish 0, .handle] ++ loading 0 5

/-- The user saves, and deletes another property before the answer has come. -/
def deletingLateRun : List Move :=
  deletingRun ++ [.press { code := .char 's' }, .press { code := .char 'd' }]

/-- The save is accepted, and what has been saved is loaded. -/
def reloadingRun : List Move := [.hear 0 (taskAnswer 5), .finish 0, .handle] ++ loading 0 5

/-- The changes that are held, as a list. -/
theorem holds_iff : w.Holds name value ↔ (name, value) ∈ w.app.sheet.changes.toList :=
  (SortedMap.mem_toList_iff (m := w.app.sheet.changes) (e := (name, value))).symm

/-! ## No change is lost that everything carries -/

/-- Unless the policy is to discard changes, no change is lost that everything under way carries:
until the user asks for a reload it is held, or its row is edited, or a save with it is accepted. -/
theorem keeps_change {settings : Settings} {clientId : String} {before after : List Move}
    (hpolicy : settings.unsavedChanges ≠ .discard)
    (hbefore : (start settings clientId).run? before = some w) (hheld : w.Holds name value)
    (hcarried : w.Carried name value) (hafter : w.run? after = some w')
    (hspares : w.Spares after) :
    w'.Holds name value ∨ w.Edited after name value ∨ w.Saved w' name value := by
  rw [← settings_run hbefore] at hpolicy
  exact (sound_run hbefore).run_cases hpolicy hheld hcarried hspares hafter

theorem keeps_change_savingRun :
    ∃ w w', (start taskSettings "c").run? deletingRun = some w ∧ w.run? savingRun = some w' ∧
      w.Holds "a" none ∧ ¬ w'.Holds "a" none ∧
      (w.Edited savingRun "a" none ∨ w.Saved w' "a" none) := by
  have hseen : (((start taskSettings "c").run? deletingRun).bind fun w =>
      (w.run? savingRun).map fun w' => (keepingSummary w, keepingSummary w')) =
      some ({ changes := [("a", none)], unsettled := [], sent := [] },
        { changes := [], unsettled := [], sent := ["a"] }) := by
    decide +kernel
  obtain ⟨w, hbefore, hrest⟩ := Option.bind_eq_some_iff.mp hseen
  obtain ⟨w', hafter, hsummary⟩ := Option.map_eq_some_iff.mp hrest
  obtain ⟨hfirst, hlast⟩ := Prod.mk.inj hsummary
  have hchanges : w.app.sheet.changes.toList = [("a", none)] :=
    congrArg KeepingSummary.changes hfirst
  have hchanges' : w'.app.sheet.changes.toList = [] := congrArg KeepingSummary.changes hlast
  have hheld : w.Holds "a" none := by
    rw [holds_iff, hchanges]
    exact List.mem_cons_self
  have hdropped : ¬ w'.Holds "a" none := by
    rw [holds_iff, hchanges']
    exact List.not_mem_nil
  have hspares : w.Spares savingRun := by
    refine spares_of_forall fun k hk => ?_
    simp only [savingRun, loading, List.cons_append, List.nil_append, List.mem_cons,
      List.not_mem_nil, reduceCtorEq, Move.press.injEq, or_false] at hk
    rw [hk]
    decide
  rcases keeps_change (by decide) hbefore hheld
    (carried_of_unsettled (congrArg KeepingSummary.unsettled hfirst) _ _) hafter hspares with
    hend | hcase
  · exact absurd hend hdropped
  · exact ⟨w, w', hbefore, hafter, hheld, hdropped, hcase⟩

/-- The second property is deleted after the save has begun. The user presses no key after that, yet
the change is held no more when the component has been loaded, and no request has sent it. -/
theorem not_keeps_change_deletingLateRun :
    taskSettings.unsavedChanges ≠ .discard ∧ (∀ k, .press k ∉ reloadingRun) ∧
    ∃ w w', (start taskSettings "c").run? deletingLateRun = some w ∧
      w.run? reloadingRun = some w' ∧ w.Holds "b" none ∧ ¬ w'.Holds "b" none ∧
      ∀ n t k trip, .heard n t k trip ∈ w'.log → ¬ trip.Saves "b" none := by
  have hseen : (((start taskSettings "c").run? deletingLateRun).bind fun w =>
      (w.run? reloadingRun).map fun w' => (keepingSummary w, keepingSummary w')) =
      some ({ changes := [("a", none), ("b", none)], unsettled := [1], sent := [] },
        { changes := [], unsettled := [], sent := ["a"] }) := by
    decide +kernel
  obtain ⟨w, hbefore, hrest⟩ := Option.bind_eq_some_iff.mp hseen
  obtain ⟨w', hafter, hsummary⟩ := Option.map_eq_some_iff.mp hrest
  obtain ⟨hfirst, hlast⟩ := Prod.mk.inj hsummary
  have hchanges : w.app.sheet.changes.toList = [("a", none), ("b", none)] :=
    congrArg KeepingSummary.changes hfirst
  have hchanges' : w'.app.sheet.changes.toList = [] := congrArg KeepingSummary.changes hlast
  have hsent : (["a", "b"].filter fun name => w'.log.any (·.sets name)) = ["a"] :=
    congrArg KeepingSummary.sent hlast
  refine ⟨by decide, ?_, w, w', hbefore, hafter, ?_, ?_, ?_⟩
  · intro k hk
    simp [reloadingRun, loading] at hk
  · rw [holds_iff, hchanges]
    exact List.mem_cons_of_mem _ List.mem_cons_self
  · rw [holds_iff, hchanges']
    exact List.not_mem_nil
  · intro n t k trip hheard hsaves
    have hsets : (Note.heard n t k trip).sets "b" = true := by
      rw [Note.sets, hsaves.body]
      rfl
    have hmem : "b" ∈ ["a", "b"].filter fun name => w'.log.any (·.sets name) :=
      List.mem_filter.mpr ⟨by decide, List.any_eq_true.mpr ⟨_, hheard, hsets⟩⟩
    rw [hsent] at hmem
    exact absurd hmem (by decide)

end World

end PropertySheet
