import PropertySheet.Proofs.App.Keeping
import PropertySheet.Proofs.Sheet.Tokens

/-!
# What belongs to the component that is shown

The application holds four things of the component that it shows: the component itself, to which
every request of the sheet is bound when it is handed to a task, the snapshot that a save goes by,
the group of the sheet, and the rows. All are replaced when another component is shown, and some
requests of the one before are under way then.

Nothing tells such a request from one of the new component but its token. Loading the rows forgets
all that was pending, and no token is given out twice, so what the sheet waits for has been asked of
the component that is shown (`App.Binds`, kept by each reaction by `Turns.binds`). A response to
anything else is dropped.
-/

namespace PropertySheet

namespace App

variable {a b c : App} {t : Task}

/-- All that the application holds is of the component of a snapshot; any other rows are those that
the user has added since. -/
structure BoundTo (a : App) (s : Snapshot) : Prop where
  component : a.component = s.component
  group : a.sheet.groupId = s.parentGroupId
  rows : ∃ loaded added : List Row, a.sheet.rows = loaded ++ added ∧
    loaded.map (·.property) = s.properties.map (·.1) ∧ ∀ r ∈ added, r.kind = .userDefined

/-- The group of the sheet is that of the component that is shown. -/
def Grouped (a : App) : Prop := ∀ s, a.snapshot = some s → a.sheet.groupId = s.parentGroupId

/-- If the sheet still waits for what a task is to bring, the task is bound to the component that is
shown. It is for a request of before, so the sheet will not come to wait for it. -/
def Binds (a : App) : Task → Prop
  | .respond component q => q.token < a.sheet.nextToken ∧
      ((a.sheet.pending.get? q.token).isSome → component = a.component)
  | _ => True

/-! ## Reactions -/

/-- All that a reaction can do: it goes on with the component that is shown, or it shows one whose
properties have distinct names and goes on with that. -/
inductive Turns (a b : App) : Prop
  | stays : a.Keeps b → b.sheet.groupId = a.sheet.groupId → Turns a b
  | shows (s : Snapshot) (histories : Histories) : (s.properties.map (·.1)).Nodup →
      (a.display s histories).Keeps b → b.sheet.groupId = s.parentGroupId → Turns a b

theorem turns_self (a : App) : a.Turns a := .stays (keeps_of_eq rfl rfl rfl) rfl

theorem Turns.keeps (h : a.Turns b) (hkeeps : b.Keeps c)
    (hgroup : c.sheet.groupId = b.sheet.groupId) : a.Turns c := by
  cases h with
  | stays hab hsame => exact .stays (hab.trans hkeeps) (hgroup.trans hsame)
  | shows s histories hs hab hshown =>
    exact .shows s histories hs (hab.trans hkeeps) (hgroup.trans hshown)

theorem turns_handleKey (a : App) (k : Key) : a.Turns (a.handleKey k) :=
  .stays (a.keeps_handleKey k) (a.leaves_handleKey k).groupId

theorem turns_fit (a : App) (area : Rect) : a.Turns (a.fit area) := by
  refine .stays (a.keeps_fit area) ?_
  obtain ⟨area', hfit | hfit⟩ := a.fit_eq area
  · rw [hfit]
    rfl
  · rw [hfit]

/-- An event turns the application to a component only if its properties have distinct names. -/
theorem turns_handleEvent (a : App) {e : AppEvent} (he : ∀ s histories,
    e = .loaded (.ok (s, histories)) → (s.properties.map (·.1)).Nodup) :
    a.Turns (a.handleEvent e) := by
  rcases a.handleEvent_cases e with ⟨s, histories, rfl⟩ | ⟨hnone, hkeeps⟩
  · have hs := he s histories rfl
    refine .shows s histories hs (keeps_of_eq rfl rfl rfl) ?_
    obtain ⟨status, hdisplay⟩ := a.display_eq hs histories
    show (a.display s histories).sheet.groupId = s.parentGroupId
    rw [hdisplay]
    rfl
  · refine .stays hkeeps ?_
    cases e with
    | responded r => exact a.sheet.groupId_complete r
    | loaded result =>
      cases result with
      | error e => rfl
      | ok shown => exact nomatch hnone none
    | saved result =>
      cases result with
      | error e => rfl
      | ok s => rfl
    | quit => rfl

/-! ### The group -/

theorem Turns.grouped (h : a.Turns b) (ha : a.Grouped) : b.Grouped := by
  intro s hs
  cases h with
  | stays hkeeps hgroup =>
    rw [hgroup]
    exact ha s (hkeeps.snapshot.symm.trans hs)
  | shows s' histories hs' hkeeps hgroup =>
    rw [hkeeps.snapshot, (a.showing_display hs' histories).snapshot] at hs
    cases hs
    exact hgroup

/-! ### Requests -/

/-- To show a component is to forget what was asked for before, but not the tokens of it. -/
theorem sheet_display (a : App) {s : Snapshot} (hs : (s.properties.map (·.1)).Nodup)
    (histories : Histories) :
    (a.display s histories).sheet.requests = [] ∧ (a.display s histories).sheet.pending = .empty ∧
      a.sheet.nextToken ≤ (a.display s histories).sheet.nextToken := by
  obtain ⟨status, hdisplay⟩ := a.display_eq hs histories
  rw [hdisplay]
  have hforgotten : (a.sheet.load s.properties s.descriptors histories).1.requests = [] ∧
      (a.sheet.load s.properties s.descriptors histories).1.pending = .empty := by
    unfold Sheet.load
    dsimp only
    split
    · exact ⟨rfl, rfl⟩
    · exact ⟨rfl, rfl⟩
  exact ⟨hforgotten.1, hforgotten.2, a.sheet.nextToken_le_run
    [.load s.properties s.descriptors histories, .setGroup s.parentGroupId]⟩

/-- What is no longer waited for stays so. -/
theorem Keeps.binds (h : a.Keeps b) (ha : a.Binds t) : b.Binds t := by
  cases t with
  | load component => trivial
  | save s changes => trivial
  | respond component q =>
    obtain ⟨hold, hbound⟩ := ha
    obtain ⟨ops, _, hsheet⟩ := h.sheet
    refine ⟨?_, fun hpending => ?_⟩
    · rw [hsheet]
      exact Nat.lt_of_lt_of_le hold (a.sheet.nextToken_le_run ops)
    · rw [h.component]
      refine hbound (Option.isSome_iff_ne_none.mpr fun hnone => ?_)
      rw [hsheet, Sheet.get?_pending_run_eq_none hold hnone ops] at hpending
      cases hpending

/-- When a component is shown, nothing of before is waited for. -/
theorem Binds.display (ha : a.Binds t) {s : Snapshot} (hs : (s.properties.map (·.1)).Nodup)
    (histories : Histories) : (a.display s histories).Binds t := by
  cases t with
  | load component => trivial
  | save s changes => trivial
  | respond component q =>
    obtain ⟨_, hnone, hle⟩ := a.sheet_display hs histories
    refine ⟨Nat.lt_of_lt_of_le ha.1 hle, fun hpending => ?_⟩
    rw [hnone] at hpending
    cases hpending

theorem Turns.binds (h : a.Turns b) (ha : a.Binds t) : b.Binds t := by
  cases h with
  | stays hkeeps _ => exact hkeeps.binds ha
  | shows s histories hs hkeeps _ => exact hkeeps.binds (ha.display hs histories)

/-- The queue holds requests of the component that is shown, under tokens of before. -/
theorem Turns.token_lt (h : a.Turns b) (ha : a.sheet.requests = []) :
    ∀ q ∈ b.sheet.requests, q.token < b.sheet.nextToken := by
  have hkept : ∀ c : App, c.sheet.requests = [] → c.Keeps b →
      ∀ q ∈ b.sheet.requests, q.token < b.sheet.nextToken := by
    intro c hc hkeeps
    obtain ⟨ops, _, hsheet⟩ := hkeeps.sheet
    rw [hsheet]
    refine Sheet.token_lt_run (fun q hq => ?_) ops
    rw [hc] at hq
    cases hq
  cases h with
  | stays hkeeps _ => exact hkept a ha hkeeps
  | shows s histories hs hkeeps _ => exact hkept _ (a.sheet_display hs histories).1 hkeeps

/-- The requests of the sheet are bound when they are handed to tasks. -/
theorem binds_of_flush (hrequests : ∀ q ∈ a.sheet.requests, q.token < a.sheet.nextToken)
    (htasks : ∀ t ∈ a.tasks, a.Binds t) (ht : t ∈ a.flush.tasks) : a.flush.Binds t := by
  refine a.keeps_flush.binds ?_
  rcases tasks_flush ht with ht | ⟨q, hq, rfl⟩ | ⟨e, _, c, _, rfl⟩
  · exact htasks t ht
  · exact ⟨hrequests q hq, fun _ => rfl⟩
  · trivial

end App

namespace World

variable {w w' : World}

/-! ## Tasks under way -/

/-- A host for a component, as the tasks have it. -/
def host (w : World) (component : ComponentRef) : Host Talk :=
  { client := w.client, component, policy := w.app.settings.unsavedChanges }

/-- A task under way is not for another component than the one that is shown, and goes on from what
it has said. -/
structure Serves (w : World) (f : Flight) : Prop where
  binds : w.app.Binds f.task
  talk : ∀ more e, f.talk.Says more e →
    (f.task.run w.client w.app.settings.unsavedChanges).Says (f.said ++ more) e

/-- An event on its way is what its task has ended with. -/
def Delivers (w : World) (n : Nat) (e : AppEvent) : Prop :=
  ∃ t said, .began n t ∈ w.log ∧
    (∀ k trip, said[k]? = some trip → .heard n t k trip ∈ w.log) ∧
    (t.run w.client w.app.settings.unsavedChanges).Says said e ∧ w.app.Binds t

/-- What the application holds, and all that is under way, is of the component that is shown. -/
structure Bound (w : World) : Prop where
  grouped : w.app.Grouped
  flights : ∀ f ∈ w.flights, w.Serves f
  inbox : ∀ n e, (some n, e) ∈ w.inbox → w.Delivers n e

theorem Serves.turns {f : Flight} (hf : w.Serves f) (hext : w.Extends w')
    (hturns : w.app.Turns w'.app) : w'.Serves f := by
  refine ⟨hturns.binds hf.binds, ?_⟩
  rw [hext.client, hext.settings]
  exact hf.talk

theorem Delivers.turns {n : Nat} {e : AppEvent} (he : w.Delivers n e) (hext : w.Extends w')
    (hturns : w.app.Turns w'.app) : w'.Delivers n e := by
  obtain ⟨t, said, hbegan, hheard, hsaid, hbinds⟩ := he
  rw [← hext.client, ← hext.settings] at hsaid
  exact ⟨t, said, hext.log _ hbegan, fun k trip hk => hext.log _ (hheard k trip hk), hsaid,
    hturns.binds hbinds⟩

/-- Another application takes over what is under way. -/
theorem Bound.turns (hw : w.Bound) (hext : w.Extends w') (hturns : w.app.Turns w'.app)
    (hflights : ∀ f ∈ w'.flights, f ∈ w.flights)
    (hinbox : ∀ n e, (some n, e) ∈ w'.inbox → (some n, e) ∈ w.inbox) : w'.Bound where
  grouped := hturns.grouped hw.grouped
  flights f hf := (hw.flights f (hflights f hf)).turns hext hturns
  inbox n e he := (hw.inbox n e (hinbox n e he)).turns hext hturns

theorem Bound.launch (hw : w.Bound) {t : Task} (ht : w.app.Binds t) : (w.launch t).Bound := by
  have hext := w.extends_launch t
  refine ⟨hw.grouped, fun f hf => ?_, fun n e he => (hw.inbox n e he).turns hext w.app.turns_self⟩
  rcases List.mem_append.mp hf with hf | hf
  · exact (hw.flights f hf).turns hext w.app.turns_self
  · rw [List.mem_singleton.mp hf]
    exact ⟨ht, fun more e hsaid => hsaid⟩

/-- A reaction begins only tasks that are bound to what it shows. -/
theorem Bound.react (hw : w.Bound) (hrequests : w.app.sheet.requests = []) {a : App}
    (hsettings : a.settings = w.app.settings) (hturns : w.app.Turns a)
    (htasks : ∀ t ∈ a.tasks, a.Binds t) : (w.react a.flush).Bound := by
  have hflush : a.Keeps a.flush ∧ a.flush.sheet.groupId = a.sheet.groupId := by
    obtain ⟨status, hflush⟩ := a.flush_eq
    exact ⟨a.keeps_flush, by rw [hflush]; rfl⟩
  have hkept := react_invariant (w := w) (a := a.flush)
    (P := fun v => v.app = { a.flush with tasks := [], events := [] } ∧ v.Bound) ?_ ⟨rfl, ?_⟩
  · exact hkept.2
  · intro v t ht ⟨happ, hv⟩
    refine ⟨happ, hv.launch ?_⟩
    rw [happ]
    exact App.binds_of_flush (hturns.token_lt hrequests) htasks ht
  · refine hw.turns ⟨a.settings_flush.trans hsettings, rfl, fun _ hx => hx⟩
      (hturns.keeps (hflush.1.trans (App.keeps_of_eq rfl rfl rfl)) hflush.2)
      (fun _ hf => hf) fun n e he => ?_
    rcases List.mem_append.mp he with hold | hnew
    · exact hold
    · obtain ⟨_, _, heq⟩ := List.mem_map.mp hnew
      cases heq

/-- A task goes on from the answer as it would have from the start. -/
theorem Bound.answer (hw : w.Bound) {place : Nat} {f : Flight} {q : Query}
    {next : Option Answer → Talk AppEvent} (hf : w.flights[place]? = some f)
    (htalk : f.talk = .ask q next) (r : Option Answer) :
    (w.answer place f ⟨q, r⟩ (next r)).Bound := by
  have hext : w.Extends (w.answer place f ⟨q, r⟩ (next r)) := w.extends_note _ _ _
  refine ⟨hw.grouped, fun g hg => ?_, fun n e he => (hw.inbox n e he).turns hext w.app.turns_self⟩
  rcases List.mem_or_eq_of_mem_set hg with hg | rfl
  · exact (hw.flights g hg).turns hext w.app.turns_self
  · have hold := hw.flights f (List.mem_of_getElem? hf)
    have hserves : w.Serves { f with said := f.said ++ [⟨q, r⟩], talk := next r } := by
      refine ⟨hold.binds, fun more e hsaid => ?_⟩
      have hlonger : f.talk.Says (⟨q, r⟩ :: more) e := htalk ▸ .ask r hsaid
      simpa using hold.talk _ e hlonger
    exact hserves.turns hext w.app.turns_self

theorem Bound.land (hw : w.Bound) (hcoherent : w.Coherent) {place : Nat} {f : Flight} {e : AppEvent}
    (hf : w.flights[place]? = some f) (htalk : f.talk = .done e) : (w.land place f e).Bound := by
  have hext : w.Extends (w.land place f e) := ⟨rfl, rfl, fun _ hx => hx⟩
  refine ⟨hw.grouped, fun g hg => ?_, fun n e' he => ?_⟩
  · exact (hw.flights g (List.mem_of_mem_eraseIdx hg)).turns hext w.app.turns_self
  rcases List.mem_append.mp he with he | he
  · exact (hw.inbox n e' he).turns hext w.app.turns_self
  · cases List.mem_singleton.mp he
    have hmem := List.mem_of_getElem? hf
    have haccounts := hcoherent.flights f hmem
    have hserves := hw.flights f hmem
    have hsaid := hserves.talk [] e (htalk ▸ .done e)
    rw [List.append_nil] at hsaid
    have hdelivers : w.Delivers f.serial e :=
      ⟨f.task, f.said, haccounts.began, haccounts.heard, hsaid, hserves.binds⟩
    exact hdelivers.turns hext w.app.turns_self

theorem Bound.step (hw : w.Bound) (hcoherent : w.Coherent) {m : Move} (hstep : w.Steps m w') :
    w'.Bound := by
  have hnone : ∀ t ∈ w.app.tasks, ∀ a : App, a.Binds t := by
    intro t ht
    rw [hcoherent.tasks] at ht
    cases ht
  cases hstep with
  | press k =>
    refine hw.react hcoherent.requests (w.app.settings_handleKey k) (w.app.turns_handleKey k)
      fun t ht => ?_
    rcases App.tasks_handleKey ht with ht | ⟨s, _, _, _, rfl⟩ | ⟨s, _, rfl, _, _⟩
    · exact hnone t ht _
    · trivial
    · trivial
  | draw area =>
    exact hw.turns ⟨w.app.settings_fit area, rfl, fun _ hx => hx⟩ (w.app.turns_fit area)
      (fun _ hf => hf) fun _ _ he => he
  | @handle n e rest hinbox =>
    have htaken : Bound { w with inbox := rest, log := w.log ++ [.handled n e] } :=
      hw.turns (w.extends_note _ _ _) w.app.turns_self (fun _ hf => hf)
        fun _ _ he => hinbox ▸ List.mem_cons_of_mem _ he
    refine htaken.react hcoherent.requests (w.app.settings_handleEvent e)
      (w.app.turns_handleEvent fun s histories he => ?_) fun t ht => ?_
    · subst he
      exact hcoherent.nodup_of_loaded (hinbox ▸ List.mem_cons_self)
    · rcases App.tasks_handleEvent ht with ht | ⟨s, _, rfl⟩
      · exact hnone t ht _
      · trivial
  | hear r hf htalk => exact hw.answer hf htalk r
  | finish hf htalk => exact hw.land hcoherent hf htalk

theorem bound_start (settings : Settings) (clientId : String) : (start settings clientId).Bound := by
  refine Bound.react (w := { clientId, app := { App.ofSettings settings with tasks := [] } })
    ⟨(fun _ hs => nomatch hs), (fun _ hf => nomatch hf), (fun _ _ he => nomatch he)⟩ rfl rfl
    (.stays (App.keeps_of_eq rfl rfl rfl) rfl) fun t ht => ?_
  rw [App.ofSettings, App.load, App.addTask, List.mem_append, List.mem_singleton] at ht
  rcases ht with ht | rfl
  · cases ht
  · trivial

theorem bound_run {settings : Settings} {clientId : String} {moves : List Move}
    (hrun : (start settings clientId).run? moves = some w) : w.Bound :=
  run_invariant (P := Bound) (fun _ _ _ hcoherent hv hstep => hv.step hcoherent hstep)
    (bound_start settings clientId) hrun

/-! ## What is shown, answered and saved -/

theorem Bound.boundTo (hw : w.Bound) (hsound : w.Sound) {s : Snapshot}
    (hs : w.app.snapshot = some s) : w.app.BoundTo s := by
  obtain ⟨m, histories, hlast, hshowing⟩ := hsound.shows.showing hs
  have hnodup := (hsound.coherent.of_mem_loadsShown (List.mem_of_getLast? hlast)).2
  exact ⟨hshowing.component, hw.grouped s hs, rows_of_showing hnodup hshowing⟩

/-- A response is what the host for a component has answered a request with, after the exchanges
with the server that the log has. -/
def AnsweredFor (w : World) (component : ComponentRef) (n : Option Nat) (r : Response) : Prop :=
  ∃ i q said, n = some i ∧ q.token = r.token ∧ .began i (.respond component q) ∈ w.log ∧
    (∀ k trip, said[k]? = some trip → .heard i (.respond component q) k trip ∈ w.log) ∧
    ((w.host component).backend.dispatch q).Says said r

/-- A response that the sheet waits for is from the host for the component that is shown. -/
theorem Bound.answeredFor (hw : w.Bound) (hcoherent : w.Coherent) {n : Option Nat} {r : Response}
    (hmem : (n, .responded r) ∈ w.inbox) (hpending : (w.app.sheet.pending.get? r.token).isSome) :
    w.AnsweredFor w.app.component n r := by
  cases n with
  | none => cases hcoherent.inbox none _ hmem
  | some i =>
    obtain ⟨t, said, hbegan, hheard, hsaid, hbinds⟩ := hw.inbox i _ hmem
    have hpromise := Talk.ends_iff.mp t.ends_promise said _ hsaid
    cases t with
    | load c =>
      obtain ⟨_, he, _⟩ := hpromise
      cases he
    | save s changes =>
      obtain ⟨_, he, _⟩ := hpromise
      cases he
    | respond c q =>
      obtain ⟨r', he, htoken, _⟩ := hpromise
      cases he
      obtain ⟨r', he, hdispatch⟩ := Talk.ends_iff.mp (Task.ends_dispatch c q) said _ hsaid
      cases he
      -- the sheet still waits for it, so the task was bound to what is shown now
      obtain rfl : c = w.app.component := hbinds.2 (htoken ▸ hpending)
      exact ⟨i, q, said, rfl, htoken.symm, hbegan, hheard, hdispatch⟩

/-- A save that begins with a move is of the snapshot and the changes that are held then. -/
theorem Coherent.save_began (hw : w.Coherent) {m : Move} (hstep : w.Steps m w') {n : Nat}
    {s : Snapshot} {changes : Changes} (hbegan : .began n (.save s changes) ∈ w'.log)
    (hnew : .began n (.save s changes) ∉ w.log) :
    w'.app.snapshot = some s ∧ changes = w'.app.sheet.changes := by
  cases hstep with
  | press k =>
    have ht := App.save_of_flush ((began_react hbegan).resolve_left hnew)
    rcases App.save_of_handleKey ht with ht | ⟨hs, hchanges⟩
    · rw [hw.tasks] at ht
      cases ht
    · have hkeeps := (w.app.keeps_handleKey k).trans (w.keeps_react _)
      refine ⟨hkeeps.snapshot.trans hs, hchanges.trans ?_⟩
      rw [app_react]
      exact (w.app.handleKey k).changes_flush.symm
  | draw area => exact absurd hbegan hnew
  | @handle n' e rest hinbox =>
    rcases began_react hbegan with hold | ht
    · rcases List.mem_append.mp hold with hold | hhandled
      · exact absurd hold hnew
      · cases List.mem_singleton.mp hhandled
    · have hold := App.save_of_handleEvent (App.save_of_flush ht)
      rw [hw.tasks] at hold
      cases hold
  | hear r hf htalk =>
    rcases List.mem_append.mp hbegan with hold | hheard
    · exact absurd hold hnew
    · cases List.mem_singleton.mp hheard
  | finish hf htalk => exact absurd hbegan hnew

/-! ## Runs of the small component -/

/-- The user asks for a property. -/
def asking : List Move :=
  [.press { code := .char 'a' }, .press { code := .char 'x' }, .press { code := .enter }]

/-- The user asks for a property twice, and loads the component in between and after. Both requests
stay without an answer from the server; the sheet has forgotten the first one by then. -/
def askingRun : List Move :=
  loading 0 4 ++ asking ++ [.press { code := .char 'r' }] ++ loading 1 5 ++
    [.press { code := .char 'd' }] ++ asking ++ [.press { code := .char 'r' },
      .hear 0 none, .finish 0, .hear 0 none, .finish 0,
      .hear 0 (taskAnswer 6), .hear 0 none, .finish 0]

/-- The responses on their way that the sheet waits for, with the numbers of their tasks. -/
def awaited (w : World) : List (Option Nat × Response) :=
  w.inbox.filterMap fun x =>
    match x with
    | (n, .responded r) => if (w.app.sheet.pending.get? r.token).isSome then some (n, r) else none
    | _ => none

/-- The components on their way, with the numbers of their tasks. -/
def arriving (w : World) : List (Option Nat × Snapshot × Histories) :=
  w.inbox.filterMap fun x =>
    match x with
    | (n, .loaded (.ok shown)) => some (n, shown)
    | _ => none

/-- The saves that have begun. -/
def saves (w : World) : List (Nat × Snapshot × Changes) :=
  w.log.filterMap fun x =>
    match x with
    | .began n (.save s changes) => some (n, s, changes)
    | _ => none

theorem mem_awaited {n : Option Nat} {r : Response} (h : (n, r) ∈ w.awaited) :
    (n, .responded r) ∈ w.inbox ∧ (w.app.sheet.pending.get? r.token).isSome := by
  obtain ⟨x, hmem, heq⟩ := List.mem_filterMap.mp h
  split at heq
  · split at heq
    next hpending =>
      cases heq
      exact ⟨hmem, hpending⟩
    · cases heq
  · cases heq

theorem mem_arriving {n : Option Nat} {s : Snapshot} {histories : Histories}
    (h : (n, s, histories) ∈ w.arriving) : (n, .loaded (.ok (s, histories))) ∈ w.inbox := by
  obtain ⟨x, hmem, heq⟩ := List.mem_filterMap.mp h
  split at heq
  · cases heq
    exact hmem
  · cases heq

theorem mem_saves {n : Nat} {s : Snapshot} {changes : Changes} :
    (n, s, changes) ∈ w.saves ↔ .began n (.save s changes) ∈ w.log := by
  refine ⟨fun h => ?_, fun h => List.mem_filterMap.mpr ⟨_, h, rfl⟩⟩
  obtain ⟨x, hmem, heq⟩ := List.mem_filterMap.mp h
  split at heq
  · cases heq
    exact hmem
  · cases heq

/-- What there is to see of a world in which the user is about to save. -/
structure BindingSummary where
  revision : Option Nat
  inbox : Nat
  awaited : List (Option Nat × Token)
  arriving : List (Option Nat × Nat)
  saves : List Nat
  /-- The saves that have begun once the user has pressed the key for it, and the address of the
  component then. -/
  later : Option (List Nat × Option Url)
deriving DecidableEq

def bindingSummary (w : World) : BindingSummary where
  revision := w.app.snapshot.map (·.revision.version)
  inbox := w.inbox.length
  awaited := w.awaited.map fun x => (x.1, x.2.token)
  arriving := w.arriving.map fun x => (x.1, x.2.1.revision.version)
  saves := w.saves.map (·.1)
  later := (w.step? (.press { code := .char 's' })).map fun v =>
    (v.saves.map (·.1), (v.client.url v.app.component.path).toOption)

/-- Whatever happens, what the application holds is of one component: that of the snapshot, if there
is one, whose rows never fail to load. A response that the sheet waits for is from a host that is
bound to this component. A save that begins sends one request, the changes of its rows to it, and
nothing else; only if the component has no address, nothing is sent. -/
theorem bound_to_shown {settings : Settings} {clientId : String} {moves : List Move}
    (hrun : (start settings clientId).run? moves = some w) :
    (∀ s, w.app.snapshot = some s → w.app.BoundTo s) ∧
    (∀ n s histories, (n, .loaded (.ok (s, histories))) ∈ w.inbox →
      (w.app.sheet.load s.properties s.descriptors histories).2 = .ok ()) ∧
    (∀ n r, (n, .responded r) ∈ w.inbox → (w.app.sheet.pending.get? r.token).isSome →
      w.AnsweredFor w.app.component n r) ∧
    (∀ m v n s changes, w.step? m = some v → .began n (.save s changes) ∈ v.log →
      .began n (.save s changes) ∉ w.log →
      v.app.snapshot = some s ∧ v.app.BoundTo s ∧ changes = v.app.sheet.changes ∧
      ∀ said,
        (∃ e, ((Task.save s changes).run v.client v.app.settings.unsavedChanges).Says said e) ↔
          (∃ failure, v.client.url v.app.component.path = .error failure ∧ said = []) ∨
          ∃ u answer, v.client.url v.app.component.path = .ok u ∧
            said = [⟨Client.updateQuery u s changes v.clientId, answer⟩]) := by
  have hsound := sound_run hrun
  have hbound := bound_run hrun
  refine ⟨fun s hs => hbound.boundTo hsound hs, fun n s histories hmem => ?_,
    fun n r hmem hpending => hbound.answeredFor hsound.coherent hmem hpending,
    fun m v n s changes hstep hbegan hnew => ?_⟩
  · exact (w.app.sheet.load_of_nodup (hsound.coherent.nodup_of_loaded hmem) _ _).1
  · have hsteps := steps_of_step? hstep
    obtain ⟨hs, hchanges⟩ := hsound.coherent.save_began hsteps hbegan hnew
    have hto := (hbound.step hsound.coherent hsteps).boundTo (hsound.step hsteps) hs
    refine ⟨hs, hto, hchanges, fun said => ?_⟩
    rw [hto.component]
    exact Task.exists_says_save_iff s changes

/-- The address of the reporting task. -/
def taskAddress : Url := { secure := false, host := "h", path := ["reporting-tasks", "t"] }

/-- The component has come once more and the response to the second request as well, when the user
saves. The server does not answer the PUT. -/
theorem bound_to_shown_askingRun :
    ∃ w v s s' histories r t changes, (start promptingSettings "c").run? askingRun = some w ∧
      w.step? (.press { code := .char 's' }) = some v ∧
      w.app.snapshot = some s ∧ w.app.BoundTo s ∧
      (some 4, .loaded (.ok (s', histories))) ∈ w.inbox ∧
      (w.app.sheet.load s'.properties s'.descriptors histories).2 = .ok () ∧
      (some 3, .responded r) ∈ w.inbox ∧ w.AnsweredFor w.app.component (some 3) r ∧
      .began 5 (.save t changes) ∈ v.log ∧ v.app.BoundTo t ∧ changes = v.app.sheet.changes ∧
      ∃ e, ((Task.save t changes).run v.client v.app.settings.unsavedChanges).Says
        [⟨Client.updateQuery taskAddress t changes v.clientId, none⟩] e := by
  have hseen : ((start promptingSettings "c").run? askingRun).map bindingSummary =
      some { revision := some 5, inbox := 3, awaited := [(some 3, 1)], arriving := [(some 4, 6)],
             saves := [], later := some ([5], some taskAddress) } := by
    decide +kernel
  obtain ⟨w, hrun, hsummary⟩ := Option.map_eq_some_iff.mp hseen
  obtain ⟨hbound, hloads, hanswered, hsaves⟩ := bound_to_shown hrun
  have hrevision : w.app.snapshot.map (·.revision.version) = some 5 :=
    congrArg BindingSummary.revision hsummary
  obtain ⟨s, hs, _⟩ := Option.map_eq_some_iff.mp hrevision
  -- the second request is waited for, and its response has come
  obtain ⟨⟨n, r⟩, hawaited, hr⟩ := List.map_eq_singleton_iff.mp
    (show w.awaited.map (fun x => (x.1, x.2.token)) = [(some 3, 1)] from
      congrArg BindingSummary.awaited hsummary)
  obtain ⟨rfl, _⟩ := Prod.mk.inj hr
  obtain ⟨hresponse, hpending⟩ := mem_awaited (w := w) (hawaited ▸ List.mem_singleton_self _)
  -- the component has come once more
  obtain ⟨⟨m, s', histories⟩, harriving, hx⟩ := List.map_eq_singleton_iff.mp
    (show w.arriving.map (fun x => (x.1, x.2.1.revision.version)) = [(some 4, 6)] from
      congrArg BindingSummary.arriving hsummary)
  obtain ⟨rfl, _⟩ := Prod.mk.inj hx
  have hloaded := mem_arriving (w := w) (harriving ▸ List.mem_singleton_self _)
  -- the key begins the first save
  have hnone : w.saves = [] := List.map_eq_nil_iff.mp (congrArg BindingSummary.saves hsummary)
  have hlater : (w.step? (.press { code := .char 's' })).map (fun v =>
      (v.saves.map (·.1), (v.client.url v.app.component.path).toOption)) =
      some ([5], some taskAddress) := congrArg BindingSummary.later hsummary
  obtain ⟨v, hstep, hv⟩ := Option.map_eq_some_iff.mp hlater
  obtain ⟨hv, haddress⟩ := Prod.mk.inj hv
  obtain ⟨⟨k, t, changes⟩, hsave, hk⟩ := List.map_eq_singleton_iff.mp hv
  obtain rfl : k = 5 := hk
  have hbegan := mem_saves.mp (hsave ▸ List.mem_singleton_self _ : (5, t, changes) ∈ v.saves)
  have hnew : .began 5 (.save t changes) ∉ w.log := by
    rw [← mem_saves, hnone]
    exact List.not_mem_nil
  obtain ⟨_, hto, hchanges, hsends⟩ := hsaves _ v 5 t changes hstep hbegan hnew
  have hput := (hsends _).mpr (.inr ⟨taskAddress, none, eq_ok_of_toOption haddress, rfl⟩)
  exact ⟨w, v, s, s', histories, r, t, changes, hrun, hstep, hs, hbound s hs, hloaded,
    hloads _ s' histories hloaded, hresponse, hanswered _ r hresponse hpending, hbegan, hto,
    hchanges, hput⟩

end World

end PropertySheet
