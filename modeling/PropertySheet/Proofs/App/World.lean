import PropertySheet.Json.Write
import PropertySheet.Proofs.App.Reactions
import PropertySheet.Proofs.App.Tasks

/-!
# Runs of the application

The application is one party of several: the user presses keys, the screen is drawn, and any number
of tasks are under way, each of which waits for the server or has sent its event. A `World` is the
application among all of that, and `Move` lists what may happen next. Every interleaving of keys,
answers and events is a list of moves, and `run?` carries one out, with the functions that the
program itself runs.

What has happened is noted in a log, which nothing reads but theorems. `Coherent` ties it to the
state: whatever a task has sent is what its promise says of the answers that the log has for it.
-/

namespace PropertySheet

/-- A task under way. Tasks are numbered in the order in which they begin. -/
structure Flight where
  serial : Nat
  task : Task
  said : List RoundTrip := []
  talk : Talk AppEvent

/-- Something that has happened. -/
inductive Note where
  | began (serial : Nat) (task : Task)
  /-- A task had an answer, after a number of others. -/
  | heard (serial : Nat) (task : Task) (place : Nat) (trip : RoundTrip)
  /-- The application reacted to an event, which a task had sent unless the user wants to leave. -/
  | handled (serial : Option Nat) (e : AppEvent)

/-- The application, its tasks, and the events on their way to it. -/
structure World where
  clientId : String
  app : App
  /-- The tasks that have not sent their events. -/
  flights : List Flight := []
  /-- The events that nobody has handled, oldest first, with the numbers of their tasks. -/
  inbox : List (Option Nat × AppEvent) := []
  nextSerial : Nat := 0
  log : List Note := []

/-- What may happen next. -/
inductive Move where
  | press (k : Key)
  | draw (area : Rect)
  /-- The application reacts to the oldest event. -/
  | handle
  /-- The task at a place has an answer, or learns that there is none. -/
  | hear (place : Nat) (answer : Option Answer)
  /-- The task at a place sends its event. -/
  | finish (place : Nat)

namespace World

def client (w : World) : Client Talk := talkingClient w.app.settings.baseUrl w.clientId

/-- Begin a task. -/
def launch (w : World) (t : Task) : World :=
  { w with
    flights := w.flights ++
      [{ serial := w.nextSerial, task := t, talk := t.run w.client w.app.settings.unsavedChanges }]
    nextSerial := w.nextSerial + 1
    log := w.log ++ [.began w.nextSerial t] }

/-- The application has reacted: its new tasks begin, and its events join the others. -/
def react (w : World) (a : App) : World :=
  a.tasks.foldl launch
    { w with
      app := { a with tasks := [], events := [] }
      inbox := w.inbox ++ a.events.map fun e => (none, e) }

/-- The application has just been started. -/
def start (settings : Settings) (clientId : String) : World :=
  react { clientId, app := { App.ofSettings settings with tasks := [] } }
    (App.ofSettings settings).flush

/-- An answer for a task: it goes on with it. -/
def answer (w : World) (place : Nat) (f : Flight) (trip : RoundTrip) (talk : Talk AppEvent) :
    World :=
  { w with
    flights := w.flights.set place { f with said := f.said ++ [trip], talk }
    log := w.log ++ [.heard f.serial f.task f.said.length trip] }

/-- The end of a task. -/
def land (w : World) (place : Nat) (f : Flight) (e : AppEvent) : World :=
  { w with flights := w.flights.eraseIdx place, inbox := w.inbox ++ [(some f.serial, e)] }

/-- The oldest event is handled, and the others are left. -/
def consume (w : World) (n : Option Nat) (e : AppEvent) (rest : List (Option Nat × AppEvent)) :
    World :=
  { w with inbox := rest, log := w.log ++ [.handled n e] : World }.react
    (w.app.handleEvent e).flush

/-- The world after a move, unless the move is not possible. Nothing happens once the application
has stopped. -/
def step? (w : World) (m : Move) : Option World :=
  if w.app.running then
    match m with
    | .press k => some (w.react (w.app.handleKey k).flush)
    | .draw area => some { w with app := w.app.fit area }
    | .handle =>
      match w.inbox with
      | [] => none
      | (n, e) :: rest => some (w.consume n e rest)
    | .hear place r =>
      match w.flights[place]? with
      | none => none
      | some f =>
        match f.talk with
        | .ask q next => some (w.answer place f ⟨q, r⟩ (next r))
        | .done _ => none
    | .finish place =>
      match w.flights[place]? with
      | none => none
      | some f =>
        match f.talk with
        | .ask _ _ => none
        | .done e => some (w.land place f e)
  else none

/-- The world after a list of moves, the first one first. -/
def run? (w : World) : List Move → Option World
  | [] => some w
  | m :: moves => (w.step? m).bind (run? · moves)

@[simp]
theorem run?_nil (w : World) : w.run? [] = some w := rfl

@[simp]
theorem run?_cons (w : World) (m : Move) (moves : List Move) :
    w.run? (m :: moves) = (w.step? m).bind (run? · moves) := rfl

/-- All that a move can do. -/
inductive Steps (w : World) : Move → World → Prop
  | press (k : Key) : Steps w (.press k) (w.react (w.app.handleKey k).flush)
  | draw (area : Rect) : Steps w (.draw area) { w with app := w.app.fit area }
  | handle {n : Option Nat} {e : AppEvent} {rest : List (Option Nat × AppEvent)} :
      w.inbox = (n, e) :: rest → Steps w .handle (w.consume n e rest)
  | hear {place : Nat} {f : Flight} {q : Query} {next : Option Answer → Talk AppEvent}
      (r : Option Answer) : w.flights[place]? = some f → f.talk = .ask q next →
      Steps w (.hear place r) (w.answer place f ⟨q, r⟩ (next r))
  | finish {place : Nat} {f : Flight} {e : AppEvent} : w.flights[place]? = some f →
      f.talk = .done e → Steps w (.finish place) (w.land place f e)

theorem steps_of_step? {w w' : World} {m : Move} (h : w.step? m = some w') : w.Steps m w' := by
  unfold step? at h
  split at h
  · split at h
    · cases h
      exact .press _
    · cases h
      exact .draw _
    · split at h
      · cases h
      next hinbox =>
        cases h
        exact .handle hinbox
    · split at h
      · cases h
      next hf =>
        split at h
        next htalk =>
          cases h
          exact .hear _ hf htalk
        · cases h
    · split at h
      · cases h
      next hf =>
        split at h
        · cases h
        next htalk =>
          cases h
          exact .finish hf htalk
  · cases h

/-- What every move keeps, every run keeps. -/
theorem run?_invariant {P : World → Prop} (hstep : ∀ w m w', P w → w.Steps m w' → P w') {w w' : World}
    {moves : List Move} (h : P w) (hrun : w.run? moves = some w') : P w' := by
  induction moves generalizing w with
  | nil =>
    cases hrun
    exact h
  | cons m moves ih =>
    obtain ⟨v, hv, hrest⟩ := Option.bind_eq_some_iff.mp hrun
    exact ih (hstep w m v h (steps_of_step? hv)) hrest

/-- What the start of a task keeps, the reaction of the application keeps. -/
theorem react_invariant {P : World → Prop} {w : World} {a : App}
    (hlaunch : ∀ v, ∀ t ∈ a.tasks, P v → P (v.launch t)) (h : P { w with
      app := { a with tasks := [], events := [] }
      inbox := w.inbox ++ a.events.map fun e => (none, e) }) : P (w.react a) := by
  rw [react]
  revert h
  generalize World.mk _ _ _ _ _ _ = v
  intro h
  revert hlaunch
  generalize a.tasks = tasks
  intro hlaunch
  induction tasks generalizing v with
  | nil => exact h
  | cons t tasks ih =>
    exact ih _ (hlaunch v t List.mem_cons_self h)
      fun v t ht => hlaunch v t (List.mem_cons_of_mem _ ht)

/-! ## What a reaction leaves -/

/-- The number and the task of every start. -/
def launches (w : World) (tasks : List Task) : List (Nat × Task) :=
  (tasks.zipIdx w.nextSerial).map fun t => (t.2, t.1)

theorem foldl_launch (w : World) (tasks : List Task) :
    tasks.foldl launch w = { w with
      flights := w.flights ++ (w.launches tasks).map fun t =>
        { serial := t.1, task := t.2, talk := t.2.run w.client w.app.settings.unsavedChanges }
      nextSerial := w.nextSerial + tasks.length
      log := w.log ++ (w.launches tasks).map fun t => .began t.1 t.2 } := by
  induction tasks generalizing w with
  | nil => simp [launches]
  | cons t tasks ih =>
    rw [List.foldl_cons, ih]
    simp [launch, launches, client, Nat.add_comm, Nat.add_left_comm]

theorem mem_launches {w : World} {tasks : List Task} {n : Nat} {t : Task}
    (h : (n, t) ∈ w.launches tasks) :
    t ∈ tasks ∧ w.nextSerial ≤ n ∧ n < w.nextSerial + tasks.length := by
  obtain ⟨⟨t', n'⟩, hmem, heq⟩ := List.mem_map.mp h
  cases heq
  exact ⟨List.fst_mem_of_mem_zipIdx hmem, List.le_snd_of_mem_zipIdx hmem,
    List.snd_lt_add_of_mem_zipIdx hmem⟩

/-- A task that has begun after a reaction is one of before, or one of the reaction. -/
theorem began_react {w : World} {a : App} {n : Nat} {t : Task}
    (h : Note.began n t ∈ (w.react a).log) : Note.began n t ∈ w.log ∨ t ∈ a.tasks := by
  rw [react, foldl_launch] at h
  rcases List.mem_append.mp h with hold | hnew
  · exact .inl hold
  · obtain ⟨⟨n', t'⟩, hmem, heq⟩ := List.mem_map.mp hnew
    cases heq
    exact .inr (mem_launches hmem).1

/-! ## What the log tells -/

/-- The log so far tells where an event comes from: its task began, and what the task heard agrees
with the event. -/
def Explains (w : World) (log : List Note) (n : Option Nat) (e : AppEvent) : Prop :=
  match n with
  | none => e = .quit
  | some n => ∃ t said, Note.began n t ∈ log ∧
      (∀ k trip, said[k]? = some trip → Note.heard n t k trip ∈ log) ∧
      t.Promise w.client w.app.settings.unsavedChanges said e

/-- What a task has said is in the log, and the task will keep its promise. -/
structure Accounts (w : World) (f : Flight) : Prop where
  began : Note.began f.serial f.task ∈ w.log
  heard : ∀ k trip, f.said[k]? = some trip → Note.heard f.serial f.task k trip ∈ w.log
  ends : f.talk.Ends
    (fun said e => f.task.Promise w.client w.app.settings.unsavedChanges said e) f.said

/-- Every event that has been handled is explained by what had happened before. -/
def ExplainsLog (w : World) (log : List Note) : Prop :=
  ∀ before n e after, log = before ++ .handled n e :: after → w.Explains before n e

/-- Between moves nothing waits to be started, and the log has what the state comes from. -/
structure Coherent (w : World) : Prop where
  tasks : w.app.tasks = []
  events : w.app.events = []
  requests : w.app.sheet.requests = []
  sheetEvents : w.app.sheet.events = []
  flights : ∀ f ∈ w.flights, w.Accounts f
  inbox : ∀ n e, (n, e) ∈ w.inbox → w.Explains w.log n e
  handled : w.ExplainsLog w.log

/-- A later world of the same run. -/
structure Extends (v w : World) : Prop where
  settings : w.app.settings = v.app.settings
  clientId : w.clientId = v.clientId
  log : ∀ x ∈ v.log, x ∈ w.log

theorem extends_self (w : World) : w.Extends w := ⟨rfl, rfl, fun _ hx => hx⟩

theorem Extends.trans {u v w : World} (huv : u.Extends v) (hvw : v.Extends w) : u.Extends w :=
  ⟨hvw.settings.trans huv.settings, hvw.clientId.trans huv.clientId,
    fun x hx => hvw.log x (huv.log x hx)⟩

theorem Extends.client {v w : World} (h : v.Extends w) : w.client = v.client := by
  rw [World.client, World.client, h.settings, h.clientId]

theorem Explains.of_extends {v w : World} {log log' : List Note} {n : Option Nat} {e : AppEvent}
    (hv : v.Explains log n e) (h : v.Extends w) (hlog : ∀ x ∈ log, x ∈ log') :
    w.Explains log' n e := by
  cases n with
  | none => exact hv
  | some n =>
    obtain ⟨t, said, hbegan, hheard, hpromise⟩ := hv
    rw [← h.client, ← h.settings] at hpromise
    exact ⟨t, said, hlog _ hbegan, fun k trip hk => hlog _ (hheard k trip hk), hpromise⟩

theorem ExplainsLog.of_extends {v w : World} {log : List Note} (hv : v.ExplainsLog log)
    (h : v.Extends w) : w.ExplainsLog log := fun before n e after hlog =>
  (hv before n e after hlog).of_extends h fun _ hx => hx

/-- Where an element stands in a list with one more at the end. -/
theorem concat_eq_append_cons {α : Type} {xs before after : List α} {x y : α}
    (h : xs ++ [y] = before ++ x :: after) :
    xs = before ∧ y = x ∨ ∃ after', after = after' ++ [y] ∧ xs = before ++ x :: after' := by
  rcases List.eq_nil_or_concat after with rfl | ⟨after', z, rfl⟩
  · obtain ⟨hxs, hy⟩ := List.append_inj' h rfl
    exact .inl ⟨hxs, List.singleton_inj.mp hy⟩
  · rw [List.concat_eq_append, ← List.cons_append, ← List.append_assoc] at h
    obtain ⟨hxs, hz⟩ := List.append_inj' h rfl
    obtain rfl := List.singleton_inj.mp hz
    exact .inr ⟨after', List.concat_eq_append, hxs⟩

/-- One more note, which is explained if it is of an event. -/
theorem ExplainsLog.concat {w : World} {log : List Note} (hlog : w.ExplainsLog log) {x : Note}
    (hx : ∀ n e, x = .handled n e → w.Explains log n e) : w.ExplainsLog (log ++ [x]) := by
  intro before n e after heq
  rcases concat_eq_append_cons heq with ⟨rfl, rfl⟩ | ⟨after', _, hold⟩
  · exact hx n e rfl
  · exact hlog before n e after' hold

theorem Accounts.of_extends {v w : World} {f : Flight} (hf : v.Accounts f) (h : v.Extends w) :
    w.Accounts f := by
  refine ⟨h.log _ hf.began, fun k trip hk => h.log _ (hf.heard k trip hk), ?_⟩
  rw [h.client, h.settings]
  exact hf.ends

theorem extends_launch (w : World) (t : Task) : w.Extends (w.launch t) :=
  ⟨rfl, rfl, fun _ hx => List.mem_append_left _ hx⟩

/-- A note is added, and what is noted elsewhere stays. -/
theorem extends_note (w : World) (x : Note) (flights : List Flight)
    (inbox : List (Option Nat × AppEvent)) :
    w.Extends { w with flights, inbox, log := w.log ++ [x] } :=
  ⟨rfl, rfl, fun _ hx => List.mem_append_left _ hx⟩

theorem extends_react {w : World} {a : App} (ha : a.settings = w.app.settings) :
    w.Extends (w.react a) :=
  react_invariant (fun v t _ hv => hv.trans (v.extends_launch t)) ⟨ha, rfl, fun _ hx => hx⟩

/-- A new task has said nothing yet. -/
theorem Coherent.launch {w : World} (hw : w.Coherent) (t : Task) : (w.launch t).Coherent := by
  have hext := w.extends_launch t
  refine { hw with
    flights := ?_
    inbox := fun n e hmem => (hw.inbox n e hmem).of_extends hext hext.log
    handled := (hw.handled.of_extends hext).concat fun _ _ hx => nomatch hx }
  intro f hf
  rcases List.mem_append.mp hf with hf | hf
  · exact (hw.flights f hf).of_extends hext
  · rw [List.mem_singleton] at hf
    subst hf
    refine ⟨List.mem_append_right _ (List.mem_singleton_self _), fun k trip hk => ?_,
      t.ends_promise⟩
    cases hk

/-- What the application flushes is taken up. -/
theorem Coherent.react {w : World} (hw : w.Coherent) {a : App} (ha : a.settings = w.app.settings)
    (hevents : ∀ e ∈ a.events, e = .quit) : (w.react a.flush).Coherent := by
  obtain ⟨status, hflush⟩ := a.flush_eq
  have hext : w.Extends { w with
      app := { a.flush with tasks := [], events := [] }
      inbox := w.inbox ++ a.flush.events.map fun e => (none, e) } :=
    ⟨a.settings_flush.trans ha, rfl, fun _ hx => hx⟩
  refine react_invariant (fun v t _ hv => hv.launch t) {
    tasks := rfl
    events := rfl
    requests := by rw [hflush]; rfl
    sheetEvents := by rw [hflush]; rfl
    flights := fun f hf => (hw.flights f hf).of_extends hext
    inbox := ?_
    handled := hw.handled.of_extends hext }
  intro n e hmem
  rcases List.mem_append.mp hmem with hmem | hmem
  · exact (hw.inbox n e hmem).of_extends hext hext.log
  · obtain ⟨e', he', heq⟩ := List.mem_map.mp hmem
    cases heq
    rw [App.events_flush] at he'
    exact hevents e he'

theorem Coherent.answer {w : World} (hw : w.Coherent) {place : Nat} {f : Flight} {q : Query}
    {next : Option Answer → Talk AppEvent} (hf : w.flights[place]? = some f)
    (htalk : f.talk = .ask q next) (r : Option Answer) :
    (w.answer place f ⟨q, r⟩ (next r)).Coherent := by
  have hext : w.Extends (w.answer place f ⟨q, r⟩ (next r)) := w.extends_note _ _ _
  refine { hw with
    flights := ?_
    inbox := fun n e hmem => (hw.inbox n e hmem).of_extends hext hext.log
    handled := (hw.handled.of_extends hext).concat fun _ _ hx => nomatch hx }
  intro g hg
  rcases List.mem_or_eq_of_mem_set hg with hg | rfl
  · exact (hw.flights g hg).of_extends hext
  · have hold := (hw.flights f (List.mem_of_getElem? hf)).of_extends hext
    refine ⟨hold.began, fun k trip hk => ?_, ?_⟩
    · rcases Nat.lt_trichotomy k f.said.length with hlt | rfl | hgt
      · rw [List.getElem?_append_left hlt] at hk
        exact hold.heard k trip hk
      · rw [List.getElem?_concat_length] at hk
        cases hk
        exact List.mem_append_right _ (List.mem_singleton_self _)
      · rw [List.getElem?_eq_none (by simp; omega)] at hk
        cases hk
    · have hends := hold.ends
      rw [htalk, Talk.ends_ask] at hends
      exact hends r

theorem Coherent.land {w : World} (hw : w.Coherent) {place : Nat} {f : Flight} {e : AppEvent}
    (hf : w.flights[place]? = some f) (htalk : f.talk = .done e) : (w.land place f e).Coherent := by
  have hext : w.Extends (w.land place f e) := ⟨rfl, rfl, fun _ hx => hx⟩
  refine { hw with
    flights := fun g hg => (hw.flights g (List.mem_of_mem_eraseIdx hg)).of_extends hext
    inbox := ?_
    handled := hw.handled.of_extends hext }
  intro n e' hmem
  rcases List.mem_append.mp hmem with hmem | hmem
  · exact (hw.inbox n e' hmem).of_extends hext hext.log
  · cases List.mem_singleton.mp hmem
    have hold := hw.flights f (List.mem_of_getElem? hf)
    have hends := hold.ends
    rw [htalk, Talk.ends_done] at hends
    exact ⟨f.task, f.said, hold.began, hold.heard, hends⟩

theorem Coherent.consume {w : World} (hw : w.Coherent) {n : Option Nat} {e : AppEvent}
    {rest : List (Option Nat × AppEvent)} (hinbox : w.inbox = (n, e) :: rest) :
    (w.consume n e rest).Coherent := by
  have htaken : Coherent { w with inbox := rest, log := w.log ++ [.handled n e] } := by
    have hext : w.Extends { w with inbox := rest, log := w.log ++ [.handled n e] } :=
      w.extends_note _ _ _
    have hhead : w.Explains w.log n e := hw.inbox n e (hinbox ▸ List.mem_cons_self)
    refine { hw with
      flights := fun g hg => (hw.flights g hg).of_extends hext
      inbox := fun n e hmem =>
        (hw.inbox n e (hinbox ▸ List.mem_cons_of_mem _ hmem)).of_extends hext hext.log
      handled := (hw.handled.of_extends hext).concat fun n' e' hx => ?_ }
    cases hx
    exact hhead.of_extends hext fun _ hx => hx
  refine htaken.react (App.settings_handleEvent _ _) fun e' he' => ?_
  rw [App.events_handleEvent, hw.events] at he'
  cases he'

/-- The state and the log stay in agreement, whatever happens next. -/
theorem Coherent.step {w w' : World} {m : Move} (hw : w.Coherent) (hstep : w.Steps m w') :
    w'.Coherent := by
  cases hstep with
  | press k =>
    refine hw.react (App.settings_handleKey _ _) fun e he => ?_
    rcases w.app.events_handleKey k with hsame | hquit
    · rw [hsame, hw.events] at he
      cases he
    · rw [hquit, hw.events] at he
      exact List.mem_singleton.mp he
  | draw area =>
    have hext : w.Extends { w with app := w.app.fit area } :=
      ⟨w.app.settings_fit area, rfl, fun _ hx => hx⟩
    have hsheet : (w.app.fit area).tasks = [] ∧ (w.app.fit area).events = [] ∧
        (w.app.fit area).sheet.requests = [] ∧ (w.app.fit area).sheet.events = [] := by
      obtain ⟨area', hfit | hfit⟩ := w.app.fit_eq area
      · rw [hfit]
        exact ⟨hw.tasks, hw.events, hw.requests, hw.sheetEvents⟩
      · rw [hfit]
        exact ⟨hw.tasks, hw.events, hw.requests, hw.sheetEvents⟩
    obtain ⟨htasks, hevents, hrequests, hsheetEvents⟩ := hsheet
    exact {
      tasks := htasks
      events := hevents
      requests := hrequests
      sheetEvents := hsheetEvents
      flights := fun f hf => (hw.flights f hf).of_extends hext
      inbox := fun n e hmem => (hw.inbox n e hmem).of_extends hext hext.log
      handled := hw.handled.of_extends hext }
  | handle hinbox => exact hw.consume hinbox
  | hear r hf htalk => exact hw.answer hf htalk r
  | finish hf htalk => exact hw.land hf htalk

/-- A move leads to a later world. -/
theorem extends_of_steps {w w' : World} {m : Move} (hstep : w.Steps m w') : w.Extends w' := by
  cases hstep with
  | press k => exact extends_react ((App.settings_flush _).trans (App.settings_handleKey _ _))
  | draw area => exact ⟨w.app.settings_fit area, rfl, fun _ hx => hx⟩
  | @handle n e rest hinbox =>
    exact (w.extends_note (.handled n e) w.flights rest).trans
      (extends_react ((App.settings_flush _).trans (App.settings_handleEvent _ _)))
  | hear r hf htalk => exact w.extends_note _ _ _
  | finish hf htalk => exact ⟨rfl, rfl, fun _ hx => hx⟩

theorem extends_of_run? {w w' : World} {moves : List Move} (hrun : w.run? moves = some w') :
    w.Extends w' :=
  run?_invariant (P := fun v => w.Extends v)
    (fun _ _ _ hv hstep => hv.trans (extends_of_steps hstep)) w.extends_self hrun

theorem coherent_start (settings : Settings) (clientId : String) :
    (start settings clientId).Coherent := by
  have hempty : Coherent { clientId, app := { App.ofSettings settings with tasks := [] } } := {
    tasks := rfl
    events := rfl
    requests := rfl
    sheetEvents := rfl
    flights := fun _ hf => nomatch hf
    inbox := fun _ _ hmem => nomatch hmem
    handled := fun before _ _ _ hlog => by cases before <;> cases hlog }
  exact hempty.react rfl fun _ he => nomatch he

theorem coherent_run {settings : Settings} {clientId : String} {moves : List Move} {w : World}
    (hrun : (start settings clientId).run? moves = some w) : w.Coherent :=
  run?_invariant (fun _ _ _ hw hstep => hw.step hstep) (coherent_start settings clientId) hrun

/-- What every move from a coherent world keeps, every run keeps. -/
theorem run_invariant {P : World → Prop} {settings : Settings} {clientId : String}
    (hstep : ∀ v m v', v.Coherent → P v → v.Steps m v' → P v') (hstart : P (start settings clientId))
    {moves : List Move} {w : World} (hrun : (start settings clientId).run? moves = some w) : P w := by
  have hkept := run?_invariant (P := fun w => w.Coherent ∧ P w)
    (fun v m v' hv hmove => ⟨hv.1.step hmove, hstep v m v' hv.1 hv.2 hmove⟩)
    ⟨coherent_start settings clientId, hstart⟩ hrun
  exact hkept.2

/-! ## A small component -/

/-- The settings of an application that shows a reporting task. -/
def taskSettings : Settings :=
  { baseUrl := "http://h", component := ⟨.reportingTask, "t"⟩ }

/-- The same, with a place for dialogs in the sheet, so that the user may add properties. -/
def promptingSettings : Settings :=
  { taskSettings with sheet := { dialogContainer := some "main" } }

/-- The reporting task in a revision; it has two properties that the user has added. -/
def taskEntity (version : Nat) : Json.Value :=
  .object [
    ("revision", .object [("version", .nat version)]),
    ("component", .object [
      ("id", .string "t"),
      ("properties", .object [("a", .string "1"), ("b", .string "2")])])]

/-- The answer that holds the reporting task in a revision. -/
def taskAnswer (version : Nat) : Answer := { status := 200, body := (taskEntity version).text }

/-- The task at a place loads the component in a revision, without a history. -/
def loading (place version : Nat) : List Move :=
  [.hear place (taskAnswer version), .hear place none, .finish place, .handle]

end World

end PropertySheet
