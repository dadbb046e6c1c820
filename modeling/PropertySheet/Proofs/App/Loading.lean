import Mathlib.Data.List.Perm.Basic
import PropertySheet.Proofs.App.World

/-!
# Which component is shown

Loads are tasks like others, and their events come in any order. What the application shows is
always what the last event of a load brought (`ShowsLast`): the component it is bound to, the
snapshot that a save goes by, and the sheet, apart from what has been done to it since.

So the load that was issued last is shown once its event has come, unless that of an earlier load
comes after it (`shows_last_issued`). A load has nothing to tell it from the ones before, and the
earlier load then replaces the later one (`not_shows_last_issued_overtakenRun`).
-/

namespace PropertySheet

/-- The load that is shown by a reaction, with the number of its task. -/
def Note.shown? : Note → Option (Option Nat × Snapshot × Histories)
  | .handled n (.loaded (.ok (s, histories))) => some (n, s, histories)
  | _ => none

/-- The number of a load that begins. -/
def Note.issued? : Note → Option Nat
  | .began n (.load _) => some n
  | _ => none

/-- The number of the task whose event the application reacts to. -/
def Note.handled? : Note → Option Nat
  | .handled n _ => n
  | _ => none

namespace World

/-- The loads that have been shown, in the order of their events. -/
def loadsShown (w : World) : List (Option Nat × Snapshot × Histories) :=
  w.log.filterMap (·.shown?)

/-- The numbers of the loads that have been issued. -/
def loadsIssued (w : World) : List Nat := w.log.filterMap (·.issued?)

end World

theorem Note.eq_of_shown? {x : Note} {n : Option Nat} {s : Snapshot} {histories : Histories}
    (h : x.shown? = some (n, s, histories)) : x = .handled n (.loaded (.ok (s, histories))) := by
  unfold Note.shown? at h
  split at h
  · cases h
    rfl
  · cases h

/-! ## What is shown -/

namespace App

/-- A component is shown: the application is bound to it, and its sheet is the one that was loaded
then, with all that has been done to it since. -/
structure Showing (a : App) (s : Snapshot) (histories : Histories) : Prop where
  snapshot : a.snapshot = some s
  component : a.component = s.component
  sheet : ∃ (u : Sheet) (ops : List Operation), (∀ op ∈ ops, op.empties = false) ∧
    a.sheet = (shown u s histories).run ops

/-- What is shown is the last of the loads that have been shown. -/
def ShowsLast (a : App) (loads : List (Option Nat × Snapshot × Histories)) : Prop :=
  match loads.getLast? with
  | none => a.snapshot = none
  | some (_, s, histories) => a.Showing s histories

/-- The application goes on with what it shows. -/
structure Keeps (a b : App) : Prop where
  snapshot : b.snapshot = a.snapshot
  component : b.component = a.component
  sheet : ∃ ops : List Operation, (∀ op ∈ ops, op.empties = false) ∧ b.sheet = a.sheet.run ops

theorem Keeps.trans {a b c : App} (hab : a.Keeps b) (hbc : b.Keeps c) : a.Keeps c := by
  obtain ⟨xs, hxs, hb⟩ := hab.sheet
  obtain ⟨ys, hys, hc⟩ := hbc.sheet
  refine ⟨hbc.snapshot.trans hab.snapshot, hbc.component.trans hab.component, xs ++ ys, ?_, ?_⟩
  · intro op hop
    exact (List.mem_append.mp hop).elim (hxs op) (hys op)
  · rw [hc, hb, Sheet.run_append]

/-- A reaction that makes one call on the sheet. -/
theorem keeps_of_apply {a b : App} (op : Operation) (hop : op.empties = false)
    (hsnapshot : b.snapshot = a.snapshot) (hcomponent : b.component = a.component)
    (hsheet : b.sheet = a.sheet.apply op) : a.Keeps b :=
  ⟨hsnapshot, hcomponent, [op], by simpa using hop, hsheet⟩

/-- A reaction that leaves the sheet alone. -/
theorem keeps_of_eq {a b : App} (hsnapshot : b.snapshot = a.snapshot)
    (hcomponent : b.component = a.component) (hsheet : b.sheet = a.sheet) : a.Keeps b :=
  ⟨hsnapshot, hcomponent, [], (fun _ hop => nomatch hop), hsheet⟩

theorem Showing.keeps {a b : App} {s : Snapshot} {histories : Histories}
    (ha : a.Showing s histories) (h : a.Keeps b) : b.Showing s histories := by
  obtain ⟨u, xs, hxs, hsheet⟩ := ha.sheet
  obtain ⟨ys, hys, hb⟩ := h.sheet
  refine ⟨h.snapshot.trans ha.snapshot, h.component.trans ha.component, u, xs ++ ys, ?_, ?_⟩
  · intro op hop
    exact (List.mem_append.mp hop).elim (hxs op) (hys op)
  · rw [hb, hsheet, Sheet.run_append]

theorem ShowsLast.keeps {a b : App} {loads : List (Option Nat × Snapshot × Histories)}
    (ha : a.ShowsLast loads) (h : a.Keeps b) : b.ShowsLast loads := by
  unfold ShowsLast at ha ⊢
  split
  next hnone =>
    rw [hnone] at ha
    exact h.snapshot.trans ha
  next hlast =>
    rw [hlast] at ha
    exact ha.keeps h

/-- What is shown was loaded last. -/
theorem ShowsLast.showing {a : App} {loads : List (Option Nat × Snapshot × Histories)}
    (h : a.ShowsLast loads) {s : Snapshot} (hs : a.snapshot = some s) :
    ∃ m histories, loads.getLast? = some (m, s, histories) ∧ a.Showing s histories := by
  unfold ShowsLast at h
  split at h
  · rw [hs] at h
    cases h
  next m s' histories hlast =>
    have hsame := h.snapshot
    rw [hs] at hsame
    cases hsame
    exact ⟨m, histories, hlast, h⟩

/-! ## Reactions that go on with what is shown -/

theorem keeps_handleKey (a : App) (k : Key) : a.Keeps (a.handleKey k) := by
  have hafter := a.afterKey_handleKey k
  generalize a.handleKey k = b at hafter ⊢
  cases hafter with
  | interrupt => exact keeps_of_eq rfl rfl rfl
  | sheet status => exact keeps_of_apply (.handleKey k) rfl rfl rfl rfl
  | leave => exact keeps_of_apply (.handleKey k) rfl rfl rfl rfl
  | save s _ _ => exact keeps_of_apply (.handleKey k) rfl rfl rfl rfl
  | reload s _ _ _ => exact keeps_of_apply (.handleKey k) rfl rfl rfl rfl

theorem keeps_flush (a : App) : a.Keeps a.flush := by
  obtain ⟨status, hflush⟩ := a.flush_eq
  rw [hflush]
  have htaken : a.Keeps { a with sheet := a.sheet.takeRequests.1 } :=
    keeps_of_apply .takeRequests rfl rfl rfl rfl
  exact htaken.trans (keeps_of_apply .takeEvents rfl rfl rfl rfl)

theorem keeps_fit (a : App) (area : Rect) : a.Keeps (a.fit area) := by
  obtain ⟨area', hfit | hfit⟩ := a.fit_eq area
  · rw [hfit]
    exact keeps_of_apply (.resize area') rfl rfl rfl rfl
  · rw [hfit]
    exact keeps_of_eq rfl rfl rfl

/-- An event shows what has been loaded, or the application goes on with what it shows. -/
theorem handleEvent_cases (a : App) (e : AppEvent) :
    (∃ s histories, e = .loaded (.ok (s, histories))) ∨
    (∀ n, (Note.handled n e).shown? = none) ∧ a.Keeps (a.handleEvent e) := by
  cases e with
  | responded r => exact .inr ⟨fun _ => rfl, keeps_of_apply (.complete r) rfl rfl rfl rfl⟩
  | loaded result =>
    cases result with
    | error e => exact .inr ⟨fun _ => rfl, keeps_of_eq rfl rfl rfl⟩
    | ok shown => exact .inl ⟨shown.1, shown.2, rfl⟩
  | saved result =>
    cases result with
    | error e => exact .inr ⟨fun _ => rfl, keeps_of_eq rfl rfl rfl⟩
    | ok s => exact .inr ⟨fun _ => rfl, keeps_of_eq rfl rfl rfl⟩
  | quit => exact .inr ⟨fun _ => rfl, keeps_of_apply .cancelEdit rfl rfl rfl rfl⟩

/-- What has been loaded is shown. -/
theorem showing_display (a : App) {s : Snapshot} (hs : (s.properties.map (·.1)).Nodup)
    (histories : Histories) : (a.display s histories).Showing s histories := by
  obtain ⟨status, hdisplay⟩ := a.display_eq hs histories
  rw [hdisplay]
  exact ⟨rfl, rfl, a.sheet, [], (fun _ hop => nomatch hop), rfl⟩

end App

/-! ## Every run -/

namespace World

variable {w w' : World}

/-- A load that has come, or comes, is of a task that loads, and the names of the properties of its
component are distinct. -/
theorem Explains.of_loaded {log : List Note} {n : Option Nat} {s : Snapshot}
    {histories : Histories} (h : w.Explains log n (.loaded (.ok (s, histories)))) :
    ∃ i c u a, n = some i ∧ Note.began i (.load c) ∈ log ∧
      Note.heard i (.load c) 0 ⟨Client.componentQuery u, some a⟩ ∈ log ∧
      a.entity? c.kind = some s := by
  cases n with
  | none => cases h
  | some i =>
    obtain ⟨t, said, hbegan, hheard, hpromise⟩ := h
    cases t with
    | load c =>
      obtain ⟨result, hresult, hread⟩ := hpromise
      cases hresult
      obtain ⟨u, a, _, hfirst, hentity⟩ := hread s histories rfl
      exact ⟨i, c, u, a, rfl, hbegan, hheard 0 _ hfirst, hentity⟩
    | save s changes =>
      obtain ⟨result, hresult, _⟩ := hpromise
      cases hresult
    | respond c q =>
      obtain ⟨r, hresult, _⟩ := hpromise
      cases hresult

/-- The properties of a component that is on its way have distinct names. -/
theorem Coherent.nodup_of_loaded (hw : w.Coherent) {n : Option Nat} {s : Snapshot}
    {histories : Histories} (h : (n, .loaded (.ok (s, histories))) ∈ w.inbox) :
    (s.properties.map (·.1)).Nodup := by
  obtain ⟨_, _, _, _, _, _, _, hentity⟩ := (hw.inbox n _ h).of_loaded
  exact Answer.properties_nodup_of_entity? hentity

theorem filterMap_launches {α : Type} (f : Note → Option α) (hf : ∀ n t, f (.began n t) = none)
    (launches : List (Nat × Task)) :
    (launches.map fun t => Note.began t.1 t.2).filterMap f = [] := by
  rw [List.filterMap_map, List.filterMap_eq_nil_iff]
  exact fun t _ => hf t.1 t.2

@[simp]
theorem loadsShown_react (w : World) (a : App) : (w.react a).loadsShown = w.loadsShown := by
  rw [react, foldl_launch, loadsShown, List.filterMap_append, filterMap_launches _ fun _ _ => rfl,
    List.append_nil]
  rfl

@[simp]
theorem loadsShown_answer (w : World) (place : Nat) (f : Flight) (trip : RoundTrip)
    (talk : Talk AppEvent) : (w.answer place f trip talk).loadsShown = w.loadsShown := by
  rw [loadsShown, answer, List.filterMap_append]
  exact List.append_nil _

@[simp]
theorem app_react (w : World) (a : App) :
    (w.react a).app = { a with tasks := [], events := [] } := by
  rw [react, foldl_launch]

/-- The application takes up a reaction and shows what the reaction left it showing. -/
theorem keeps_react (w : World) (a : App) : a.Keeps (w.react a.flush).app := by
  rw [app_react]
  exact a.keeps_flush.trans (App.keeps_of_eq rfl rfl rfl)

theorem showsLast_step (hw : w.Coherent) (hshows : w.app.ShowsLast w.loadsShown) {m : Move}
    (hstep : w.Steps m w') : w'.app.ShowsLast w'.loadsShown := by
  cases hstep with
  | press k =>
    rw [loadsShown_react]
    exact hshows.keeps ((w.app.keeps_handleKey k).trans (w.keeps_react _))
  | draw area => exact hshows.keeps (w.app.keeps_fit area)
  | @handle n e rest hinbox =>
    rw [consume, loadsShown_react]
    have hshown : ({ w with inbox := rest, log := w.log ++ [.handled n e] } : World).loadsShown =
        w.loadsShown ++ [Note.handled n e].filterMap (·.shown?) := List.filterMap_append
    rw [hshown]
    have hkeeps := keeps_react { w with inbox := rest, log := w.log ++ [.handled n e] }
      (w.app.handleEvent e)
    rcases w.app.handleEvent_cases e with ⟨s, histories, rfl⟩ | ⟨hnone, hevent⟩
    · have hnodup := hw.nodup_of_loaded (hinbox ▸ List.mem_cons_self)
      have hdisplay := w.app.showing_display hnodup histories
      have hlast : (w.loadsShown ++
          [Note.handled n (.loaded (.ok (s, histories)))].filterMap (·.shown?)).getLast? =
          some (n, s, histories) := List.getLast?_concat
      rw [App.ShowsLast, hlast]
      exact hdisplay.keeps hkeeps
    · rw [List.filterMap_cons_none (hnone n), List.filterMap_nil, List.append_nil]
      exact hshows.keeps (hevent.trans hkeeps)
  | hear r hf htalk =>
    rw [loadsShown_answer]
    exact hshows
  | finish hf htalk => exact hshows

theorem showsLast_start (settings : Settings) (clientId : String) :
    (start settings clientId).app.ShowsLast (start settings clientId).loadsShown := by
  rw [start, loadsShown_react]
  have hnone : (App.ofSettings settings).ShowsLast [] := rfl
  exact hnone.keeps (keeps_react _ _)

theorem showsLast_run {settings : Settings} {clientId : String} {moves : List Move} {w : World}
    (hrun : (start settings clientId).run? moves = some w) : w.app.ShowsLast w.loadsShown :=
  run_invariant (P := fun w => w.app.ShowsLast w.loadsShown)
    (fun _ _ _ hv hshows hstep => showsLast_step hv hshows hstep)
    (showsLast_start settings clientId) hrun

/-! ## Numbers of tasks -/

/-- The numbers of the tasks whose events have been handled, are on their way or are to come. -/
def numbers (w : World) : List Nat :=
  w.log.filterMap (·.handled?) ++ w.inbox.filterMap (·.1) ++ w.flights.map (·.serial)

/-- No task sends two events, and the next number is beyond all of them. -/
structure Numbered (w : World) : Prop where
  nodup : w.numbers.Nodup
  below : ∀ n ∈ w.numbers, n < w.nextSerial

theorem Numbered.launch (hw : w.Numbered) (t : Task) : (w.launch t).Numbered := by
  have hnumbers : (w.launch t).numbers = w.numbers ++ [w.nextSerial] := by
    simp [numbers, World.launch, Note.handled?]
  refine ⟨?_, ?_⟩
  · rw [hnumbers]
    exact List.nodup_append.mpr ⟨hw.nodup, List.nodup_singleton _, fun n hn m hm =>
      List.mem_singleton.mp hm ▸ Nat.ne_of_lt (hw.below n hn)⟩
  · intro n hn
    rw [hnumbers, List.mem_append, List.mem_singleton] at hn
    rcases hn with hn | rfl
    · exact Nat.lt_succ_of_lt (hw.below n hn)
    · exact Nat.lt_succ_self _

theorem Numbered.react (hw : w.Numbered) (a : App) : (w.react a).Numbered := by
  have hnumbers : numbers { w with
      app := { a with tasks := [], events := [] }
      inbox := w.inbox ++ a.events.map fun e => (none, e) } = w.numbers := by
    simp [numbers, List.filterMap_append, List.filterMap_map]
  refine react_invariant (fun v t _ hv => hv.launch t) ⟨?_, ?_⟩
  · rw [hnumbers]
    exact hw.nodup
  · rw [hnumbers]
    exact hw.below

theorem Numbered.step (hw : w.Numbered) {m : Move} (hstep : w.Steps m w') : w'.Numbered := by
  cases hstep with
  | press k => exact hw.react _
  | draw area => exact ⟨hw.nodup, hw.below⟩
  | @handle n e rest hinbox =>
    have hnumbers : numbers { w with inbox := rest, log := w.log ++ [.handled n e] } = w.numbers := by
      rw [numbers, numbers, hinbox, List.filterMap_append]
      cases n with
      | none => simp [Note.handled?]
      | some i => simp [Note.handled?]
    refine Numbered.react ⟨?_, ?_⟩ _
    · rw [hnumbers]
      exact hw.nodup
    · rw [hnumbers]
      exact hw.below
  | @hear place f q next r hf htalk =>
    have hserials : (w.answer place f ⟨q, r⟩ (next r)).flights.map (·.serial) =
        w.flights.map (·.serial) := by
      obtain ⟨hplace, rfl⟩ := List.getElem?_eq_some_iff.mp hf
      rw [answer, List.map_set]
      refine Eq.trans ?_ (List.set_getElem_self (i := place) (by simpa using hplace))
      rw [List.getElem_map]
    have hnumbers : (w.answer place f ⟨q, r⟩ (next r)).numbers = w.numbers := by
      rw [numbers, hserials]
      simp [numbers, answer, List.filterMap_append, Note.handled?]
    refine ⟨?_, ?_⟩
    · rw [hnumbers]
      exact hw.nodup
    · rw [hnumbers]
      exact hw.below
  | @finish place f e hf htalk =>
    have hperm : (w.land place f e).numbers.Perm w.numbers := by
      obtain ⟨hplace, rfl⟩ := List.getElem?_eq_some_iff.mp hf
      have hflights := (List.getElem_cons_eraseIdx_perm hplace).map (·.serial)
      rw [numbers, numbers, land, List.filterMap_append, List.append_assoc, List.append_assoc,
        List.append_assoc]
      exact (hflights.append_left _).append_left _
    exact ⟨hperm.nodup_iff.mpr hw.nodup, fun n hn => hw.below n (hperm.mem_iff.mp hn)⟩

theorem numbered_start (settings : Settings) (clientId : String) :
    (start settings clientId).Numbered :=
  Numbered.react (w := { clientId, app := { App.ofSettings settings with tasks := [] } })
    ⟨List.nodup_nil, fun _ hn => nomatch hn⟩ _

theorem numbered_run {settings : Settings} {clientId : String} {moves : List Move} {w : World}
    (hrun : (start settings clientId).run? moves = some w) : w.Numbered :=
  run?_invariant (fun _ _ _ hv hstep => hv.step hstep) (numbered_start settings clientId) hrun

/-- An event that is on its way has not been handled. -/
theorem Numbered.unhandled (hw : w.Numbered) {n : Nat} {e : AppEvent}
    (hmem : (some n, e) ∈ w.inbox) : ∀ e', Note.handled (some n) e' ∉ w.log := by
  intro e' hhandled
  have hnodup : w.numbers.Nodup := hw.nodup
  rw [numbers, List.append_assoc] at hnodup
  have hpast : n ∈ w.log.filterMap (·.handled?) := List.mem_filterMap.mpr ⟨_, hhandled, rfl⟩
  have hcoming : n ∈ w.inbox.filterMap (·.1) ++ w.flights.map (·.serial) :=
    List.mem_append_left _ (List.mem_filterMap.mpr ⟨_, hmem, rfl⟩)
  exact (List.nodup_append.mp hnodup).2.2 n hpast n hcoming rfl

/-! ## The last load -/

/-- The rows of a sheet go on under their names, and the user's come after them. -/
theorem listing_run {s : Sheet} (hidx : s.store.Indexed) {ops : List Operation}
    (hops : ∀ op ∈ ops, op.empties = false) : ∃ added : List String,
      (s.run ops).store.listing =
        s.store.listing ++ added.map fun name => (name, .userDefined) := by
  induction ops generalizing s with
  | nil => exact ⟨[], (List.append_nil _).symm⟩
  | cons op ops ih =>
    obtain ⟨hop, hops⟩ := List.forall_mem_cons.mp hops
    obtain ⟨first, hfirst⟩ := (Sheet.succeeds_apply hidx hop).listed
    obtain ⟨more, hmore⟩ := ih (Sheet.indexed_apply hidx op) hops
    refine ⟨first ++ more, ?_⟩
    rw [Sheet.run_cons, hmore, hfirst, List.map_append, List.append_assoc]

/-- The rows of a component that is shown are those of its properties, in its order, and then those
that the user has added. -/
theorem rows_of_showing {a : App} {s : Snapshot} {histories : Histories}
    (hs : (s.properties.map (·.1)).Nodup) (h : a.Showing s histories) :
    ∃ loaded added : List Row, a.sheet.rows = loaded ++ added ∧
      loaded.map (·.property) = s.properties.map (·.1) ∧ ∀ r ∈ added, r.kind = .userDefined := by
  obtain ⟨u, ops, hops, hsheet⟩ := h.sheet
  obtain ⟨_, hidx, hrows⟩ := u.load_of_nodup hs s.descriptors histories
  obtain ⟨added, hlisting⟩ := listing_run (s := App.shown u s histories) hidx hops
  have hloaded : (App.shown u s histories).store.listing.map (·.1) = s.properties.map (·.1) := by
    show (u.load s.properties s.descriptors histories).1.store.listing.map (·.1) = _
    rw [RowStore.listing, List.map_map]
    show (u.load s.properties s.descriptors histories).1.rows.map (·.property) = _
    rw [hrows, RowStore.map_property_numbered, List.map_map]
    rfl
  rw [← hsheet] at hlisting
  obtain ⟨old, new, hsplit, hold, hnew⟩ := List.map_eq_append_iff.mp hlisting
  refine ⟨old, new, hsplit, ?_, fun r hr => ?_⟩
  · rw [← hloaded, ← hold, List.map_map]
    rfl
  · have hlisted : (r.property, r.kind) ∈ added.map fun name => (name, PropertyKind.userDefined) :=
      hnew ▸ List.mem_map_of_mem hr
    obtain ⟨_, _, heq⟩ := List.mem_map.mp hlisted
    exact (congrArg Prod.snd heq).symm

theorem names_of_showing {a : App} {s : Snapshot} {histories : Histories}
    (hs : (s.properties.map (·.1)).Nodup) (h : a.Showing s histories) :
    ∃ added : List String, a.sheet.rows.map (·.property) = s.properties.map (·.1) ++ added := by
  obtain ⟨loaded, added, hrows, hnames, _⟩ := rows_of_showing hs h
  exact ⟨added.map (·.property), by rw [hrows, List.map_append, hnames]⟩

/-- A load that has been shown was issued, and its component has distinct names. -/
theorem Coherent.of_mem_loadsShown (hw : w.Coherent) {n : Option Nat} {s : Snapshot}
    {histories : Histories} (h : (n, s, histories) ∈ w.loadsShown) :
    (∃ i, n = some i ∧ i ∈ w.loadsIssued) ∧ (s.properties.map (·.1)).Nodup := by
  obtain ⟨x, hx, hshown⟩ := List.mem_filterMap.mp h
  obtain rfl := Note.eq_of_shown? hshown
  obtain ⟨before, after, hlog⟩ := List.append_of_mem hx
  obtain ⟨i, c, _, a, rfl, hbegan, _, hentity⟩ := (hw.handled before _ _ after hlog).of_loaded
  refine ⟨⟨i, rfl, ?_⟩, Answer.properties_nodup_of_entity? hentity⟩
  have hmem : Note.began i (.load c) ∈ w.log := by
    rw [hlog]
    exact List.mem_append_left _ hbegan
  exact List.mem_filterMap.mpr ⟨_, hmem, rfl⟩

/-- No load is shown twice. -/
theorem Numbered.nodup_loadsShown (hw : w.Numbered) : (w.loadsShown.filterMap (·.1)).Nodup := by
  have hsub : ∀ log : List Note,
      ((log.filterMap (·.shown?)).filterMap (·.1)).Sublist (log.filterMap (·.handled?)) := by
    intro log
    induction log with
    | nil => exact .slnil
    | cons x log ih =>
      cases hx : x.shown? with
      | none =>
        rw [List.filterMap_cons_none hx]
        exact ih.trans ((List.sublist_cons_self _ _).filterMap _)
      | some y =>
        obtain ⟨n, s, histories⟩ := y
        obtain rfl := Note.eq_of_shown? hx
        rw [List.filterMap_cons_some hx]
        cases n with
        | none => exact ih
        | some i => exact ih.cons_cons i
  have hlog : w.numbers.Nodup := hw.nodup
  rw [numbers, List.append_assoc] at hlog
  exact (hlog.sublist (List.sublist_append_left _ _)).sublist (hsub w.log)

/-- What there is to see of the loads of a run. -/
structure LoadingSummary where
  flights : Nat
  inbox : Nat
  issued : List Nat
  /-- The loads that have been shown, with the revisions they brought. -/
  shown : List (Option Nat × Nat)
  revision : Option Nat
deriving DecidableEq

def loadingSummary (w : World) : LoadingSummary where
  flights := w.flights.length
  inbox := w.inbox.length
  issued := w.loadsIssued
  shown := w.loadsShown.map fun x => (x.1, x.2.1.revision.version)
  revision := w.app.snapshot.map (·.revision.version)

/-- The user loads the component twice more, and the first of the two loads ends first. -/
def reloadedRun : List Move :=
  loading 0 4 ++ [.press { code := .char 'r' }, .press { code := .char 'r' }] ++ loading 0 5 ++
    loading 0 6

/-- The same, but the second load ends first. -/
def overtakenRun : List Move :=
  loading 0 4 ++ [.press { code := .char 'r' }, .press { code := .char 'r' }] ++ loading 1 6 ++
    loading 0 5

/-- The load that was issued last is shown once its event has been handled, as long as the event of
no earlier load is handled after it: the application is bound to its component, and the rows are its
properties with what the user has done to them since. -/
theorem shows_last_issued {settings : Settings} {clientId : String} {moves : List Move} {w : World}
    (hrun : (start settings clientId).run? moves = some w) {j : Nat} {s : Snapshot}
    {histories : Histories} {earlier later : List (Option Nat × Snapshot × Histories)}
    (hlast : ∀ i ∈ w.loadsIssued, i ≤ j)
    (hshown : w.loadsShown = earlier ++ (some j, s, histories) :: later)
    (hovertaken : ∀ i < j, some i ∉ later.map (·.1)) :
    w.app.Showing s histories ∧
    ∃ added : List String, w.app.sheet.rows.map (·.property) = s.properties.map (·.1) ++ added := by
  have hcoherent := coherent_run hrun
  have hnone : later = [] := by
    refine List.eq_nil_iff_forall_not_mem.mpr fun y hy => ?_
    have hmem : y ∈ w.loadsShown := by
      rw [hshown]
      exact List.mem_append_right _ (List.mem_cons_of_mem _ hy)
    obtain ⟨⟨i, hi, hissued⟩, _⟩ := hcoherent.of_mem_loadsShown hmem
    have hne : i ≠ j := by
      have hnodup := (numbered_run hrun).nodup_loadsShown
      rw [hshown, List.filterMap_append] at hnodup
      have hj : j ∉ later.filterMap (·.1) :=
        (List.nodup_cons.mp (hnodup.sublist (List.sublist_append_right _ _))).1
      rintro rfl
      exact hj (List.mem_filterMap.mpr ⟨y, hy, hi⟩)
    have hlt : i < j := by
      have hle := hlast i hissued
      omega
    exact hovertaken i hlt (List.mem_map.mpr ⟨y, hy, hi⟩)
  subst hnone
  have hshows := showsLast_run hrun
  rw [App.ShowsLast, hshown, List.getLast?_concat] at hshows
  have hmem : (some j, s, histories) ∈ w.loadsShown := by
    rw [hshown]
    exact List.mem_append_right _ List.mem_cons_self
  exact ⟨hshows, names_of_showing (hcoherent.of_mem_loadsShown hmem).2 hshows⟩

theorem shows_last_issued_reloadedRun :
    ∃ w s histories, (start taskSettings "c").run? reloadedRun = some w ∧
      w.app.Showing s histories ∧ s.revision.version = 6 := by
  have hseen : ((start taskSettings "c").run? reloadedRun).map loadingSummary =
      some { flights := 0, inbox := 0, issued := [0, 1, 2],
             shown := [(some 0, 4), (some 1, 5), (some 2, 6)], revision := some 6 } := by
    decide +kernel
  obtain ⟨w, hrun, hsummary⟩ := Option.map_eq_some_iff.mp hseen
  have hissued : w.loadsIssued = [0, 1, 2] := congrArg LoadingSummary.issued hsummary
  obtain ⟨earlier, last, hshown, _, hlast⟩ := List.map_eq_append_iff.mp
    (show w.loadsShown.map _ = [(some 0, 4), (some 1, 5)] ++ [(some 2, 6)] from
      congrArg LoadingSummary.shown hsummary)
  obtain ⟨⟨n, s, histories⟩, rfl, hx⟩ := List.map_eq_singleton_iff.mp hlast
  obtain ⟨rfl, hversion⟩ := Prod.mk.inj hx
  have hshows := shows_last_issued hrun (j := 2) (by rw [hissued]; decide) hshown
    fun _ _ hmem => nomatch hmem
  exact ⟨w, s, histories, hrun, hshows.1, hversion⟩

/-- The second load, which was issued last, is not shown in the end. -/
theorem not_shows_last_issued_overtakenRun :
    ∃ w s histories, (start taskSettings "c").run? overtakenRun = some w ∧ w.flights = [] ∧
      w.inbox = [] ∧ (∀ i ∈ w.loadsIssued, i ≤ 2) ∧ (some 2, s, histories) ∈ w.loadsShown ∧
      w.app.snapshot ≠ some s := by
  have hseen : ((start taskSettings "c").run? overtakenRun).map loadingSummary =
      some { flights := 0, inbox := 0, issued := [0, 1, 2],
             shown := [(some 0, 4), (some 2, 6), (some 1, 5)], revision := some 5 } := by
    decide +kernel
  obtain ⟨w, hrun, hsummary⟩ := Option.map_eq_some_iff.mp hseen
  have hissued : w.loadsIssued = [0, 1, 2] := congrArg LoadingSummary.issued hsummary
  have hshown : w.loadsShown.map (fun x => (x.1, x.2.1.revision.version)) =
      [(some 0, 4), (some 2, 6), (some 1, 5)] := congrArg LoadingSummary.shown hsummary
  obtain ⟨⟨n, s, histories⟩, hmem, hx⟩ := List.mem_map.mp
    (show (some 2, 6) ∈ w.loadsShown.map _ by rw [hshown]; decide)
  obtain ⟨rfl, hversion⟩ := Prod.mk.inj hx
  refine ⟨w, s, histories, hrun, List.length_eq_zero_iff.mp (congrArg LoadingSummary.flights hsummary),
    List.length_eq_zero_iff.mp (congrArg LoadingSummary.inbox hsummary), ?_, hmem, ?_⟩
  · rw [hissued]
    decide
  · intro hsnapshot
    have hrevision : w.app.snapshot.map (·.revision.version) = some 5 :=
      congrArg LoadingSummary.revision hsummary
    rw [hsnapshot, Option.map_some, hversion] at hrevision
    cases hrevision

end World

end PropertySheet
