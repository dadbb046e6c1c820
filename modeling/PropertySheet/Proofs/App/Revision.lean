import PropertySheet.Proofs.App.Loading

/-!
# Which revision a save is made against

The backend accepts a save only if it is made against the revision that the backend has. A client
learns of revisions from the entities that it receives: `Task.entityAt?` says which answers hold
one.

A save goes by the snapshot that is shown, so it carries the revision of the last load that has been
shown, which is the newest one as long as the client has received no other entity of the component
since (`save_carries_newest`). The answer to a save is such an entity, but its revision is not kept:
until what has been saved is loaded again and shown, the next save carries the revision before it
(`not_save_carries_newest_failedReloadRun`).
-/

namespace PropertySheet

/-- The kind of the component that an answer to a task holds, by the number of answers before it. A
load asks for the component first; a host that saves before the user leaves fetches the component,
and has it again in the answer to the save. -/
def Task.entityAt? (policy : UnsavedPolicy) : Task → Nat → Option ComponentKind
  | .load c, 0 => some c.kind
  | .save s _, 0 => some s.component.kind
  | .respond c (.goToService _ _ (some changes)), k =>
    if policy = .save ∧ changes.isEmpty = false ∧ k < 2 then some c.kind else none
  | _, _ => none

/-- The entity that the client receives. -/
def Note.entity? (policy : UnsavedPolicy) : Note → Option Snapshot
  | .heard _ t k ⟨_, some a⟩ => (t.entityAt? policy k).bind a.entity?
  | _ => none

/-- The newest of the entities of a component that the client has received. -/
def newest? (policy : UnsavedPolicy) (component : ComponentRef) (log : List Note) :
    Option Snapshot :=
  ((log.filterMap (·.entity? policy)).filter (·.component = component)).getLast?

/-- An entity is the newest one until another of its component is received. -/
theorem newest?_eq_some {policy : UnsavedPolicy} {earlier later : List Note} {x : Note}
    {s : Snapshot} (hx : x.entity? policy = some s)
    (hlater : ∀ y ∈ later, ∀ s', y.entity? policy = some s' → s'.component ≠ s.component) :
    newest? policy s.component (earlier ++ x :: later) = some s := by
  have hnone : (later.filterMap (·.entity? policy)).filter (·.component = s.component) = [] := by
    refine List.filter_eq_nil_iff.mpr fun s' hs' => ?_
    obtain ⟨y, hy, hentity⟩ := List.mem_filterMap.mp hs'
    simpa using hlater y hy s' hentity
  rw [newest?, List.filterMap_append, List.filterMap_cons_some hx, List.filter_append,
    List.filter_cons_of_pos (by simp), hnone, List.getLast?_concat]

namespace World

variable {w w' : World}

/-! ## The request of a save -/

/-- The first that the task that saves sends is the save, with the revision of the snapshot. -/
theorem save_asks {s : Snapshot} {changes : Changes} {q : Query}
    {next : Option Answer → Talk AppEvent}
    (h : (Task.save s changes).run w.client w.app.settings.unsavedChanges = .ask q next) :
    q.method = .put ∧ q.body.bind savedVersion? = some (.nat s.revision.version) := by
  cases hurl : w.client.url s.component.path with
  | error e =>
    simp only [Task.run, Client.update, Client.submit, hurl] at h
    cases h
  | ok u =>
    simp only [Task.run, Client.update, Client.submit, hurl] at h
    cases h
    exact ⟨rfl, Snapshot.savedVersion?_updateBody s changes w.client.clientId⟩

/-! ## The snapshot of a save -/

/-- Every save goes by the snapshot of the last load that had been shown when it began. -/
def SavesShown (log : List Note) : Prop :=
  ∀ before n s changes after, log = before ++ .began n (.save s changes) :: after →
    ∃ m histories, (before.filterMap (·.shown?)).getLast? = some (m, s, histories)

/-- One more note, which goes by what is shown if a save begins. -/
theorem SavesShown.concat {log : List Note} (hlog : SavesShown log) {x : Note}
    (hx : ∀ n s changes, x = .began n (.save s changes) →
      ∃ m histories, (log.filterMap (·.shown?)).getLast? = some (m, s, histories)) :
    SavesShown (log ++ [x]) := by
  intro before n s changes after heq
  rcases concat_eq_append_cons heq with ⟨rfl, rfl⟩ | ⟨after', _, hold⟩
  · exact hx n s changes rfl
  · exact hlog before n s changes after' hold

/-- A reaction that starts a save only of what is shown. -/
theorem savesShown_react (hw : SavesShown w.log) {a : App}
    (ha : ∀ s changes, .save s changes ∈ a.tasks →
      ∃ m histories, w.loadsShown.getLast? = some (m, s, histories)) :
    SavesShown (w.react a).log := by
  have hkept : SavesShown (w.react a).log ∧ (w.react a).loadsShown = w.loadsShown := by
    refine react_invariant (P := fun v => SavesShown v.log ∧ v.loadsShown = w.loadsShown) ?_
      ⟨hw, rfl⟩
    intro v t ht ⟨hv, hshown⟩
    constructor
    · refine hv.concat fun n s changes hx => ?_
      cases hx
      show ∃ m histories, v.loadsShown.getLast? = some (m, s, histories)
      rw [hshown]
      exact ha s changes ht
    · rw [← hshown, loadsShown, launch, List.filterMap_append]
      exact List.append_nil _
  exact hkept.1

theorem savesShown_step (hw : w.Coherent) (hshows : w.app.ShowsLast w.loadsShown)
    (hsaves : SavesShown w.log) {m : Move} (hstep : w.Steps m w') : SavesShown w'.log := by
  cases hstep with
  | press k =>
    refine savesShown_react hsaves fun s changes ht => ?_
    rcases App.save_of_handleKey (App.save_of_flush ht) with ht | ⟨hs, _⟩
    · rw [hw.tasks] at ht
      cases ht
    · obtain ⟨m, histories, hlast, _⟩ := hshows.showing hs
      exact ⟨m, histories, hlast⟩
  | draw area => exact hsaves
  | @handle n e rest hinbox =>
    -- no event makes the application save
    have hnoted : SavesShown (w.log ++ [.handled n e]) := hsaves.concat fun _ _ _ hx => nomatch hx
    refine savesShown_react (w := { w with inbox := rest, log := w.log ++ [.handled n e] }) hnoted
      fun s changes ht => ?_
    have hold := App.save_of_handleEvent (App.save_of_flush ht)
    rw [hw.tasks] at hold
    cases hold
  | hear r hf htalk => exact hsaves.concat fun _ _ _ hx => nomatch hx
  | finish hf htalk => exact hsaves

theorem savesShown_run {settings : Settings} {clientId : String} {moves : List Move}
    (hrun : (start settings clientId).run? moves = some w) : SavesShown w.log := by
  have hstart : SavesShown (start settings clientId).log := by
    refine savesShown_react (fun before _ _ _ _ hlog => by cases before <;> cases hlog)
      fun s changes ht => ?_
    have hold := App.save_of_flush ht
    rw [App.ofSettings, App.load, App.addTask, List.mem_append, List.mem_singleton] at hold
    rcases hold with ht | ht
    · cases ht
    · cases ht
  have hkept := run_invariant (P := fun w => w.app.ShowsLast w.loadsShown ∧ SavesShown w.log)
    (fun v m v' hv hkept hstep =>
      ⟨showsLast_step hv hkept.1 hstep, savesShown_step hv hkept.1 hkept.2 hstep⟩)
    ⟨showsLast_start settings clientId, hstart⟩ hrun
  exact hkept.2

/-! ## A save that has just begun -/

/-- What there is to see of a save that has just begun and is about to send its request: the
revision that it is made against, the newest one that the client has received, and how many entities
it has received in all. -/
structure SavingSummary where
  version : Nat
  newest : Option Nat
  received : Nat
deriving DecidableEq

def savingSummary? (w : World) : Option SavingSummary :=
  let policy := w.app.settings.unsavedChanges
  match w.log.getLast? with
  | some (.began _ (.save s changes)) =>
    match (Task.save s changes).run w.client policy with
    | .ask _ _ => some {
        version := s.revision.version
        newest := (newest? policy s.component w.log.dropLast).map (·.revision.version)
        received := (w.log.dropLast.filterMap (·.entity? policy)).length }
    | .done _ => none
  | _ => none

theorem savingSummary?_eq_some {x : SavingSummary} (h : w.savingSummary? = some x) :
    let policy := w.app.settings.unsavedChanges
    ∃ before n s changes q next, w.log = before ++ [.began n (.save s changes)] ∧
      (Task.save s changes).run w.client policy = .ask q next ∧ s.revision.version = x.version ∧
      (newest? policy s.component before).map (·.revision.version) = x.newest ∧
      (before.filterMap (·.entity? policy)).length = x.received := by
  intro policy
  unfold savingSummary? at h
  dsimp only at h
  split at h
  next n s changes hlast =>
    split at h
    next q next hask =>
      cases h
      refine ⟨w.log.dropLast, n, s, changes, q, next, ?_, hask, rfl, rfl, rfl⟩
      exact (List.dropLast_append_getLast? _ hlast).symm
    · cases h
  · cases h

/-- The user deletes a value and saves. -/
def savedRun : List Move :=
  loading 0 4 ++ [.press { code := .char 'd' }, .press { code := .char 's' }]

/-- The save is accepted, what has been saved cannot be loaded, and the user saves once more. -/
def failedReloadRun : List Move :=
  savedRun ++ [.hear 0 (taskAnswer 5), .finish 0, .handle, .hear 0 none, .finish 0, .handle,
    .press { code := .char 's' }]

/-! ## The newest revision -/

/-- A save is made against the revision of a component that the client has loaded. It is the newest
one if nothing that the client has received since then holds the component. -/
theorem save_carries_newest {settings : Settings} {clientId : String} {moves : List Move}
    (hrun : (start settings clientId).run? moves = some w) {before after : List Note} {n : Nat}
    {s : Snapshot} {changes : Changes}
    (hlog : w.log = before ++ .began n (.save s changes) :: after) :
    let policy := w.app.settings.unsavedChanges
    (∃ earlier i c trip later, before = earlier ++ .heard i (.load c) 0 trip :: later ∧
      (Note.heard i (.load c) 0 trip).entity? policy = some s ∧
      ((∀ y ∈ later, ∀ s', y.entity? policy = some s' → s'.component ≠ s.component) →
        newest? policy s.component before = some s)) ∧
    ∀ q next, (Task.save s changes).run w.client policy = .ask q next →
      q.method = .put ∧ q.body.bind savedVersion? = some (.nat s.revision.version) := by
  intro policy
  refine ⟨?_, fun q next hask => save_asks hask⟩
  -- the snapshot was shown, so its load had ended, so its first answer had come
  obtain ⟨m, histories, hlast⟩ := savesShown_run hrun before n s changes after hlog
  obtain ⟨x, hx, hshown⟩ := List.mem_filterMap.mp (List.mem_of_getLast? hlast)
  obtain rfl := Note.eq_of_shown? hshown
  obtain ⟨ended, shown, rfl⟩ := List.append_of_mem hx
  rw [List.append_assoc, List.cons_append] at hlog
  obtain ⟨i, c, u, a, rfl, _, hheard, hentity⟩ :=
    ((coherent_run hrun).handled ended _ _ _ hlog).of_loaded
  obtain ⟨earlier, later, rfl⟩ := List.append_of_mem hheard
  rw [List.append_assoc, List.cons_append]
  refine ⟨earlier, i, c, _, _, rfl, hentity, fun hsince => ?_⟩
  exact newest?_eq_some hentity hsince

theorem save_carries_newest_savedRun :
    ∃ w before n s changes, (start taskSettings "c").run? savedRun = some w ∧
      w.log = before ++ [.began n (.save s changes)] ∧ s.revision.version = 4 ∧
      newest? w.app.settings.unsavedChanges s.component before = some s := by
  have hseen : ((start taskSettings "c").run? savedRun).bind savingSummary? =
      some { version := 4, newest := some 4, received := 1 } := by
    decide +kernel
  obtain ⟨w, hrun, hsummary⟩ := Option.bind_eq_some_iff.mp hseen
  obtain ⟨before, n, s, changes, _, _, hlog, _, hversion, _, hreceived⟩ :=
    savingSummary?_eq_some hsummary
  obtain ⟨⟨earlier, i, c, trip, later, hbefore, hentity, hnewest⟩, _⟩ :=
    save_carries_newest hrun hlog
  refine ⟨w, before, n, s, changes, hrun, hlog, hversion, hnewest fun y hy s' hs' => ?_⟩
  -- the load is all that the client has received
  rw [hbefore, List.filterMap_append, List.filterMap_cons_some hentity, List.length_append,
    List.length_cons] at hreceived
  have hmem : s' ∈ later.filterMap (Note.entity? w.app.settings.unsavedChanges) :=
    List.mem_filterMap.mpr ⟨y, hy, hs'⟩
  have hlater : later.filterMap (Note.entity? w.app.settings.unsavedChanges) = [] := by
    refine List.length_eq_zero_iff.mp ?_
    dsimp only at hreceived
    omega
  rw [hlater] at hmem
  cases hmem

/-- The second save is made against the revision that was loaded, not against the one in the answer
to the first. -/
theorem not_save_carries_newest_failedReloadRun :
    ∃ w before n s changes q next, (start taskSettings "c").run? failedReloadRun = some w ∧
      w.log = before ++ [.began n (.save s changes)] ∧
      (Task.save s changes).run w.client w.app.settings.unsavedChanges = .ask q next ∧
      q.body.bind savedVersion? = some (.nat 4) ∧
      (newest? w.app.settings.unsavedChanges s.component before).map (·.revision.version) =
        some 5 := by
  have hseen : ((start taskSettings "c").run? failedReloadRun).bind savingSummary? =
      some { version := 4, newest := some 5, received := 2 } := by
    decide +kernel
  obtain ⟨w, hrun, hsummary⟩ := Option.bind_eq_some_iff.mp hseen
  obtain ⟨before, n, s, changes, q, next, hlog, hask, hversion, hnewest, _⟩ :=
    savingSummary?_eq_some hsummary
  refine ⟨w, before, n, s, changes, q, next, hrun, hlog, hask, ?_, hnewest⟩
  rw [(save_asks hask).2, hversion]

end World

end PropertySheet
