import PropertySheet.Proofs.App.Talk
import PropertySheet.Proofs.Component.Entity

/-!
# What the end of a task tells

A task ends in an event. The event tells what the task has exchanged with the server: a component
that has been loaded is the one that the answer to the first request holds, changes that have been
saved were in the body of a PUT that was accepted, and the user leaves for a service with unsaved
changes only as the policy has it. `Task.ends_promise` says so of every task and of every server.
-/

namespace PropertySheet

open Json

/-! ## Entities in answers -/

/-- The component that an answer holds, read as one of a kind. -/
def Answer.entity? (kind : ComponentKind) (a : Answer) : Option Snapshot :=
  (Client.accepted a >>= Client.decoded Client.anyValue >>= Snapshot.ofEntity kind).toOption

namespace Answer

theorem exists_of_entity? {kind : ComponentKind} {a : Answer} {s : Snapshot}
    (h : a.entity? kind = some s) :
    a.isSuccess ∧ ∃ entity : Value, entity.Distinct ∧ Snapshot.ofEntity kind entity = .ok s := by
  have hread : Client.accepted a >>= Client.decoded Client.anyValue >>= Snapshot.ofEntity kind =
      .ok s := eq_ok_of_toOption h
  obtain ⟨entity, hentity, hs⟩ := exists_of_bind_eq_ok hread
  obtain ⟨text, haccepted, hdecoded⟩ := exists_of_bind_eq_ok hentity
  refine ⟨?_, entity, ?_, hs⟩
  · rw [Client.accepted] at haccepted
    split at haccepted
    next hsuccess => exact hsuccess
    · cases haccepted
  · rw [Client.decoded] at hdecoded
    split at hdecoded
    · cases hdecoded
    next hparse =>
      cases hdecoded
      exact distinct_of_parse? hparse

theorem isSuccess_of_entity? {kind : ComponentKind} {a : Answer} {s : Snapshot}
    (h : a.entity? kind = some s) : a.isSuccess := (exists_of_entity? h).1

/-- The names of the properties of a component that an answer holds are distinct. -/
theorem properties_nodup_of_entity? {kind : ComponentKind} {a : Answer} {s : Snapshot}
    (h : a.entity? kind = some s) : (s.properties.map (·.1)).Nodup := by
  obtain ⟨_, entity, hdistinct, hs⟩ := exists_of_entity? h
  exact Snapshot.properties_nodup hdistinct hs

end Answer

/-! ## Bodies of saves -/

/-- What the body of a save sets a property to. -/
def savedValue? (body : Value) (name : String) : Option Value := do
  let component ← body.get? "component"
  let config := (component.get? "config").getD component
  (← config.get? "properties").get? name

/-- The revision that the body of a save is made against. -/
def savedVersion? (body : Value) : Option Value := do
  (← body.get? "revision").get? "version"

theorem findMember_map_ofText? (name : String) (entries : List (String × Option String)) :
    Value.findMember name (entries.map fun e => (e.1, .ofText? e.2)) =
      (SortedMap.lookupEntry name entries).map .ofText? := by
  induction entries with
  | nil => rfl
  | cons e rest ih =>
    rw [List.map_cons, Value.findMember, SortedMap.lookupEntry, ih]
    split
    · rfl
    · rfl

namespace Snapshot

/-- The body of a save sets the properties that change, and no others. -/
theorem savedValue?_updateBody (s : Snapshot) (changes : Changes) (clientId name : String) :
    savedValue? (s.updateBody changes clientId) name = (changes.get? name).map .ofText? := by
  have hmembers := findMember_map_ofText? name changes.toList
  rw [updateBody]
  cases hnests : s.component.kind.nestsConfig with
  | true => exact hmembers
  | false => exact hmembers

theorem savedVersion?_updateBody (s : Snapshot) (changes : Changes) (clientId : String) :
    savedVersion? (s.updateBody changes clientId) = some (.nat s.revision.version) := rfl

end Snapshot

/-! ## Calls about components -/

namespace Client

/-- The request for a component. -/
def componentQuery (u : Url) : Query := { url := u.withForm [] }

/-- The request that saves changes of a component. -/
def updateQuery (u : Url) (s : Snapshot) (changes : Changes) (clientId : String) : Query :=
  { method := .put, url := u, body := some (s.updateBody changes clientId) }

variable {address clientId : String} {said : List RoundTrip}

/-- What an answer holds is what the client reads there. -/
theorem read_entity {kind : ComponentKind} {q : Query} {r : Option Answer} {s : Snapshot}
    (h : read q anyValue r >>= Snapshot.ofEntity kind = .ok s) :
    ∃ a, r = some a ∧ a.entity? kind = some s := by
  cases r with
  | none => cases h
  | some a =>
    refine ⟨a, rfl, ?_⟩
    have hread : accepted a >>= decoded anyValue >>= Snapshot.ofEntity kind = .ok s := h
    rw [Answer.entity?, hread]
    rfl

/-- A call that reads the component in what another call gives. -/
theorem ends_ofEntity {x : Call Talk Value} {kind : ComponentKind}
    {post : List RoundTrip → Except Failure Snapshot → Prop} :
    (x >>= fun entity => liftM (Snapshot.ofEntity kind entity)).run.Ends post said ↔
      x.run.Ends (fun said r => post said (r >>= Snapshot.ofEntity kind)) said := by
  rw [Call.ends_bind]
  refine Iff.of_eq (congrArg (x.run.Ends · said) ?_)
  funext said r
  cases r with
  | ok entity => exact propext Call.ends_liftM
  | error e => rfl

/-- A component is read in an answer, or the call fails. -/
theorem post_read {q : Query} {kind : ComponentKind}
    {post : List RoundTrip → Except Failure Snapshot → Prop}
    (hfailed : ∀ said e, post said (.error e))
    (hread : ∀ a s, a.entity? kind = some s → post (said ++ [⟨q, some a⟩]) (.ok s))
    (r : Option Answer) : post (said ++ [⟨q, r⟩]) (read q anyValue r >>= Snapshot.ofEntity kind) := by
  cases hs : read q anyValue r >>= Snapshot.ofEntity kind with
  | error e => exact hfailed _ e
  | ok s =>
    obtain ⟨a, rfl, ha⟩ := read_entity hs
    exact hread a s ha

theorem ends_component {component : ComponentRef}
    {post : List RoundTrip → Except Failure Snapshot → Prop}
    (hfailed : ∀ said e, post said (.error e))
    (hread : ∀ u a s, (talkingClient address clientId).url component.path = .ok u →
      a.entity? component.kind = some s → post (said ++ [⟨componentQuery u, some a⟩]) (.ok s)) :
    ((talkingClient address clientId).component component).run.Ends post said := by
  rw [Client.component, ends_ofEntity]
  refine ends_fetch (fun e => hfailed said e) fun u r hu => ?_
  exact post_read hfailed (fun a s ha => hread u a s hu ha) r

theorem ends_update {s : Snapshot} {changes : Changes}
    {post : List RoundTrip → Except Failure Snapshot → Prop}
    (hfailed : ∀ said e, post said (.error e))
    (hread : ∀ u a s', (talkingClient address clientId).url s.component.path = .ok u →
      a.entity? s.component.kind = some s' →
      post (said ++ [⟨updateQuery u s changes clientId, some a⟩]) (.ok s')) :
    ((talkingClient address clientId).update s changes).run.Ends post said := by
  rw [Client.update, ends_ofEntity]
  refine ends_submit (fun e => hfailed said e) fun u r hu => ?_
  exact post_read hfailed (fun a s' ha => hread u a s' hu ha) r

end Client

/-! ## Leaving for a service -/

namespace Host

/-- What has been exchanged before the user leaves with unsaved changes: nothing if there are none
or they are given up, else the newest revision has been fetched and the changes have been saved
against it. -/
inductive Agreed (h : Host Talk) (changes : Changes) : List RoundTrip → Prop
  | unchanged : changes.isEmpty → Agreed h changes []
  | discarded : h.policy = .discard → Agreed h changes []
  | saved {u u' : Url} {a a' : Answer} {s s' : Snapshot} : h.policy = .save →
      h.client.url h.component.path = .ok u → a.entity? h.component.kind = some s →
      h.client.url s.component.path = .ok u' → a'.entity? s.component.kind = some s' →
      Agreed h changes [⟨Client.componentQuery u, some a⟩,
        ⟨Client.updateQuery u' s changes h.client.clientId, some a'⟩]

/-- Changes that are not given up have been saved. -/
theorem Agreed.exists_saved {h : Host Talk} {changes : Changes} {said : List RoundTrip}
    (hagreed : h.Agreed changes said) (hchanges : changes.isEmpty = false)
    (hpolicy : h.policy ≠ .discard) :
    ∃ (k : Nat) (u : Url) (s : Snapshot) (a : Answer),
      said[k]? = some ⟨Client.updateQuery u s changes h.client.clientId, some a⟩ ∧
      a.isSuccess := by
  cases hagreed with
  | unchanged hempty => exact absurd (hempty.symm.trans hchanges) (by decide)
  | discarded hdiscard => exact absurd hdiscard hpolicy
  | saved _ _ _ _ hsaved => exact ⟨1, _, _, _, rfl, Answer.isSuccess_of_entity? hsaved⟩

variable {address clientId : String} {component : ComponentRef} {policy : UnsavedPolicy}

theorem ends_beforeLeaving (changes : Changes) :
    let h : Host Talk := { client := talkingClient address clientId, component, policy }
    (h.beforeLeaving changes).run.Ends (fun said r => r = .ok .proceed → h.Agreed changes said)
      [] := by
  intro h
  rw [beforeLeaving]
  split
  next hempty => exact Talk.ends_pure.mpr fun _ => .unchanged hempty
  · split
    next hdiscard => exact Talk.ends_pure.mpr fun _ => .discarded hdiscard
    · exact Talk.ends_pure.mpr fun hr => nomatch hr
    next hsave =>
      rw [Call.ends_bind]
      refine Client.ends_component (fun _ _ hr => nomatch hr) fun u a s hu ha => ?_
      dsimp only
      rw [Call.ends_bind]
      refine Client.ends_update (fun _ _ hr => nomatch hr) fun u' a' s' hu' ha' => ?_
      exact Talk.ends_pure.mpr fun _ => .saved hsave hu ha hu' ha'

end Host

/-! ## Promises -/

/-- What has been exchanged when the user leaves for a service: the service has been looked up last,
and unsaved changes were dealt with before. -/
def Host.Left (h : Host Talk) (unsaved : Option Changes) (said : List RoundTrip) : Prop :=
  ∀ changes, unsaved = some changes →
    ∃ before last, said = before ++ [last] ∧ h.Agreed changes before

/-- What the event in which a task ends tells about the exchanges of the task. -/
def Task.Promise (c : Client Talk) (policy : UnsavedPolicy) (said : List RoundTrip) (e : AppEvent) :
    Task → Prop
  | .load component => ∃ result, e = .loaded result ∧ ∀ s histories, result = .ok (s, histories) →
      ∃ u a, c.url component.path = .ok u ∧ said[0]? = some ⟨Client.componentQuery u, some a⟩ ∧
        a.entity? component.kind = some s
  | .save s changes => ∃ result, e = .saved result ∧ ∀ s', result = .ok s' →
      ∃ u a, c.url s.component.path = .ok u ∧
        said[0]? = some ⟨Client.updateQuery u s changes c.clientId, some a⟩ ∧
        a.entity? s.component.kind = some s'
  | .respond component q => ∃ r, e = .responded r ∧ r.token = q.token ∧
      ∀ service, r = .serviceLocated q.token (.ok (some service)) →
        ∃ id unsaved, q = .goToService q.token id unsaved ∧
          Host.Left { client := c, component, policy } unsaved said

/-- What a load gives was in the answer to its first request; the history comes after. -/
theorem Client.ends_load {address clientId : String} (component : ComponentRef) :
    ((talkingClient address clientId).load component).run.Ends (fun said r =>
      ∀ s histories, r = .ok (s, histories) →
        ∃ u a, (talkingClient address clientId).url component.path = .ok u ∧
          said[0]? = some ⟨componentQuery u, some a⟩ ∧ a.entity? component.kind = some s) [] := by
  rw [Client.load, Call.ends_bind]
  refine ends_component (fun _ _ _ _ hr => nomatch hr) fun u a s hu ha => ?_
  dsimp only
  rw [Call.ends_bind, Call.ends_tryCatch]
  have hdone : ∀ (rest : List RoundTrip) (histories : Histories),
      (pure (s, histories) : Call Talk (Snapshot × Histories)).run.Ends (fun said r =>
        ∀ s histories, r = .ok (s, histories) →
          ∃ u a, (talkingClient address clientId).url component.path = .ok u ∧
            said[0]? = some ⟨componentQuery u, some a⟩ ∧ a.entity? component.kind = some s)
        (⟨componentQuery u, some a⟩ :: rest) := by
    intro rest histories
    refine Talk.ends_pure.mpr fun s' histories' hr => ?_
    cases hr
    exact ⟨u, a, hu, rfl, ha⟩
  refine ends_fetch (fun e => ?_) fun u' r _ => ?_
  · exact Talk.ends_pure.mpr (hdone [] .empty)
  · cases read { url := u'.withForm [] } Histories.entityDecoder r with
    | ok histories => exact hdone _ histories
    | error e => exact Talk.ends_pure.mpr (hdone _ .empty)

namespace Task

variable {address clientId : String} {policy : UnsavedPolicy}

/-- A service that is looked up is asked for last. -/
theorem ends_locate {h : Host Talk} {address clientId : String}
    (hclient : h.client = talkingClient address clientId) (id : String) {before : List RoundTrip} :
    (h.backend.locate id).Ends (fun said r => ∀ service, r = .ok (some service) →
      ∃ last, said = before ++ [last]) before := by
  refine Talk.ends_bind.mpr ?_
  show ((h.client.service id).run).Ends _ before
  rw [hclient, Client.service]
  refine Client.ends_fetch (fun e => ?_) fun u r _ => ?_
  · exact Talk.ends_pure.mpr fun _ hr => nomatch hr
  · exact Talk.ends_pure.mpr fun _ _ => ⟨_, rfl⟩

theorem ends_leaveFor (component : ComponentRef) (id : String) (unsaved : Option Changes) :
    let h : Host Talk := { client := talkingClient address clientId, component, policy }
    (h.backend.leaveFor id unsaved).Ends (fun said r => ∀ service, r = .ok (some service) →
      h.Left unsaved said) [] := by
  intro h
  cases unsaved with
  | none => exact Talk.ends_of_forall fun _ _ _ _ _ hnone => nomatch hnone
  | some changes =>
    refine Talk.ends_bind.mpr ((Host.ends_beforeLeaving changes).imp fun said r hr => ?_)
    cases r with
    | error e => exact Talk.ends_pure.mpr fun _ hr => nomatch hr
    | ok decision =>
      cases decision with
      | cancelled => exact Talk.ends_pure.mpr fun _ hr => nomatch hr
      | proceed =>
        refine (ends_locate rfl id).imp fun said' r' hlast service hservice => ?_
        obtain ⟨last, hsaid⟩ := hlast service hservice
        intro changes' hchanges
        cases hchanges
        exact ⟨said, last, hsaid, hr rfl⟩

theorem ends_respond (component : ComponentRef) (q : Request) :
    let h : Host Talk := { client := talkingClient address clientId, component, policy }
    (h.backend.dispatch q).Ends (fun said r => r.token = q.token ∧
      ∀ service, r = .serviceLocated q.token (.ok (some service)) →
        ∃ id unsaved, q = .goToService q.token id unsaved ∧ h.Left unsaved said) [] := by
  intro h
  cases q with
  | resolveDescriptor token property =>
    refine Talk.ends_bind.mpr (Talk.ends_of_forall fun said r => Talk.ends_pure.mpr ?_)
    exact ⟨rfl, fun _ hr => nomatch hr⟩
  | listServiceTypes token serviceType =>
    refine Talk.ends_bind.mpr (Talk.ends_of_forall fun said r => Talk.ends_pure.mpr ?_)
    exact ⟨rfl, fun _ hr => nomatch hr⟩
  | createService token scope typeName =>
    refine Talk.ends_bind.mpr (Talk.ends_of_forall fun said r => Talk.ends_pure.mpr ?_)
    exact ⟨rfl, fun _ hr => nomatch hr⟩
  | goToService token id unsaved =>
    refine Talk.ends_bind.mpr ((ends_leaveFor component id unsaved).imp fun said r hr => ?_)
    refine Talk.ends_pure.mpr ⟨rfl, fun service hservice => ⟨id, unsaved, rfl, ?_⟩⟩
    cases hservice
    exact hr service rfl

/-- All that a save sends is one request, to the component of its snapshot, or nothing if that has no
address. -/
theorem exists_says_save_iff (s : Snapshot) (changes : Changes) {said : List RoundTrip} :
    (∃ e, ((Task.save s changes).run (talkingClient address clientId) policy).Says said e) ↔
      (∃ e, (talkingClient address clientId).url s.component.path = .error e ∧ said = []) ∨
      ∃ u answer, (talkingClient address clientId).url s.component.path = .ok u ∧
        said = [⟨Client.updateQuery u s changes clientId, answer⟩] := by
  refine Talk.exists_says_bind_pure.trans (Call.exists_says_bind_liftM.trans ?_)
  exact Client.exists_says_request_iff
    (q := fun u => Client.updateQuery u s changes clientId)

/-- What the host has answered a request with is the event in which the task ends. -/
theorem ends_dispatch (component : ComponentRef) (q : Request) :
    let h : Host Talk := { client := talkingClient address clientId, component, policy }
    ((Task.respond component q).run (talkingClient address clientId) policy).Ends (fun said e =>
      ∃ r, e = .responded r ∧ (h.backend.dispatch q).Says said r) [] := by
  intro h
  exact Talk.ends_bind.mpr (Talk.ends_iff.mpr fun said r hsaid => Talk.ends_pure.mpr ⟨r, rfl, hsaid⟩)

/-- However the server answers, a task keeps its promise. -/
theorem ends_promise (t : Task) :
    (t.run (talkingClient address clientId) policy).Ends
      (fun said e => t.Promise (talkingClient address clientId) policy said e) [] := by
  cases t with
  | load component =>
    refine Talk.ends_bind.mpr ((Client.ends_load component).imp fun said r hr => ?_)
    exact Talk.ends_pure.mpr ⟨r, rfl, hr⟩
  | save s changes =>
    refine Talk.ends_bind.mpr (Client.ends_update (fun said e => ?_) fun u a s' hu ha => ?_)
    · exact Talk.ends_pure.mpr ⟨_, rfl, fun _ hr => nomatch hr⟩
    · refine Talk.ends_pure.mpr ⟨_, rfl, fun s'' hr => ?_⟩
      cases hr
      exact ⟨u, a, hu, rfl, ha⟩
  | respond component q =>
    refine Talk.ends_bind.mpr ((ends_respond component q).imp fun said r hr => ?_)
    exact Talk.ends_pure.mpr ⟨r, rfl, hr⟩

end Task

end PropertySheet
